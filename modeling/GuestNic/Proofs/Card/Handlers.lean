import GuestNic.Proofs.Card.History
import GuestNic.Proofs.Guest.Handlers

/-!
# What calls do to the handler table

Only attaching, detaching and resetting touch the handler table, and of the handlers only the one of
the type that is named. Whether a key is served is what matters to reception: the null routine under
a key counts as no handler.
-/

namespace GuestNic

/-! ## Calls -/

namespace Call

/-- The call gives the key a handler, if it has none. -/
def attaches (key : UInt16) : Call → Bool
  | .attach type _ => type == key
  | _ => false

/-- The call takes the handler of the key away, if there is one. -/
def detaches (key : UInt16) : Call → Bool
  | .detach type => type == key
  | .reset => true
  | _ => false

end Call

namespace Card

variable {σ : Type} {c : Card σ} {key : UInt16} {call : Call}

theorem send_handlers (c : Card σ) (frame : Bytes) : (c.send frame).1.handlers = c.handlers := by
  unfold send
  split
  · rfl
  · split <;> rfl

theorem attach_eq (c : Card σ) (type : UInt16) (routine : Routine) :
    c.attach type routine = ({ c with handlers := (c.handlers.call (.attach type routine)).1 },
      (c.handlers.call (.attach type routine)).2) := by
  simp only [Card.attach, HandlerTable.call]
  cases c.handlers.attach type routine <;> rfl

theorem detach_eq (c : Card σ) (type : UInt16) :
    c.detach type = ({ c with handlers := (c.handlers.call (.detach type)).1 },
      (c.handlers.call (.detach type)).2) := by
  simp only [Card.detach, HandlerTable.call]
  cases c.handlers.detach type <;> rfl

/-- What a call makes of the handler under a key. -/
theorem perform_find? (c : Card σ) (call : Call) (key : UInt16) :
    (c.perform call).1.handlers.find? key = match call with
      | .attach type routine =>
        if key = type ∧ c.handlers.find? key = none then some routine else c.handlers.find? key
      | .detach type => if key = type then none else c.handlers.find? key
      | .reset => none
      | _ => c.handlers.find? key := by
  cases call with
  | attach type routine =>
    rw [perform, attach_eq]
    exact c.handlers.find?_call (.attach type routine) key
  | detach type =>
    rw [perform, detach_eq]
    exact c.handlers.find?_call (.detach type) key
  | reset => rfl
  | transmit memory packet =>
    simp only [perform, transmit]
    split
    · split
      · rfl
      · rw [send_handlers]
    · rfl
  | transmitFrame frame =>
    simp only [perform, transmitFrame]
    split
    · rw [send_handlers]
    · rfl
  | arrive peer frame =>
    simp only [perform, arrive]
    split <;> rfl

theorem perform_find?_of_detaches (h : call.detaches key = true) :
    (c.perform call).1.handlers.find? key = none := by
  rw [perform_find?]
  cases call with
  | detach type => exact if_pos (beq_iff_eq.1 h).symm
  | reset => rfl
  | attach | transmit | transmitFrame | arrive => cases h

theorem perform_find?_of_not_detaches (h : call.detaches key = false) {routine : Routine}
    (hfound : c.handlers.find? key = some routine) :
    (c.perform call).1.handlers.find? key = some routine := by
  rw [perform_find?]
  cases call with
  | attach type other =>
    -- A key that has a handler is not given another one.
    refine (if_neg ?_).trans hfound
    rintro ⟨-, hnone⟩
    rw [hfound] at hnone
    cases hnone
  | detach type =>
    refine (if_neg ?_).trans hfound
    exact fun hkey => beq_eq_false_iff_ne.1 h hkey.symm
  | reset => cases h
  | transmit | transmitFrame | arrive => exact hfound

/-- A key that is not served is so until somebody attaches a handler. -/
theorem perform_active?_of_not_attaches (h : call.attaches key = false)
    (hnone : c.handlers.active? key = none) : (c.perform call).1.handlers.active? key = none := by
  rw [HandlerTable.active?, perform_find?]
  cases call with
  | attach type routine =>
    have hne : key ≠ type := fun hkey => beq_eq_false_iff_ne.1 h hkey.symm
    exact (congrArg _ (if_neg fun hkey => hne hkey.1)).trans hnone
  | detach type =>
    by_cases hkey : key = type
    · exact congrArg _ (if_pos hkey)
    · exact (congrArg _ (if_neg hkey)).trans hnone
  | reset => rfl
  | transmit | transmitFrame | arrive => exact hnone

end Card
end GuestNic
