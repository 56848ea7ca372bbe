import GuestNic.Card.Waiters
import GuestNic.Proofs.Card.Doorbell
import Mathlib.Data.List.Induction

/-!
# What those who wait can rely on

Calls at a doorbell, one after the other, with everyone going whose wait is over. `Ledger` is a
waiting room with what an onlooker has written down about it. `Ledger.CountsWaiters` and
`Ledger.CountsDeliveries` tie the list of those who wait and the doorbell to what has been seen so
far, and `Ledger.IsOrderly` says what one more call does after any others.
-/

namespace GuestNic

/-! ## Waiting rooms -/

namespace WaitingRoom

/-- A call, after which everyone goes whose wait is over. -/
def perform (r : WaitingRoom) : BellCall → WaitingRoom × BellAnswer × List Release
  | .wait =>
    let (room, released) := r.enter
    (room, .done, released)
  | k =>
    let (bell, answer) := r.bell.call k
    let (room, released) := r.update bell
    (room, answer, released)

/-- Those who are there at a call, with the one who comes to wait. -/
def present (r : WaitingRoom) : BellCall → List Nat
  | .wait => r.waiting ++ [r.next]
  | _ => r.waiting

/-- How many have come when a call is made. -/
def arrived (r : WaitingRoom) : BellCall → Nat
  | .wait => r.next + 1
  | _ => r.next

/-- Nobody is there whose wait is over. -/
def IsSettled (r : WaitingRoom) : Prop := r.waiting ≠ [] → r.bell.awaited = none

variable {r : WaitingRoom}

/-- A call is made at the doorbell, and then all who are there find the same. -/
theorem perform_eq (r : WaitingRoom) (k : BellCall) :
    r.perform k =
      match (r.bell.call k).1.awaited with
      | none => (⟨(r.bell.call k).1, r.arrived k, r.present k⟩, (r.bell.call k).2, [])
      | some found =>
        (⟨(r.bell.call k).1, r.arrived k, []⟩, (r.bell.call k).2,
          (r.present k).map fun w => (w, found)) := by
  cases k with
  | wait =>
    simp only [perform, enter, settle, Doorbell.call, present, arrived]
    cases r.bell.awaited <;> rfl
  | ring | take | acknowledge | close =>
    simp only [perform, update, settle, present, arrived]
    generalize (r.bell.call _).1 = bell
    cases bell.awaited <;> rfl

theorem perform_bell (r : WaitingRoom) (k : BellCall) :
    (r.perform k).1.bell = (r.bell.call k).1 ∧ (r.perform k).1.next = r.arrived k ∧
      (r.perform k).2.1 = (r.bell.call k).2 := by
  rw [perform_eq]
  split <;> exact ⟨rfl, rfl, rfl⟩

theorem isSettled_perform (r : WaitingRoom) (k : BellCall) : (r.perform k).1.IsSettled := by
  rw [perform_eq]
  split
  · rename_i hnone
    exact fun _ => hnone
  · exact fun hne => absurd rfl hne

/-- Everyone who is there stays or goes. -/
theorem perform_everyone (r : WaitingRoom) (k : BellCall) :
    (r.perform k).2.2.map Prod.fst ++ (r.perform k).1.waiting = r.present k := by
  rw [perform_eq]
  split
  · rfl
  · simp only [List.map_map, List.append_nil]
    exact List.map_id _

theorem mem_waiting_perform (r : WaitingRoom) (k : BellCall) (n : Nat) :
    n ∈ (r.perform k).1.waiting ↔
      n ∈ r.present k ∧ (r.perform k).1.bell.isPending = true ∧
        (r.perform k).1.bell.isClosed = false := by
  rw [(r.perform_bell k).1, ← Doorbell.awaited_eq_none_iff, perform_eq]
  cases (r.bell.call k).1.awaited <;> simp

theorem mem_released_perform (r : WaitingRoom) (k : BellCall) (n : Nat)
    (found : Except DoorbellClosed Unit) :
    (n, found) ∈ (r.perform k).2.2 ↔
      n ∈ r.present k ∧
        (found = .ok () ∧ (r.perform k).1.bell.isPending = false ∨
          found = .error ⟨⟩ ∧ (r.perform k).1.bell.isPending = true ∧
            (r.perform k).1.bell.isClosed = true) := by
  rw [(r.perform_bell k).1, ← Doorbell.awaited_eq_some_iff, perform_eq]
  cases (r.bell.call k).1.awaited <;> simp [and_comm, eq_comm]

/-- A call that changes nothing at the doorbell and brings nobody changes nothing at all. -/
theorem perform_of_same (h : r.IsSettled) {k : BellCall} {answer : BellAnswer}
    (hbell : r.bell.call k = (r.bell, answer)) (hpresent : r.present k = r.waiting)
    (harrived : r.arrived k = r.next) : r.perform k = (r, answer, []) := by
  rw [perform_eq, hbell, hpresent, harrived]
  obtain ⟨bell, next, waiting⟩ := r
  dsimp only
  cases hfound : bell.awaited with
  | none => rfl
  | some found =>
    -- Whoever was there has gone before.
    have hnobody : waiting = [] := by
      by_contra hne
      have hnone : bell.awaited = none := h hne
      rw [hfound] at hnone
      cases hnone
    subst hnobody
    rfl

end WaitingRoom

/-! ## An onlooker -/

/-- A waiting room, with what an onlooker has written down about it so far. -/
structure Ledger where
  room : WaitingRoom
  /-- What was rung for. -/
  rings : List Delivery
  /-- What was taken, each time after how many rings. -/
  takes : List (Nat × Delivery)
  /-- Who has gone. -/
  gone : List Nat

namespace Ledger

def start : Ledger := { room := .empty, rings := [], takes := [], gone := [] }

/-- Write down one more call. -/
def see (l : Ledger) (k : BellCall) : Ledger :=
  let (room, answer, released) := l.room.perform k
  { room
    rings := l.rings ++ (k.rung? answer).toList
    takes := l.takes ++ answer.taken?.toList.map fun d => (l.rings.length, d)
    gone := l.gone ++ released.map Prod.fst }

def after (l : Ledger) (calls : List BellCall) : Ledger := calls.foldl see l

/-! ## What every call keeps -/

/-- Those who have come are there or have gone, and each of them once. -/
structure CountsWaiters (l : Ledger) : Prop where
  isSettled : l.room.IsSettled
  everyone : (l.gone ++ l.room.waiting).Perm (List.range l.room.next)

variable {l : Ledger}

/-- So it is at a call, with the one who comes to wait. -/
theorem CountsWaiters.everyone_present (h : l.CountsWaiters) (k : BellCall) :
    (l.gone ++ l.room.present k).Perm (List.range (l.room.arrived k)) := by
  cases k with
  | ring | take | acknowledge | close => exact h.everyone
  | wait =>
    show (l.gone ++ (l.room.waiting ++ [l.room.next])).Perm (List.range (l.room.next + 1))
    rw [← List.append_assoc, List.range_succ]
    exact h.everyone.append_right _

theorem CountsWaiters.mem_present_iff (h : l.CountsWaiters) (k : BellCall) (n : Nat) :
    n ∈ l.room.present k ↔ n < l.room.arrived k ∧ n ∉ l.gone := by
  have hperm := h.everyone_present k
  have hmem : n ∈ l.gone ∨ n ∈ l.room.present k ↔ n < l.room.arrived k := by
    rw [← List.mem_append, hperm.mem_iff, List.mem_range]
  have hnodup : (l.gone ++ l.room.present k).Nodup := hperm.nodup_iff.2 List.nodup_range
  refine ⟨fun hn => ⟨hmem.1 (.inr hn), fun hgone => ?_⟩, fun ⟨hlt, hgone⟩ => ?_⟩
  · exact (List.nodup_append.1 hnodup).2.2 n hgone n hn rfl
  · exact (hmem.2 hlt).resolve_left hgone

theorem CountsWaiters.see (h : l.CountsWaiters) (k : BellCall) : (l.see k).CountsWaiters := by
  refine ⟨l.room.isSettled_perform k, ?_⟩
  -- Those who go are moved from the ones who are there to the ones who have gone.
  have hthere := l.room.perform_everyone k
  have hnext := (l.room.perform_bell k).2.1
  show ((l.gone ++ (l.room.perform k).2.2.map Prod.fst) ++ (l.room.perform k).1.waiting).Perm
    (List.range (l.room.perform k).1.next)
  rw [List.append_assoc, hthere, hnext]
  exact h.everyone_present k

theorem countsWaiters_start : start.CountsWaiters :=
  ⟨fun hne => absurd rfl hne, .refl _⟩

/-- What the doorbell holds agrees with what was seen. -/
def CountsDeliveries (l : Ledger) : Prop := l.room.bell.HoldsLast l.rings l.takes

theorem CountsDeliveries.see (h : l.CountsDeliveries) (k : BellCall) :
    (l.see k).CountsDeliveries := by
  obtain ⟨hbell, -, hanswer⟩ := l.room.perform_bell k
  show (l.room.perform k).1.bell.HoldsLast (l.rings ++ (k.rung? (l.room.perform k).2.1).toList)
    (l.takes ++ (l.room.perform k).2.1.taken?.toList.map fun d => (l.rings.length, d))
  rw [hbell, hanswer]
  exact Doorbell.HoldsLast.call h k

theorem countsDeliveries_start : start.CountsDeliveries where
  rung hpending := by cases hpending
  delivery := rfl
  ordered := .nil
  heard n d hmem := by cases hmem

/-! ## Many calls -/

theorem after_snoc (l : Ledger) (calls : List BellCall) (k : BellCall) :
    l.after (calls ++ [k]) = (l.after calls).see k := by
  rw [after, after, List.foldl_append]
  rfl

theorem CountsWaiters.after (h : l.CountsWaiters) (calls : List BellCall) :
    (l.after calls).CountsWaiters := by
  induction calls generalizing l with
  | nil => exact h
  | cons k calls ih => exact ih (h.see k)

theorem CountsDeliveries.after (h : l.CountsDeliveries) (calls : List BellCall) :
    (l.after calls).CountsDeliveries := by
  induction calls generalizing l with
  | nil => exact h
  | cons k calls ih => exact ih (h.see k)

/-- The doorbell is closed once somebody has closed it. -/
theorem after_isClosed (calls : List BellCall) :
    (start.after calls).room.bell.isClosed = true ↔ .close ∈ calls := by
  induction calls using List.reverseRecOn with
  | nil => simp [after, start, WaitingRoom.empty, Doorbell.idle]
  | append_singleton calls k ih =>
    have hbell : ((start.after calls).see k).room.bell =
        ((start.after calls).room.bell.call k).1 := (WaitingRoom.perform_bell _ k).1
    rw [after_snoc, hbell, Doorbell.call_isClosed_iff, ih, List.mem_append, List.mem_singleton,
      eq_comm]

/-! ## One more call -/

/-- What one more call does, whatever went before. -/
structure IsOrderly (l : Ledger) (k : BellCall) : Prop where
  /-- Those who are there have come and have not gone. -/
  present : ∀ n, n ∈ l.room.present k ↔ n < (l.see k).room.next ∧ n ∉ l.gone
  /-- Who is there goes on waiting while something is outstanding and the doorbell is not closed. -/
  waiting : ∀ n, n ∈ (l.see k).room.waiting ↔
    n ∈ l.room.present k ∧ (l.see k).room.bell.isPending = true ∧
      (l.see k).room.bell.isClosed = false
  /-- Otherwise who is there goes, and finds which of the two has ended the wait. -/
  released : ∀ n found, (n, found) ∈ (l.room.perform k).2.2 ↔
    n ∈ l.room.present k ∧
      (found = .ok () ∧ (l.see k).room.bell.isPending = false ∨
        found = .error ⟨⟩ ∧ (l.see k).room.bell.isPending = true ∧
          (l.see k).room.bell.isClosed = true)
  /-- Nobody goes twice. -/
  once : (l.see k).gone.Nodup
  /-- Something is outstanding after a ring at an open doorbell, and stays so until it is
  acknowledged. -/
  outstanding : (l.see k).room.bell.isPending = true ↔
    (∃ d, k = .ring d) ∧ l.room.bell.isClosed = false ∨
      k ≠ .acknowledge ∧ l.room.bell.isPending = true
  /-- A ring that is heard leaves its delivery outstanding. -/
  rung : (l.room.perform k).2.1 = .rung (.ok ()) →
    ∃ d, k = .ring d ∧ (l.see k).room.bell.isPending = true ∧
      (l.see k).room.bell.delivery = some d
  /-- To acknowledge what was outstanding leaves nothing outstanding. -/
  acknowledged : (l.room.perform k).2.1 = .acknowledged true →
    k = .acknowledge ∧ l.room.bell.isPending = true ∧ (l.see k).room.bell.isPending = false ∧
      (l.see k).room.bell.delivery = none
  /-- To acknowledge nothing leaves no trace. -/
  spurious : (l.room.perform k).2.1 = .acknowledged false →
    l.see k = l ∧ (l.room.perform k).2.2 = []
  /-- Only what is outstanding can be unclaimed. -/
  unclaimed : (l.see k).room.bell.delivery ≠ none → (l.see k).room.bell.isPending = true
  /-- To take gives the delivery that was rung for last, if it is outstanding and nobody has taken
  it. -/
  taken : ∀ d, (l.room.perform k).2.1 = .taken (some d) ↔
    k = .take ∧ l.room.bell.isPending = true ∧ l.rings.getLast? = some d ∧
      l.rings.length ∉ l.takes.map Prod.fst
  /-- So whatever was taken was rung for last at that time. -/
  heard : ∀ n d, (n, d) ∈ (l.see k).takes →
    n ≤ (l.see k).rings.length ∧ ((l.see k).rings.take n).getLast? = some d
  /-- No ring is taken twice. -/
  ordered : ((l.see k).takes.map Prod.fst).Pairwise (· < ·)
  /-- A closed doorbell refuses to ring, and nothing changes. -/
  refused : ∀ d, k = .ring d → l.room.bell.isClosed = true →
    l.room.perform k = (l.room, .rung (.error ⟨⟩), []) ∧ l.see k = l
  /-- To close once more changes nothing. -/
  closed : k = .close → l.room.bell.isClosed = true →
    l.see k = l ∧ (l.room.perform k).2.2 = []
  /-- What can be claimed can still be claimed after the doorbell is closed. -/
  claimable : k = .close → (l.see k).room.bell.take.2 = l.room.bell.take.2

/-- A call that changes nothing in the room, releases nobody and is not about a delivery leaves no
trace. -/
theorem see_of_same {k : BellCall} {answer : BellAnswer}
    (h : l.room.perform k = (l.room, answer, [])) (hring : k.rung? answer = none)
    (htake : answer.taken? = none) : l.see k = l := by
  simp only [see, h, hring, htake, Option.toList_none, List.map_nil, List.append_nil]

theorem isOrderly (hw : l.CountsWaiters) (hd : l.CountsDeliveries) (k : BellCall) :
    l.IsOrderly k := by
  obtain ⟨hbell, hnext, hanswer⟩ := l.room.perform_bell k
  have hw' := hw.see k
  have hd' := hd.see k
  have hroom : (l.see k).room.bell = (l.room.bell.call k).1 := hbell
  refine ⟨?_, l.room.mem_waiting_perform k, l.room.mem_released_perform k, ?_, ?_, ?_, ?_, ?_, ?_,
    ?_, hd'.heard, hd'.ordered, ?_, ?_, ?_⟩
  · intro n
    have hmem := hw.mem_present_iff k n
    rw [← hnext] at hmem
    exact hmem
  · have hnodup := hw'.everyone.nodup_iff.2 List.nodup_range
    exact (List.nodup_append.1 hnodup).1
  · rw [hroom]
    exact Doorbell.call_isPending_iff
  · intro hrung
    rw [hanswer] at hrung
    obtain ⟨d, hk, -, hcall⟩ := Doorbell.of_call_eq_rung_ok hrung
    rw [hroom, hcall]
    exact ⟨d, hk, rfl, rfl⟩
  · intro hacknowledged
    rw [hanswer] at hacknowledged
    obtain ⟨hk, hp, hcall⟩ := Doorbell.of_call_eq_acknowledged_true hacknowledged
    rw [hroom, hcall]
    exact ⟨hk, hp, rfl, rfl⟩
  · intro hspurious
    rw [hanswer] at hspurious
    obtain ⟨rfl, hp⟩ := Doorbell.of_call_eq_acknowledged_false hspurious
    have hsame := WaitingRoom.perform_of_same hw.isSettled
      (Doorbell.call_acknowledge_of_not_isPending hp) rfl rfl
    exact ⟨see_of_same hsame rfl rfl, congrArg (·.2.2) hsame⟩
  · intro hne
    obtain ⟨d, hsome⟩ := Option.ne_none_iff_exists'.1 hne
    exact (hd'.delivery_eq_some_iff.1 hsome).1
  · intro d
    rw [hanswer, Doorbell.call_eq_taken_iff, hd.delivery_eq_some_iff]
    tauto
  · rintro d rfl hc
    have hsame := WaitingRoom.perform_of_same hw.isSettled
      (Doorbell.call_ring_of_isClosed hc d) rfl rfl
    exact ⟨hsame, see_of_same hsame rfl rfl⟩
  · rintro rfl hc
    have hsame := WaitingRoom.perform_of_same hw.isSettled
      (Doorbell.call_close_of_isClosed hc) rfl rfl
    exact ⟨see_of_same hsame rfl rfl, congrArg (·.2.2) hsame⟩
  · rintro rfl
    have hclosed : (l.see .close).room.bell = l.room.bell.close := hbell
    rw [hclosed, Doorbell.take_close]

end Ledger
end GuestNic
