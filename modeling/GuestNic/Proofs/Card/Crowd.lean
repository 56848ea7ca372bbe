import GuestNic.Proofs.Card.Waiters
import Mathlib.Data.List.Perm.Basic

/-!
# Waiters that sleep and are woken

A waiting room does not say how those who wait get to know that their wait is over. `Crowd` does:
they are threads that look at the doorbell and go or fall asleep. To acknowledge and to close wakes
all who sleep, to ring and to take wakes nobody, and now and then somebody wakes up for no reason.
However they take turns, once everyone has looked the crowd is as the waiting room says
(`Crowd.live_agrees`): nobody sleeps whose wait is over.
-/

namespace GuestNic

/-- A doorbell and the threads that wait at it. -/
structure Crowd where
  bell : Doorbell
  /-- The number of the next waiter. -/
  next : Nat
  /-- Who is about to look at the doorbell. -/
  looking : List Nat
  asleep : List Nat

/-- A turn of somebody who waits. -/
inductive WaiterTurn where
  /-- Look at the doorbell, and go or fall asleep. -/
  | look (w : Nat)
  /-- Wake up without having been woken. -/
  | stir (w : Nat)

/-- A call, with some turns of those who wait behind it. -/
structure Episode where
  call : BellCall
  turns : List WaiterTurn

namespace Crowd

def empty : Crowd := { bell := .idle, next := 0, looking := [], asleep := [] }

def wakeAll (c : Crowd) : Crowd := { c with looking := c.looking ++ c.asleep, asleep := [] }

/-- A call at the doorbell. An acknowledgment of nothing wakes nobody. -/
def call (c : Crowd) (k : BellCall) : Crowd × BellAnswer :=
  let (bell, answer) := c.bell.call k
  let c := { c with bell }
  match k, answer with
  | .wait, _ => ({ c with next := c.next + 1, looking := c.looking ++ [c.next] }, answer)
  | .close, _ => (c.wakeAll, answer)
  | .acknowledge, .acknowledged true => (c.wakeAll, answer)
  | _, _ => (c, answer)

def turn (c : Crowd) : WaiterTurn → Crowd × List Release
  | .look w =>
    if w ∈ c.looking then
      match c.bell.awaited with
      | none => ({ c with looking := c.looking.erase w, asleep := c.asleep ++ [w] }, [])
      | some found => ({ c with looking := c.looking.erase w }, [(w, found)])
    else (c, [])
  | .stir w =>
    if w ∈ c.asleep then
      ({ c with looking := c.looking ++ [w], asleep := c.asleep.erase w }, [])
    else (c, [])

/-- Turns one after the other, with those who go. -/
def turns : Crowd → List WaiterTurn → Crowd × List Release
  | c, [] => (c, [])
  | c, t :: ts =>
    let (c, released) := c.turn t
    let (c, more) := turns c ts
    (c, released ++ more)

/-- Let everyone look who is about to. -/
def finish (c : Crowd) : Crowd × List Release := c.turns (c.looking.map .look)

/-- A call, some turns, and then everyone looks. -/
def live (c : Crowd) (e : Episode) : Crowd × BellAnswer × List Release :=
  let (c, answer) := c.call e.call
  let (c, released) := c.turns e.turns
  let (c, more) := c.finish
  (c, answer, released ++ more)

def after (c : Crowd) (episodes : List Episode) : Crowd :=
  episodes.foldl (fun c e => (c.live e).1) c

variable {c c' c'' : Crowd} {released more : List Release}

/-! ## Calls -/

theorem call_acknowledge_of_isPending (h : c.bell.isPending = true) :
    c.call .acknowledge =
      ({ c with
          bell := { c.bell with isPending := false, delivery := none }
          looking := c.looking ++ c.asleep
          asleep := [] }, .acknowledged true) := by
  simp only [call, wakeAll, Doorbell.call_acknowledge_of_isPending h]

theorem call_acknowledge_of_not_isPending (h : c.bell.isPending = false) :
    c.call .acknowledge = (c, .acknowledged false) := by
  simp only [call, Doorbell.call_acknowledge_of_not_isPending h]

/-! ## Turns -/

/-- What turns can do. Nobody comes, who goes has found the end of the wait, and nobody falls asleep
whose wait is over. -/
structure Goes (c c' : Crowd) (released : List Release) : Prop where
  bell : c'.bell = c.bell
  next : c'.next = c.next
  everyone : (released.map Prod.fst ++ (c'.looking ++ c'.asleep)).Perm (c.looking ++ c.asleep)
  found : ∀ x ∈ released, c.bell.awaited = some x.2
  awake : c.bell.awaited ≠ none → c.asleep = [] → c'.asleep = []

theorem Goes.refl (c : Crowd) : c.Goes c [] :=
  ⟨rfl, rfl, .refl _, (by simp), fun _ hawake => hawake⟩

theorem Goes.trans (h : c.Goes c' released) (h' : c'.Goes c'' more) :
    c.Goes c'' (released ++ more) where
  bell := h'.bell.trans h.bell
  next := h'.next.trans h.next
  everyone := by
    rw [List.map_append, List.append_assoc]
    exact (h'.everyone.append_left _).trans h.everyone
  found x hx := by
    rcases List.mem_append.1 hx with hx | hx
    · exact h.found x hx
    · rw [← h.bell]
      exact h'.found x hx
  awake hover hawake := by
    have hawake' := h.awake hover hawake
    rw [← h.bell] at hover
    exact h'.awake hover hawake'

/-- While the wait is not over, nobody goes. -/
theorem Goes.released_eq_nil (h : c.Goes c' released) (hawaited : c.bell.awaited = none) :
    released = [] := by
  refine List.eq_nil_iff_forall_not_mem.2 fun x hx => ?_
  have hfound := h.found x hx
  rw [hawaited] at hfound
  cases hfound

/-- When it is over, all who go find the same. -/
theorem Goes.released_eq_map {found : Except DoorbellClosed Unit} (h : c.Goes c' released)
    (hawaited : c.bell.awaited = some found) :
    released = (released.map Prod.fst).map fun w => (w, found) := by
  rw [List.map_map]
  refine (List.map_id' _).symm.trans (List.map_congr_left fun x hx => ?_)
  have hfound := (h.found x hx).symm.trans hawaited
  exact Prod.ext rfl (Option.some.inj hfound)

theorem turn_goes (c : Crowd) (t : WaiterTurn) : c.Goes (c.turn t).1 (c.turn t).2 := by
  cases t with
  | look w =>
    simp only [turn]
    split
    · rename_i hlooking
      have hout := List.perm_cons_erase hlooking
      cases hawaited : c.bell.awaited with
      | none =>
        refine ⟨rfl, rfl, ?_, by simp, fun hover => absurd hawaited hover⟩
        -- Who falls asleep is still there.
        have hmoved : (c.looking.erase w ++ (c.asleep ++ [w])).Perm
            (w :: (c.looking.erase w ++ c.asleep)) := by
          rw [← List.append_assoc]
          exact List.perm_append_singleton ..
        exact hmoved.trans (hout.symm.append_right _)
      | some found =>
        refine ⟨rfl, rfl, ?_, ?_, fun _ hawake => hawake⟩
        · exact hout.symm.append_right c.asleep
        · intro x hx
          rw [List.mem_singleton.1 hx]
          exact hawaited
    · exact .refl c
  | stir w =>
    simp only [turn]
    split
    · rename_i hasleep
      refine ⟨rfl, rfl, ?_, by simp, ?_⟩
      · have hup := List.perm_cons_erase hasleep
        have hmoved : (c.looking ++ [w] ++ c.asleep.erase w).Perm
            (c.looking ++ (w :: c.asleep.erase w)) := by
          rw [List.append_assoc]
          exact .refl _
        exact hmoved.trans (hup.symm.append_left _)
      · -- Whoever stirs has slept before.
        intro _ hawake
        rw [hawake] at hasleep
        cases hasleep
    · exact .refl c

theorem turns_goes (c : Crowd) (ts : List WaiterTurn) : c.Goes (c.turns ts).1 (c.turns ts).2 := by
  induction ts generalizing c with
  | nil => exact .refl c
  | cons t ts ih => exact (c.turn_goes t).trans (ih (c.turn t).1)

/-- Once everyone has looked, nobody is about to. -/
theorem finish_looking (c : Crowd) : c.finish.1.looking = [] := by
  unfold finish
  -- By induction on the list that was drawn up at the beginning: each look takes its first out.
  generalize hws : c.looking = ws
  induction ws generalizing c with
  | nil => exact hws
  | cons w ws ih =>
    have hlook : (c.turn (.look w)).1.looking = ws := by
      have hmem : w ∈ c.looking := hws ▸ List.mem_cons_self
      simp only [turn, if_pos hmem]
      split <;> rw [hws, List.erase_cons_head]
    exact ih _ hlook

/-! ## Episodes -/

/-- Everyone has looked, and those who sleep are those who wait in the room. -/
structure Agrees (c : Crowd) (r : WaitingRoom) : Prop where
  bell : c.bell = r.bell
  next : c.next = r.next
  looking : c.looking = []
  asleep : c.asleep.Perm r.waiting

variable {r : WaitingRoom}

/-- A call finds everyone there, and nobody sleeps on whose wait it ends. -/
structure Called (c : Crowd) (r : WaitingRoom) (k : BellCall) : Prop where
  bell : (c.call k).1.bell = (r.bell.call k).1
  next : (c.call k).1.next = r.arrived k
  answer : (c.call k).2 = (r.bell.call k).2
  present : ((c.call k).1.looking ++ (c.call k).1.asleep).Perm (r.present k)
  awake : (c.call k).1.bell.awaited ≠ none → (c.call k).1.asleep = []

theorem Agrees.called (h : c.Agrees r) (hr : r.IsSettled) (k : BellCall) : c.Called r k := by
  obtain ⟨bell, next, looking, asleep⟩ := c
  obtain ⟨rfl, rfl, rfl, hasleep⟩ := h
  -- Nobody slept whose wait was over before.
  have hawake : r.bell.awaited ≠ none → asleep = [] := by
    intro hover
    by_contra hne
    exact hover (hr fun hnobody => hne (hnobody ▸ hasleep).eq_nil)
  -- Those who are woken are the ones who slept.
  have hthere : ([] ++ asleep ++ []).Perm r.waiting := by
    rwa [List.nil_append, List.append_nil]
  cases k with
  | ring d =>
    refine ⟨rfl, rfl, rfl, hasleep, ?_⟩
    show (r.bell.call (.ring d)).1.awaited ≠ none → asleep = []
    cases hc : r.bell.isClosed with
    | true =>
      rw [Doorbell.call_ring_of_isClosed hc]
      exact hawake
    | false =>
      -- Now something is outstanding, whatever was before.
      have hnone : ({ r.bell with isPending := true, delivery := some d } : Doorbell).awaited =
          none := Doorbell.awaited_eq_none_iff.2 ⟨rfl, hc⟩
      rw [Doorbell.call_ring_of_not_isClosed hc]
      exact fun hover => absurd hnone hover
  | take =>
    refine ⟨rfl, rfl, rfl, hasleep, ?_⟩
    show (r.bell.call .take).1.awaited ≠ none → asleep = []
    cases hp : r.bell.isPending with
    | true =>
      rw [Doorbell.call_take_of_isPending hp]
      exact hawake
    | false =>
      rw [Doorbell.call_take_of_not_isPending hp]
      exact hawake
  | acknowledge =>
    cases hp : r.bell.isPending with
    | true =>
      have hcall := call_acknowledge_of_isPending (c := ⟨r.bell, r.next, [], asleep⟩) hp
      refine ⟨?_, congrArg (·.1.next) hcall, ?_, ?_, ?_⟩
      · rw [hcall, Doorbell.call_acknowledge_of_isPending hp]
      · rw [hcall, Doorbell.call_acknowledge_of_isPending hp]
      · rw [hcall]
        exact hthere
      · rw [hcall]
        exact fun _ => rfl
    | false =>
      have hcall := call_acknowledge_of_not_isPending (c := ⟨r.bell, r.next, [], asleep⟩) hp
      refine ⟨?_, congrArg (·.1.next) hcall, ?_, ?_, ?_⟩
      · rw [hcall, Doorbell.call_acknowledge_of_not_isPending hp]
      · rw [hcall, Doorbell.call_acknowledge_of_not_isPending hp]
      · rw [hcall]
        exact hasleep
      · rw [hcall]
        exact hawake
  | close => exact ⟨rfl, rfl, rfl, hthere, fun _ => rfl⟩
  | wait =>
    refine ⟨rfl, rfl, rfl, ?_, hawake⟩
    exact (List.perm_append_comm ..).trans (hasleep.append_right _)

/-- When everyone has looked after a call, the crowd is as the waiting room says, and the same have
gone and have found the same. -/
theorem live_agrees (h : c.Agrees r) (hr : r.IsSettled) (e : Episode) :
    (c.live e).1.Agrees (r.perform e.call).1 ∧
      (c.live e).2.1 = (r.perform e.call).2.1 ∧
      (c.live e).2.2.Perm (r.perform e.call).2.2 := by
  have hcalled := h.called hr e.call
  let called := (c.call e.call).1
  let turned := (called.turns e.turns).1
  -- The turns behind the call and the last look of everyone are turns alike.
  have hgoes : called.Goes (c.live e).1 (c.live e).2.2 :=
    (called.turns_goes e.turns).trans (turned.turns_goes (turned.looking.map .look))
  have hlooked : (c.live e).1.looking = [] := finish_looking turned
  have hbell : (c.live e).1.bell = (r.bell.call e.call).1 := hgoes.bell.trans hcalled.bell
  have hnext : (c.live e).1.next = r.arrived e.call := hgoes.next.trans hcalled.next
  have hthere : ((c.live e).2.2.map Prod.fst ++ (c.live e).1.asleep).Perm (r.present e.call) := by
    have heveryone := hgoes.everyone.trans hcalled.present
    rwa [hlooked, List.nil_append] at heveryone
  rw [WaitingRoom.perform_eq]
  cases hawaited : (r.bell.call e.call).1.awaited with
  | none =>
    have hnobody : (c.live e).2.2 = [] := hgoes.released_eq_nil (hcalled.bell ▸ hawaited)
    rw [hnobody] at hthere
    exact ⟨⟨hbell, hnext, hlooked, hthere⟩, hcalled.answer, hnobody ▸ .refl _⟩
  | some found =>
    have hover : called.bell.awaited = some found := hcalled.bell ▸ hawaited
    have hne : called.bell.awaited ≠ none := hover ▸ Option.some_ne_none found
    have hawake : (c.live e).1.asleep = [] := hgoes.awake hne (hcalled.awake hne)
    rw [hawake, List.append_nil] at hthere
    refine ⟨⟨hbell, hnext, hlooked, hawake ▸ .refl _⟩, hcalled.answer, ?_⟩
    rw [hgoes.released_eq_map hover]
    exact hthere.map _

/-! ## Histories -/

theorem agrees_empty : empty.Agrees .empty := ⟨rfl, rfl, rfl, .refl _⟩

theorem after_snoc (c : Crowd) (past : List Episode) (e : Episode) :
    c.after (past ++ [e]) = ((c.after past).live e).1 := by
  rw [after, after, List.foldl_append]
  rfl

/-- After any episodes the crowd is as the waiting room says after the same calls. -/
theorem after_agrees (past : List Episode) :
    (empty.after past).Agrees (Ledger.start.after (past.map Episode.call)).room := by
  induction past using List.reverseRecOn with
  | nil => exact agrees_empty
  | append_singleton past e ih =>
    have hsettled := (Ledger.countsWaiters_start.after (past.map Episode.call)).isSettled
    rw [after_snoc, List.map_append, List.map_singleton, Ledger.after_snoc]
    exact (live_agrees ih hsettled e).1

/-- The doorbell and those who wait at it, whatever is done in whatever order, and however those who
wait take turns. The crowd is as the waiting room says before and after one more call, with the same
answer, and the same go and find the same. So one more call is orderly, whatever went before; and
the doorbell is closed once somebody has closed it. -/
theorem doorbell_releases_waiters (past : List Episode) (e : Episode) :
    let calls := past.map Episode.call
    let ledger := Ledger.start.after calls
    let lived := (empty.after past).live e
    let performed := ledger.room.perform e.call
    (empty.after past).Agrees ledger.room ∧
      (lived.1.Agrees performed.1 ∧ lived.2.1 = performed.2.1 ∧ lived.2.2.Perm performed.2.2) ∧
      ledger.IsOrderly e.call ∧
      (ledger.room.bell.isClosed = true ↔ .close ∈ calls) := by
  intro calls ledger lived performed
  have hwaiters : ledger.CountsWaiters := Ledger.countsWaiters_start.after calls
  have hdeliveries : ledger.CountsDeliveries := Ledger.countsDeliveries_start.after calls
  have hagrees := after_agrees past
  exact ⟨hagrees, live_agrees hagrees hwaiters.isSettled e,
    Ledger.isOrderly hwaiters hdeliveries e.call, Ledger.after_isClosed calls⟩

end Crowd
end GuestNic
