import GuestNic.Proofs.Threads.Step

/-!
# The hand-over under every schedule

However the reception thread, the guest threads and the shutdown take turns, deliveries pass one by
one from the ring over a taker and an upcall to the acknowledgment. `Phase` says where the one
delivery in flight is and ties the doorbell, the guest threads and the trace together; `HandOver` is
the invariant of all schedules.
-/

namespace GuestNic

/-! ## What a trace tells -/

namespace Mark

def rung? : Mark → Option Delivery
  | .rang d => some d
  | _ => none

def taken? : Mark → Option (Nat × Delivery)
  | .took i d => some (i, d)
  | _ => none

def handed? : Mark → Option (Nat × Delivery)
  | .handed i d => some (i, d)
  | _ => none

def acknowledged? : Mark → Option (Nat × Delivery)
  | .acknowledged i d _ => some (i, d)
  | _ => none

/-- The deliveries that were rung for, in order. -/
def rings (t : List Mark) : List Delivery := t.filterMap rung?

/-- The deliveries that were taken and by which thread, in order. -/
def takes (t : List Mark) : List (Nat × Delivery) := t.filterMap taken?

/-- The deliveries that were handed to the guest. -/
def hands (t : List Mark) : List (Nat × Delivery) := t.filterMap handed?

/-- The deliveries whose takers acknowledged. -/
def acks (t : List Mark) : List (Nat × Delivery) := t.filterMap acknowledged?

theorem rings_append (s t : List Mark) : rings (s ++ t) = rings s ++ rings t :=
  List.filterMap_append

theorem takes_append (s t : List Mark) : takes (s ++ t) = takes s ++ takes t :=
  List.filterMap_append

theorem hands_append (s t : List Mark) : hands (s ++ t) = hands s ++ hands t :=
  List.filterMap_append

theorem acks_append (s t : List Mark) : acks (s ++ t) = acks s ++ acks t :=
  List.filterMap_append

theorem filterMap_snoc {α β : Type} (f : α → Option β) (t : List α) (x : α) :
    (t ++ [x]).filterMap f = t.filterMap f ++ (f x).toList := by
  rw [List.filterMap_append, List.filterMap_cons]
  cases f x <;> rfl

@[simp] theorem rings_snoc (t : List Mark) (x : Mark) :
    rings (t ++ [x]) = rings t ++ x.rung?.toList := filterMap_snoc rung? t x

@[simp] theorem takes_snoc (t : List Mark) (x : Mark) :
    takes (t ++ [x]) = takes t ++ x.taken?.toList := filterMap_snoc taken? t x

@[simp] theorem hands_snoc (t : List Mark) (x : Mark) :
    hands (t ++ [x]) = hands t ++ x.handed?.toList := filterMap_snoc handed? t x

@[simp] theorem acks_snoc (t : List Mark) (x : Mark) :
    acks (t ++ [x]) = acks t ++ x.acknowledged?.toList := filterMap_snoc acknowledged? t x

/-- What must have happened before each step. The reception thread reads, and rings, only when
everything that was rung for has been acknowledged by its taker; after the doorbell was closed it
may still read but rings no more. What is taken is the last that was rung for, what is handed over
is the last that was taken, and what is acknowledged is the last that was handed over, with
success. -/
def Orderly (past : List Mark) : Mark → Prop
  | .read => .silenced ∈ past ∨ rings past = (acks past).map Prod.snd
  | .rang _ => .silenced ∉ past ∧ rings past = (acks past).map Prod.snd
  | .took _ d => rings past = (takes past).map Prod.snd ++ [d]
  | .handed i d =>
    rings past = (takes past).map Prod.snd ∧ takes past = hands past ++ [(i, d)]
  | .acknowledged i d answer =>
    answer = true ∧ rings past = (takes past).map Prod.snd ∧ takes past = hands past ∧
      hands past = acks past ++ [(i, d)]
  | _ => True

/-- Each step of a trace finds its past as `P` wants it. -/
def Throughout (P : List Mark → Mark → Prop) (t : List Mark) : Prop :=
  ∀ past x future, t = past ++ x :: future → P past x

theorem throughout_nil {P : List Mark → Mark → Prop} : Throughout P [] := by
  intro past x future h
  cases past <;> cases h

theorem Throughout.snoc {P : List Mark → Mark → Prop} {t : List Mark} {x : Mark}
    (h : Throughout P t) (hx : P t x) : Throughout P (t ++ [x]) := by
  intro past y future heq
  -- Either the new step is the one in question, or it stands at the end of its future.
  rcases List.eq_nil_or_concat future with rfl | ⟨future, z, rfl⟩
  · obtain ⟨rfl, hy⟩ := List.append_inj' heq rfl
    cases hy
    exact hx
  · have heq : t ++ [x] = (past ++ y :: future) ++ [z] := by simpa using heq
    exact h past y future (List.append_inj' heq rfl).1

end Mark

open Mark

/-- The reception thread may come to ring without passing the acknowledgment. -/
def ReceiverPoint.isBeforeRing : ReceiverPoint → Bool
  | .announce | .await | .ended => false
  | _ => true

namespace Threads

variable {σ : Type}

/-! ## The delivery in flight -/

/-- Where the one delivery in flight is, with what has happened so far. -/
inductive Phase (bell : Doorbell) (guests : Nat → GuestPoint) (t : List Mark) : Prop where
  /-- There is none. -/
  | quiet (hp : bell.isPending = false) (hd : bell.delivery = none)
      (hg : ∀ j, guests j = .idle) (hr : rings t = (takes t).map Prod.snd)
      (ht : takes t = hands t) (hh : hands t = acks t)
  /-- It waits to be taken. -/
  | rung {d : Delivery} (hp : bell.isPending = true) (hd : bell.delivery = some d)
      (hg : ∀ j, guests j = .idle) (hr : rings t = (takes t).map Prod.snd ++ [d])
      (ht : takes t = hands t) (hh : hands t = acks t)
  /-- A guest thread has taken it. -/
  | upcalling {i : Nat} {d : Delivery} (hp : bell.isPending = true) (hd : bell.delivery = none)
      (hg : guests i = .upcall d) (ho : ∀ j, j ≠ i → guests j = .idle)
      (hr : rings t = (takes t).map Prod.snd) (ht : takes t = hands t ++ [(i, d)])
      (hh : hands t = acks t)
  /-- Its taker has handed it to the guest. -/
  | acknowledging {i : Nat} {d : Delivery} (hp : bell.isPending = true)
      (hd : bell.delivery = none) (hg : guests i = .acknowledge d)
      (ho : ∀ j, j ≠ i → guests j = .idle) (hr : rings t = (takes t).map Prod.snd)
      (ht : takes t = hands t) (hh : hands t = acks t ++ [(i, d)])

namespace Phase

variable {bell bell' : Doorbell} {guests : Nat → GuestPoint} {t s : List Mark}

/-- Steps that no hand-over is made of do not change the phase. -/
theorem append (h : Phase bell guests t) (hp : bell'.isPending = bell.isPending)
    (hd : bell'.delivery = bell.delivery) (hr : rings s = []) (ht : takes s = [])
    (hh : hands s = []) (ha : acks s = []) : Phase bell' guests (t ++ s) := by
  have hr' : rings (t ++ s) = rings t := by rw [rings_append, hr, List.append_nil]
  have ht' : takes (t ++ s) = takes t := by rw [takes_append, ht, List.append_nil]
  have hh' : hands (t ++ s) = hands t := by rw [hands_append, hh, List.append_nil]
  have ha' : acks (t ++ s) = acks t := by rw [acks_append, ha, List.append_nil]
  cases h with
  | quiet h₁ h₂ h₃ h₄ h₅ h₆ =>
    exact .quiet (hp.trans h₁) (hd.trans h₂) h₃ (by rwa [hr', ht']) (by rwa [ht', hh'])
      (by rwa [hh', ha'])
  | rung h₁ h₂ h₃ h₄ h₅ h₆ =>
    exact .rung (hp.trans h₁) (hd.trans h₂) h₃ (by rwa [hr', ht']) (by rwa [ht', hh'])
      (by rwa [hh', ha'])
  | upcalling h₁ h₂ h₃ h₄ h₅ h₆ h₇ =>
    exact .upcalling (hp.trans h₁) (hd.trans h₂) h₃ h₄ (by rwa [hr', ht']) (by rwa [ht', hh'])
      (by rwa [hh', ha'])
  | acknowledging h₁ h₂ h₃ h₄ h₅ h₆ h₇ =>
    exact .acknowledging (hp.trans h₁) (hd.trans h₂) h₃ h₄ (by rwa [hr', ht']) (by rwa [ht', hh'])
      (by rwa [hh', ha'])

/-- With no ring outstanding everything is settled. -/
theorem settled (h : Phase bell guests t) (hp : bell.isPending = false) :
    bell.delivery = none ∧ (∀ j, guests j = .idle) ∧ rings t = (takes t).map Prod.snd ∧
      takes t = hands t ∧ hands t = acks t := by
  cases h with
  | quiet _ hd hg hr ht hh => exact ⟨hd, hg, hr, ht, hh⟩
  | rung hp' | upcalling hp' | acknowledging hp' => rw [hp] at hp'; cases hp'

theorem rings_eq_acks (h : Phase bell guests t) (hp : bell.isPending = false) :
    rings t = (acks t).map Prod.snd := by
  obtain ⟨-, -, hr, ht, hh⟩ := h.settled hp
  rw [hr, ht, hh]

/-- Every ring has been taken but the one whose delivery still waits. -/
theorem rings_eq_takes (h : Phase bell guests t) :
    rings t = (takes t).map Prod.snd ++ bell.delivery.toList := by
  cases h with
  | quiet _ hd _ hr => rw [hd, hr]; exact (List.append_nil _).symm
  | rung _ hd _ hr => rw [hd, hr]; rfl
  | upcalling _ hd _ _ hr => rw [hd, hr]; exact (List.append_nil _).symm
  | acknowledging _ hd _ _ hr => rw [hd, hr]; exact (List.append_nil _).symm

/-- A ring for which a delivery still waits is outstanding. -/
theorem isPending_of_delivery (h : Phase bell guests t) {d : Delivery}
    (hd : bell.delivery = some d) : bell.isPending = true := by
  cases h with
  | quiet _ hd' => rw [hd] at hd'; cases hd'
  | rung hp | upcalling hp | acknowledging hp => exact hp

theorem rang (h : Phase bell guests t) (hp : bell.isPending = false) {d : Delivery} :
    Phase { bell with isPending := true, delivery := some d } guests (t ++ [.rang d]) := by
  obtain ⟨-, hg, hr, ht, hh⟩ := h.settled hp
  refine .rung rfl rfl hg ?_ ?_ ?_
  · simp [hr, rung?, taken?]
  · simp [ht, taken?, handed?]
  · simp [hh, handed?, acknowledged?]

theorem took (h : Phase bell guests t) {i : Nat} {d : Delivery} (hd : bell.delivery = some d) :
    rings t = (takes t).map Prod.snd ++ [d] ∧
      Phase { bell with delivery := none } (Function.update guests i (.upcall d))
        (t ++ [.took i d]) := by
  cases h with
  | quiet _ hd' | upcalling _ hd' | acknowledging _ hd' => rw [hd] at hd'; cases hd'
  | rung hp hd' hg hr ht hh =>
    rw [hd] at hd'
    cases hd'
    refine ⟨hr, .upcalling hp rfl (Function.update_self ..) ?_ ?_ ?_ ?_⟩
    · intro j hj
      rw [Function.update_of_ne hj]
      exact hg j
    · simp [hr, rung?, taken?]
    · simp [ht, taken?, handed?]
    · simp [hh, handed?, acknowledged?]

theorem handed (h : Phase bell guests t) {i : Nat} {d : Delivery} (hi : guests i = .upcall d) :
    (rings t = (takes t).map Prod.snd ∧ takes t = hands t ++ [(i, d)]) ∧
      Phase bell (Function.update guests i (.acknowledge d)) (t ++ [.handed i d]) := by
  cases h with
  | quiet _ _ hg | rung _ _ hg => rw [hg i] at hi; cases hi
  -- Only one thread is in a service, and it stands at the other step.
  | @acknowledging i' d' _ _ hg ho =>
    by_cases hii : i = i'
    · rw [hii, hg] at hi; cases hi
    · rw [ho i hii] at hi; cases hi
  | @upcalling i' d' hp hd hg ho hr ht hh =>
    obtain rfl : i = i' := by
      by_contra hii
      rw [ho i hii] at hi
      cases hi
    rw [hg] at hi
    cases hi
    refine ⟨⟨hr, ht⟩, .acknowledging hp hd (Function.update_self ..) ?_ ?_ ?_ ?_⟩
    · intro j hj
      rw [Function.update_of_ne hj]
      exact ho j hj
    · simp [hr, rung?, taken?]
    · simp [ht, taken?, handed?]
    · simp [hh, handed?, acknowledged?]

theorem acknowledged (h : Phase bell guests t) {i : Nat} {d : Delivery}
    (hi : guests i = .acknowledge d) :
    bell.acknowledge = ({ bell with isPending := false, delivery := none }, true) ∧
      (rings t = (takes t).map Prod.snd ∧ takes t = hands t ∧ hands t = acks t ++ [(i, d)]) ∧
      ∀ answer, Phase { bell with isPending := false, delivery := none }
        (Function.update guests i .idle) (t ++ [.acknowledged i d answer]) := by
  cases h with
  | quiet _ _ hg | rung _ _ hg => rw [hg i] at hi; cases hi
  -- Only one thread is in a service, and it stands at the other step.
  | @upcalling i' d' _ _ hg ho =>
    by_cases hii : i = i'
    · rw [hii, hg] at hi; cases hi
    · rw [ho i hii] at hi; cases hi
  | @acknowledging i' d' hp hd hg ho hr ht hh =>
    obtain rfl : i = i' := by
      by_contra hii
      rw [ho i hii] at hi
      cases hi
    rw [hg] at hi
    cases hi
    refine ⟨if_pos hp, ⟨hr, ht, hh⟩, ?_⟩
    intro answer
    refine .quiet rfl rfl ?_ ?_ ?_ ?_
    · intro j
      by_cases hj : j = i
      · rw [hj, Function.update_self]
      · rw [Function.update_of_ne hj]
        exact ho j hj
    · simp [hr, rung?, taken?]
    · simp [ht, taken?, handed?]
    · simp [hh, handed?, acknowledged?]

end Phase

/-! ## The invariant -/

/-- The reception thread need not wait: no ring is outstanding, or the doorbell is closed. -/
def IsPassable (bell : Doorbell) : Prop := bell.isPending = false ∨ bell.isClosed = true

/-- What holds of the threads, after the trace `t`, under every schedule. -/
structure HandOver (m : Threads σ) (t : List Mark) : Prop where
  phase : Phase m.card.doorbell m.guests t
  /-- On its way to the next ring the reception thread has the last one behind it. -/
  gate : m.receiver.isBeforeRing = true → IsPassable m.card.doorbell
  closed : m.card.doorbell.isClosed = true ↔ .silenced ∈ t
  orderly : Throughout Orderly t

theorem handOver_start (link : Link) (relay : Option (Relay σ)) (layout : ReceiveLayout) :
    HandOver (start (.ofLink link relay layout)) [] where
  phase := .quiet rfl rfl (fun _ => rfl) rfl rfl rfl
  gate := fun _ => .inl rfl
  closed := by simp [start, Card.ofLink, Doorbell.idle]
  orderly := throughout_nil

variable {m m' : Threads σ} {t : List Mark}

theorem Advance.isPassable {point : ReceiverPoint} {marks : List Mark} (h : Advance m point marks)
    (gate : m.receiver.isBeforeRing = true → IsPassable m.card.doorbell)
    (hp : point.isBeforeRing = true) : IsPassable m.card.doorbell := by
  cases h with
  | cancelled | lost | announced => cases hp
  | refused _ hc => exact .inr hc
  | released _ ha => exact ha
  | goOn h | nothing h | ready h | read h | unread h | sorted h | dropped h =>
    exact gate (by rw [h]; rfl)

namespace HandOver

/-- What the reception thread finds when it is about to read or to ring. -/
theorem settled_or_closed (h : HandOver m t) (hp : m.receiver.isBeforeRing = true) :
    .silenced ∈ t ∨ rings t = (acks t).map Prod.snd := by
  rcases h.gate hp with hpending | hclosed
  · exact .inr (h.phase.rings_eq_acks hpending)
  · exact .inl (h.closed.1 hclosed)

/-- A step that no hand-over is made of keeps the invariant. -/
theorem append (h : HandOver m t) {s : List Mark}
    (hbell : m'.card.doorbell = m.card.doorbell) (hguests : m'.guests = m.guests)
    (hgate : m'.receiver.isBeforeRing = true → IsPassable m'.card.doorbell)
    (hr : rings s = []) (ht : takes s = []) (hh : hands s = []) (ha : acks s = [])
    (hs : .silenced ∉ s) (ho : Throughout Orderly (t ++ s)) : HandOver m' (t ++ s) where
  phase := by
    rw [hguests]
    exact h.phase.append (congrArg _ hbell) (congrArg _ hbell) hr ht hh ha
  gate := hgate
  closed := by
    rw [hbell, h.closed, List.mem_append]
    exact ⟨.inl, fun hor => hor.resolve_right hs⟩
  orderly := ho

theorem advance (h : HandOver m t) {card : Card σ} {point : ReceiverPoint} {marks : List Mark}
    (ha : Alike m.card card) (hp : Advance m point marks) :
    HandOver { m with card, receiver := point } (t ++ marks) := by
  have hgate : point.isBeforeRing = true → IsPassable card.doorbell := by
    rw [ha.doorbell]
    exact hp.isPassable h.gate
  cases hp with
  | cancelled | goOn | nothing | ready | sorted | dropped | refused | released =>
    exact h.append ha.doorbell rfl hgate rfl rfl rfl rfl (by simp)
      (by rw [List.append_nil]; exact h.orderly)
  | read hread | unread hread =>
    have hbefore : m.receiver.isBeforeRing = true := by rw [hread]; rfl
    exact h.append ha.doorbell rfl hgate rfl rfl rfl rfl (by simp)
      (h.orderly.snoc (h.settled_or_closed hbefore))
  | lost | announced =>
    exact h.append ha.doorbell rfl hgate rfl rfl rfl rfl (by simp) (h.orderly.snoc trivial)

theorem rang (h : HandOver m t) {d : Delivery} (hr : m.receiver = .ring d)
    (hc : m.card.doorbell.isClosed = false) :
    HandOver { m with
      card := { m.card with doorbell := { m.card.doorbell with
        isPending := true
        delivery := some d } }
      receiver := .announce } (t ++ [.rang d]) := by
  have hopen : .silenced ∉ t := by
    rw [← h.closed, hc]
    exact Bool.false_ne_true
  -- The gate lets the thread come here only past the last ring, since the doorbell is not closed.
  have hpending : m.card.doorbell.isPending = false := by
    have hbefore : m.receiver.isBeforeRing = true := by rw [hr]; rfl
    rcases h.gate hbefore with hpending | hclosed
    · exact hpending
    · rw [hc] at hclosed; cases hclosed
  refine ⟨h.phase.rang hpending, ?_, ?_, ?_⟩
  · intro hbefore
    cases hbefore
  · simpa using h.closed
  · exact h.orderly.snoc ⟨hopen, h.phase.rings_eq_acks hpending⟩

/-- A step of a guest thread keeps the gate open. -/
theorem gate_of_le (h : HandOver m t) {bell : Doorbell}
    (hc : bell.isClosed = m.card.doorbell.isClosed)
    (hp : bell.isPending = m.card.doorbell.isPending ∨ bell.isPending = false)
    (hr : m.receiver.isBeforeRing = true) : IsPassable bell := by
  rcases h.gate hr with hpending | hclosed
  · rcases hp with hp | hp
    · exact .inl (hp.trans hpending)
    · exact .inl hp
  · exact .inr (hc.trans hclosed)

/-- Every step keeps the invariant. -/
theorem effect (h : HandOver m t) {a : Actor} {marks : List Mark} (he : Effect m a m' marks) :
    HandOver m' (t ++ marks) := by
  cases he with
  | receiver ha hp => exact h.advance ha hp
  | rang hr hc => exact h.rang hr hc
  | relay ha | outside ha =>
    refine h.append ha.doorbell rfl ?_ rfl rfl rfl rfl (by simp)
      (by rw [List.append_nil]; exact h.orderly)
    rw [ha.doorbell]
    exact h.gate
  | missed ha =>
    refine h.append ha.doorbell rfl ?_ rfl rfl rfl rfl (by simp) (h.orderly.snoc trivial)
    rw [ha.doorbell]
    exact h.gate
  -- The steps of a service pass the delivery on to the next phase, and the gate is none of theirs:
  -- they clear what is outstanding or leave it.
  | took _ _ hd =>
    obtain ⟨hr, hphase⟩ := h.phase.took hd
    exact ⟨hphase, h.gate_of_le rfl (.inl rfl), by simpa using h.closed, h.orderly.snoc hr⟩
  | handed ha hi =>
    obtain ⟨hpast, hphase⟩ := h.phase.handed hi
    refine ⟨by rw [ha.doorbell]; exact hphase, ?_, ?_, h.orderly.snoc hpast⟩
    · rw [ha.doorbell]
      exact h.gate
    · rw [ha.doorbell]
      simpa using h.closed
  | acknowledged hi =>
    obtain ⟨hack, hpast, hphase⟩ := h.phase.acknowledged hi
    rw [hack]
    exact ⟨hphase _, h.gate_of_le rfl (.inr rfl), by simpa using h.closed,
      h.orderly.snoc ⟨rfl, hpast⟩⟩
  | flag | stop | join | finish =>
    exact h.append rfl rfl h.gate rfl rfl rfl rfl (by simp)
      (by rw [List.append_nil]; exact h.orderly)
  | silence =>
    refine ⟨h.phase.append rfl rfl rfl rfl rfl rfl, fun _ => .inr rfl, ?_, h.orderly.snoc trivial⟩
    exact ⟨fun _ => List.mem_append_right _ List.mem_cons_self, fun _ => rfl⟩

theorem step (net : NetStack σ) (h : HandOver m t) (a : Actor) :
    HandOver (m.step net a).1 (t ++ (m.step net a).2) := by
  rcases step_cases net m a with ⟨-, hstep⟩ | heffect
  · rw [hstep, List.append_nil]
    exact h
  · exact h.effect heffect

end HandOver

/-- The invariant holds under every schedule. -/
theorem handOver_after (net : NetStack σ) (link : Link) (relay : Option (Relay σ))
    (layout : ReceiveLayout) (schedule : List Actor) :
    HandOver ((start (.ofLink link relay layout)).after net schedule)
      ((start (.ofLink link relay layout)).trace net schedule) := by
  induction schedule using List.reverseRecOn with
  | nil => exact handOver_start link relay layout
  | append_singleton as a ih =>
    rw [after_snoc, trace_snoc]
    exact ih.step net a

/-! ## The contract of the doorbell -/

/-- The contract of the doorbell, for any number of guest threads and under every schedule. A
reception thread about to ring finds nothing outstanding that the ring could overwrite, or a closed
doorbell. Each delivery that was rung for has been taken by exactly one thread, but the one that
still waits. A thread about to acknowledge finds the ring of the very delivery it took outstanding
and clears it. And every step finds its past orderly: nothing is read or rung for before the last
ring has been acknowledged, nothing is acknowledged before it has been handed over, and nothing is
rung for after the doorbell was closed. -/
theorem hand_over_orderly (net : NetStack σ) (link : Link) (relay : Option (Relay σ))
    (layout : ReceiveLayout) (schedule : List Actor) :
    let m := (start (.ofLink link relay layout)).after net schedule
    let t := (start (.ofLink link relay layout)).trace net schedule
    (∀ d, m.receiver = .ring d → m.card.doorbell.isClosed = true ∨
        m.card.doorbell.isPending = false ∧ m.card.doorbell.delivery = none) ∧
      rings t = (takes t).map Prod.snd ++ m.card.doorbell.delivery.toList ∧
      (∀ i d, m.guests i = .acknowledge d →
        m.card.doorbell.isPending = true ∧ hands t = acks t ++ [(i, d)] ∧
          rings t = (hands t).map Prod.snd ∧
          m.card.doorbell.acknowledge =
            ({ m.card.doorbell with isPending := false, delivery := none }, true)) ∧
      Throughout Orderly t := by
  intro m t
  have h : HandOver m t := handOver_after net link relay layout schedule
  refine ⟨?_, h.phase.rings_eq_takes, ?_, h.orderly⟩
  · intro d hd
    have hbefore : m.receiver.isBeforeRing = true := by rw [hd]; rfl
    rcases h.gate hbefore with hpending | hclosed
    · exact .inr ⟨hpending, (h.phase.settled hpending).1⟩
    · exact .inl hclosed
  · intro i d hi
    obtain ⟨hack, ⟨hr, ht, hh⟩, -⟩ := h.phase.acknowledged hi
    refine ⟨?_, hh, ht ▸ hr, hack⟩
    by_contra hpending
    rw [Doorbell.acknowledge, if_neg hpending] at hack
    cases (Prod.mk.inj hack).2

end Threads
end GuestNic
