import GuestNic.Nat.Echo
import GuestNic.Proofs.Card.Handlers
import GuestNic.Proofs.Card.Quiescence
import GuestNic.Proofs.Threads.HandOver

/-!
# Where the handlers come from

A delivery names the handler that the reception thread found when it sorted the frame, and carries
the name until a guest thread enters it. So what counts is the handler table at the moment of the
sorting. A call that takes the handler away afterwards comes too late for the one delivery that is
on its way, and for no other.
-/

namespace GuestNic

/-- The key under which the handler of a delivery was looked up. -/
def Delivery.key? : Delivery → Option UInt16
  | .handler _ type _ _ => some (Frame.handlerKey type)
  | .tunnel _ _ => none

/-! ## Sorting -/

namespace Card

variable {σ : Type} {c : Card σ} {origin : Origin}

/-- A delivery for a handler is made of the frame in the buffer and of the handler that serves its
key. -/
theorem prepare_eq_handler {routine : Routine} {type : UInt16} {header : Bytes}
    {frame : FrameBuffer}
    (h : (c.prepare origin).2 = some (.handler routine type header frame)) :
    origin = .device ∧ c.buffer = frame ∧ frame.header? = some header ∧
      frame.typeField? = some type ∧
      c.handlers.active? (Frame.handlerKey type) = some routine := by
  unfold prepare at h
  dsimp only at h
  split at h
  · cases h
  · rename_i hheader htype
    split at h
    · rename_i hfound
      cases h
      exact ⟨rfl, rfl, hheader, htype, hfound⟩
    · cases h
  · cases h

/-- Nothing is delivered for a key that is not served. -/
theorem key?_ne_of_prepare {key : UInt16} (hnone : c.handlers.active? key = none) {d : Delivery}
    (h : (c.prepare origin).2 = some d) : d.key? ≠ some key := by
  cases d with
  | tunnel => simp [Delivery.key?]
  | handler routine type header frame =>
    obtain ⟨-, -, -, -, hfound⟩ := prepare_eq_handler h
    intro hkey
    rw [Option.some.inj hkey, hnone] at hfound
    cases hfound

theorem prepare_handlers (c : Card σ) (origin : Origin) :
    (c.prepare origin).1.handlers = c.handlers := by
  obtain ⟨dropped, heq⟩ := c.prepare_eq origin
  rw [heq]

theorem onRelay_handlers (act : Relay σ → StackPipe → Relay σ × StackPipe) (c : Card σ) :
    (c.onRelay act).handlers = c.handlers := by
  unfold onRelay
  split <;> rfl

end Card

namespace Actor

/-- A call that gives the key a handler, if it has none. -/
def attaches (key : UInt16) : Actor → Bool
  | .outside call => call.attaches key
  | _ => false

/-- A call that takes the handler of the key away, if there is one. -/
def detaches (key : UInt16) : Actor → Bool
  | .outside call => call.detaches key
  | _ => false

end Actor

namespace Threads

open Mark

variable {σ : Type} (net : NetStack σ) {m m' : Threads σ} {a : Actor} {marks t : List Mark}

/-! ## The handler table -/

/-- The threads leave the handler table and the layout alone. -/
theorem step_fixtures (m : Threads σ) (ha : ∀ call, a ≠ .outside call) :
    (m.step net a).1.card.handlers = m.card.handlers ∧
      (m.step net a).1.card.layout = m.card.layout := by
  have honRelay : ∀ act, (m.card.onRelay act).handlers = m.card.handlers ∧
      (m.card.onRelay act).layout = m.card.layout :=
    fun act => ⟨Card.onRelay_handlers act m.card, (Card.onRelay_spares act).layout⟩
  cases a with
  | receiver =>
    simp only [step, step?, receiverStep]
    cases m.receiver with
    | check | announce | ended => exact ⟨rfl, rfl⟩
    | wait => rcases m.card.link.wait with ⟨link, fault | isReady⟩ <;> exact ⟨rfl, rfl⟩
    | read =>
      rcases m.card.link.read m.card.buffer with ⟨link, buffer, e | _ | origin⟩ <;>
        exact ⟨rfl, rfl⟩
    | sort origin =>
      have hhandlers := Card.prepare_handlers m.card origin
      have hlayout := (m.card.prepare_spares origin).1.layout
      dsimp only
      rcases hprepare : m.card.prepare origin with ⟨card, none | delivery⟩ <;>
        rw [hprepare] at hhandlers hlayout <;> exact ⟨hhandlers, hlayout⟩
    | ring delivery =>
      dsimp only
      cases m.card.doorbell.ring delivery <;> exact ⟨rfl, rfl⟩
    | await =>
      dsimp only
      cases m.card.doorbell.awaited <;> exact ⟨rfl, rfl⟩
  | relay =>
    simp only [step, step?, relayStep]
    cases m.relay with
    | check =>
      dsimp only
      split
      · exact honRelay _
      · exact ⟨rfl, rfl⟩
    | input | serve => exact honRelay _
    | ended => exact ⟨rfl, rfl⟩
  | guest i =>
    simp only [step, step?, guestStep]
    cases m.guests i with
    | idle => rcases m.card.doorbell.take with ⟨bell, none | delivery⟩ <;> exact ⟨rfl, rfl⟩
    | upcall | acknowledge => exact ⟨rfl, rfl⟩
  | closer =>
    simp only [step, step?, closerStep]
    cases m.closer with
    | running | flagged | silenced | finished => exact ⟨rfl, rfl⟩
    | stopping | joining =>
      dsimp only
      split <;> exact ⟨rfl, rfl⟩
  | outside call => exact absurd rfl (ha call)

theorem step_handlers (m : Threads σ) (ha : ∀ call, a ≠ .outside call) :
    (m.step net a).1.card.handlers = m.card.handlers := (step_fixtures net m ha).1

/-- A handler stays until somebody takes it away. -/
theorem step_find?_of_not_detaches {key : UInt16} {routine : Routine}
    (ha : a.detaches key = false) (h : m.card.handlers.find? key = some routine) :
    (m.step net a).1.card.handlers.find? key = some routine := by
  cases a with
  | outside call => exact Card.perform_find?_of_not_detaches ha h
  | receiver | relay | guest | closer => rw [step_handlers net m (by simp), h]

theorem after_find?_of_not_detaches {key : UInt16} {routine : Routine} {as : List Actor}
    (has : ∀ a ∈ as, a.detaches key = false) (h : m.card.handlers.find? key = some routine) :
    (m.after net as).card.handlers.find? key = some routine := by
  induction as generalizing m with
  | nil => exact h
  | cons a as ih =>
    refine ih (fun b hb => has b (List.mem_cons_of_mem _ hb)) ?_
    exact step_find?_of_not_detaches net (has a List.mem_cons_self) h

theorem step_find?_of_detaches {key : UInt16} (ha : a.detaches key = true) :
    (m.step net a).1.card.handlers.find? key = none := by
  cases a with
  | outside call => exact Card.perform_find?_of_detaches ha
  | receiver | relay | guest | closer => cases ha

/-- A key that is not served is so until somebody attaches a handler. -/
theorem step_active?_of_not_attaches {key : UInt16} (ha : a.attaches key = false)
    (h : m.card.handlers.active? key = none) :
    (m.step net a).1.card.handlers.active? key = none := by
  cases a with
  | outside call => exact Card.perform_active?_of_not_attaches ha h
  | receiver | relay | guest | closer => rw [step_handlers net m (by simp), h]

/-! ## A delivery on its way -/

/-- The delivery is on its way to a guest thread, or to the guest. -/
inductive Carries (m : Threads σ) (d : Delivery) : Prop where
  /-- The reception thread is going to ring for it. -/
  | ringing (hm : m.receiver = .ring d) (hc : m.card.doorbell.isClosed = false)
  | waiting (hd : m.card.doorbell.delivery = some d)
  | taken {i : Nat} (hg : m.guests i = .upcall d)

theorem Carries.of_eq {d : Delivery} (h : m'.Carries d) (hreceiver : m'.receiver = m.receiver)
    (hbell : m'.card.doorbell = m.card.doorbell) (hguests : m'.guests = m.guests) :
    m.Carries d := by
  cases h with
  | ringing hm hc => exact .ringing (hreceiver ▸ hm) (hbell ▸ hc)
  | waiting hd => exact .waiting (hbell ▸ hd)
  | taken hg => exact .taken (hguests ▸ hg)

/-- A guest thread that goes on has taken nothing new. -/
theorem Carries.of_update {d : Delivery} {i : Nat} {point : GuestPoint}
    (h : m'.Carries d) (hreceiver : m'.receiver = m.receiver)
    (hclosed : m'.card.doorbell.isClosed = m.card.doorbell.isClosed)
    (hdelivery : ∀ d, m'.card.doorbell.delivery = some d → m.card.doorbell.delivery = some d)
    (hguests : m'.guests = Function.update m.guests i point)
    (hpoint : point = .upcall d → m.Carries d) : m.Carries d := by
  cases h with
  | ringing hm hc => exact .ringing (hreceiver ▸ hm) (hclosed ▸ hc)
  | waiting hd => exact .waiting (hdelivery d hd)
  | @taken j hg =>
    rw [hguests] at hg
    by_cases hj : j = i
    · rw [hj, Function.update_self] at hg
      exact hpoint hg
    · rw [Function.update_of_ne hj] at hg
      exact .taken hg

/-- What is on its way after a step was so before, or has just been sorted. -/
theorem Effect.carries (h : Effect m a m' marks) {d : Delivery} (hd : m'.Carries d) :
    m.Carries d ∨ a = .receiver ∧ (∃ origin, m.receiver = .sort origin) ∧
      m'.receiver = .ring d := by
  cases h with
  | @receiver card point marks ha hp =>
    cases hd with
    | waiting hd => exact .inl (.waiting (ha.doorbell ▸ hd))
    | taken hg => exact .inl (.taken hg)
    | ringing hm =>
      cases hp with
      | sorted h => exact .inr ⟨rfl, ⟨_, h⟩, hm⟩
      | cancelled | goOn | lost | nothing | ready | read | unread | dropped | refused | announced
      | released => cases hm
  | rang h hc =>
    refine .inl ?_
    cases hd with
    | ringing hm => cases hm
    | waiting hd =>
      cases hd
      exact .ringing h hc
    | taken hg => exact .taken hg
  | relay ha | missed ha | outside ha => exact .inl (hd.of_eq rfl ha.doorbell rfl)
  | flag | stop | join | finish => exact .inl (hd.of_eq rfl rfl rfl)
  | silence =>
    refine .inl ?_
    cases hd with
    | ringing hm hc => cases hc
    | waiting hd => exact .waiting hd
    | taken hg => exact .taken hg
  | took h hp hdelivery =>
    refine .inl (hd.of_update rfl rfl (by simp) rfl ?_)
    rintro ⟨⟩
    exact .waiting hdelivery
  | handed ha h =>
    refine .inl (hd.of_update rfl (congrArg _ ha.doorbell) ?_ rfl (by simp))
    intro d hd
    rw [← ha.doorbell]
    exact hd
  | acknowledged h =>
    refine .inl (hd.of_update rfl (Doorbell.acknowledge_isClosed _) ?_ rfl (by simp))
    intro d hd
    have hd : m.card.doorbell.acknowledge.1.delivery = some d := hd
    unfold Doorbell.acknowledge at hd
    split at hd
    · cases hd
    · exact hd

/-- The reception thread rings for what it found. -/
theorem prepare_of_step {origin : Origin} (hm : m.receiver = .sort origin) {d : Delivery}
    (h : (m.step net .receiver).1.receiver = .ring d) : (m.card.prepare origin).2 = some d := by
  rcases hprepare : m.card.prepare origin with ⟨card, none | delivery⟩
  · simp only [step, step?, receiverStep, hm, hprepare, Option.getD_some] at h
    cases h
  · simp only [step, step?, receiverStep, hm, hprepare, Option.getD_some] at h
    cases h
    rfl

theorem carries_step {d : Delivery} (h : (m.step net a).1.Carries d) :
    m.Carries d ∨ a = .receiver ∧ ∃ origin, m.receiver = .sort origin ∧
      (m.card.prepare origin).2 = some d := by
  rcases step_cases net m a with ⟨-, hstep⟩ | heffect
  · rw [hstep] at h
    exact .inl h
  · rcases heffect.carries h with hbefore | ⟨rfl, ⟨origin, hm⟩, hring⟩
    · exact .inl hbefore
    · exact .inr ⟨rfl, origin, hm, prepare_of_step net hm hring⟩

/-! ## Where it comes from -/

/-- In the course of the schedule the reception thread sorted a frame, and that is what it found. -/
def Sorted (s : Threads σ) (past : List Actor) (d : Delivery) : Prop :=
  ∃ before between origin, past = before ++ .receiver :: between ∧
    (s.after net before).receiver = .sort origin ∧
    ((s.after net before).card.prepare origin).2 = some d

theorem Sorted.snoc {s : Threads σ} {past : List Actor} {d : Delivery} (h : Sorted net s past d)
    (a : Actor) : Sorted net s (past ++ [a]) d := by
  obtain ⟨before, between, origin, rfl, hm, hd⟩ := h
  refine ⟨before, between ++ [a], origin, ?_, hm, hd⟩
  rw [List.append_assoc, List.cons_append]

/-- Whatever is on its way has been sorted. -/
theorem sorted_of_carries {s : Threads σ} (hs : ∀ d, ¬ s.Carries d) {past : List Actor}
    {d : Delivery} (h : (s.after net past).Carries d) : Sorted net s past d := by
  induction past using List.reverseRecOn with
  | nil => exact absurd h (hs d)
  | append_singleton as a ih =>
    rw [after_snoc] at h
    rcases carries_step net h with hbefore | ⟨rfl, origin, hm, hd⟩
    · exact (ih hbefore).snoc net a
    · exact ⟨as, [], origin, rfl, hm, hd⟩

theorem not_carries_start (link : Link) (relay : Option (Relay σ)) (layout : ReceiveLayout)
    (d : Delivery) : ¬ (start (.ofLink link relay layout)).Carries d := by
  intro h
  cases h with
  | ringing hm => cases hm
  | waiting hd => cases hd
  | taken hg => cases hg

/-! ## Handing over -/

/-- The deliveries for handlers under a key that are handed to the guest, in order. -/
def handsFor (key : UInt16) (t : List Mark) : List Delivery :=
  ((hands t).map Prod.snd).filter fun d => d.key? == some key

theorem handsFor_append (key : UInt16) (s t : List Mark) :
    handsFor key (s ++ t) = handsFor key s ++ handsFor key t := by
  rw [handsFor, hands_append, List.map_append, List.filter_append]
  rfl

/-- A step hands nothing over, or what a guest thread has taken. -/
theorem Effect.hands_cases (h : Effect m a m' marks) :
    hands marks = [] ∨ ∃ i d, hands marks = [(i, d)] ∧ m.guests i = .upcall d ∧
      m'.guests i = .acknowledge d := by
  cases h with
  | handed ha h => exact .inr ⟨_, _, rfl, h, Function.update_self ..⟩
  | receiver ha hp => cases hp <;> exact .inl rfl
  | rang | relay | missed | took | acknowledged | flag | silence | stop | join | finish
  | outside => exact .inl rfl

/-- When a delivery has been handed over, no other one is on its way. -/
theorem HandOver.not_carries (h : HandOver m t) {i : Nat} {d : Delivery}
    (hi : m.guests i = .acknowledge d) (d' : Delivery) : ¬ m.Carries d' := by
  cases h.phase with
  | quiet _ _ hg | rung _ _ hg =>
    rw [hg i] at hi
    cases hi
  | @upcalling j _ _ _ hg ho =>
    by_cases hj : i = j
    · rw [hj, hg] at hi
      cases hi
    · rw [ho i hj] at hi
      cases hi
  | @acknowledging j _ hp hd hg ho =>
    intro hcarries
    cases hcarries with
    | ringing hm hc =>
      -- The reception thread would have passed the acknowledgment, which is still to come.
      rcases h.gate (by rw [hm]; rfl) with hpending | hclosed
      · rw [hp] at hpending
        cases hpending
      · rw [hc] at hclosed
        cases hclosed
    | waiting hd' =>
      rw [hd] at hd'
      cases hd'
    | @taken k hk =>
      by_cases hj : k = j
      · rw [hj, hg] at hk
        cases hk
      · rw [ho k hj] at hk
        cases hk

/-! ## Keys that are not served -/

section

variable {key : UInt16}

/-- Nothing new comes on its way for a key that is not served. -/
theorem carries_step_of_key {d : Delivery} (hnone : m.card.handlers.active? key = none)
    (hkey : d.key? = some key) (h : (m.step net a).1.Carries d) : m.Carries d := by
  rcases carries_step net h with hbefore | ⟨-, origin, -, hd⟩
  · exact hbefore
  · exact absurd hkey (Card.key?_ne_of_prepare hnone hd)

/-- A step hands nothing over for the key, or the one delivery that a guest thread has taken. -/
theorem handsFor_step (m : Threads σ) (a : Actor) :
    handsFor key (m.step net a).2 = [] ∨ ∃ i d, handsFor key (m.step net a).2 = [d] ∧
      d.key? = some key ∧ m.guests i = .upcall d ∧ (m.step net a).1.guests i = .acknowledge d := by
  rcases step_cases net m a with ⟨-, hstep⟩ | heffect
  · rw [hstep]
    exact .inl rfl
  · rcases heffect.hands_cases with hnil | ⟨i, d, hd, hi, hi'⟩
    · rw [handsFor, hnil]
      exact .inl rfl
    · by_cases hkey : d.key? = some key
      · exact .inr ⟨i, d, by simp [handsFor, hd, hkey], hkey, hi, hi'⟩
      · exact .inl (by simp [handsFor, hd, hkey])

/-- Where nothing is on its way nothing is handed over. -/
theorem handsFor_eq_nil (hnone : m.card.handlers.active? key = none)
    (hfree : ∀ d, d.key? = some key → ¬ m.Carries d) {as : List Actor}
    (has : ∀ a ∈ as, a.attaches key = false) : handsFor key (m.trace net as) = [] := by
  induction as generalizing m with
  | nil => rfl
  | cons a as ih =>
    have hfirst : handsFor key (m.step net a).2 = [] := by
      rcases handsFor_step net m a with hnil | ⟨i, d, -, hkey, hi, -⟩
      · exact hnil
      · exact absurd (.taken hi) (hfree d hkey)
    rw [Threads.trace, handsFor_append, hfirst, List.nil_append]
    refine ih ?_ ?_ fun b hb => has b (List.mem_cons_of_mem _ hb)
    · exact step_active?_of_not_attaches net (has a List.mem_cons_self) hnone
    · intro d hkey hd
      exact hfree d hkey (carries_step_of_key net hnone hkey hd)

/-- For a key that is not served at most one delivery is still handed over, and it was on its
way. -/
theorem handsFor_length_le (h : HandOver m t) (hnone : m.card.handlers.active? key = none)
    {as : List Actor} (has : ∀ a ∈ as, a.attaches key = false) :
    (handsFor key (m.trace net as)).length ≤ 1 ∧
      ∀ d ∈ handsFor key (m.trace net as), m.Carries d := by
  induction as generalizing m t with
  | nil => exact ⟨Nat.zero_le 1, by simp [handsFor, hands]⟩
  | cons a as ih =>
    have hnone' := step_active?_of_not_attaches net (has a List.mem_cons_self) hnone
    have has' : ∀ b ∈ as, b.attaches key = false := fun b hb => has b (List.mem_cons_of_mem _ hb)
    rw [Threads.trace, handsFor_append]
    rcases handsFor_step net m a with hnil | ⟨i, d, hd, -, hi, hi'⟩
    · obtain ⟨hlen, hrest⟩ := ih (h.step net a) hnone' has'
      rw [hnil, List.nil_append]
      refine ⟨hlen, ?_⟩
      intro d hd
      have hkey : d.key? = some key := by simpa using (List.mem_filter.1 hd).2
      exact carries_step_of_key net hnone hkey (hrest d hd)
    · -- This step hands the one delivery over; after it nothing is on its way.
      have hempty : handsFor key ((m.step net a).1.trace net as) = [] :=
        handsFor_eq_nil net hnone' (fun d _ => (h.step net a).not_carries hi' d) has'
      rw [hd, hempty, List.append_nil]
      refine ⟨Nat.le_refl 1, ?_⟩
      intro e he
      rw [List.mem_singleton.1 he]
      exact .taken hi

end

/-! ## The contract of the handler table -/

/-- The contract of the handler table, under every schedule. When the guest's handler is entered for
a frame, the reception thread found it under the key of the frame's type field when it sorted the
frame, it is not the null routine, and it is still attached unless somebody has taken it away in the
meantime. Detaching and resetting take effect at once: for a key that is not served no handler is
entered any more until one is attached, with the exception of at most one delivery that was already
on its way. -/
theorem handlers_found_at_sorting (link : Link) (relay : Option (Relay σ))
    (layout : ReceiveLayout) (past : List Actor) :
    let s := start (.ofLink link relay layout)
    let m := s.after net past
    (∀ a i routine type header frame,
      .handed i (.handler routine type header frame) ∈ (m.step net a).2 →
      ∃ before between, past = before ++ .receiver :: between ∧
        let l := s.after net before
        l.receiver = .sort .device ∧ l.card.buffer = frame ∧ frame.header? = some header ∧
          frame.typeField? = some type ∧
          l.card.handlers.find? (Frame.handlerKey type) = some routine ∧ routine.isNull = false ∧
          ((∀ b ∈ between, b.detaches (Frame.handlerKey type) = false) →
            m.card.handlers.find? (Frame.handlerKey type) = some routine)) ∧
    (∀ key a, a.detaches key = true → (m.step net a).1.card.handlers.find? key = none) ∧
    (∀ key, m.card.handlers.active? key = none →
      ∀ future, (∀ a ∈ future, a.attaches key = false) →
        (handsFor key (m.trace net future)).length ≤ 1 ∧
          ∀ d ∈ handsFor key (m.trace net future), m.Carries d) := by
  intro s m
  have hm : HandOver m _ := handOver_after net link relay layout past
  refine ⟨?_, fun key a => step_find?_of_detaches net, ?_⟩
  · intro a i routine type header frame hmem
    have hcarries : m.Carries (.handler routine type header frame) := by
      rcases step_cases net m a with ⟨-, hstep⟩ | heffect
      · rw [hstep] at hmem
        cases hmem
      · have hhands : (i, Delivery.handler routine type header frame) ∈
            hands (m.step net a).2 := List.mem_filterMap.2 ⟨_, hmem, rfl⟩
        rcases heffect.hands_cases with hnil | ⟨j, d, hd, hj, -⟩
        · rw [hnil] at hhands
          cases hhands
        · rw [hd, List.mem_singleton] at hhands
          cases hhands
          exact .taken hj
    obtain ⟨before, between, origin, hpast, hl, hd⟩ :=
      sorted_of_carries net (not_carries_start link relay layout) hcarries
    obtain ⟨rfl, hbuffer, hheader, htype, hfound⟩ := Card.prepare_eq_handler hd
    obtain ⟨hfound, hnull⟩ := HandlerTable.active?_eq_some_iff.1 hfound
    refine ⟨before, between, hpast, hl, hbuffer, hheader, htype, hfound, hnull, ?_⟩
    intro hbetween
    have hafter : m = (s.after net before).after net (.receiver :: between) := by
      rw [← after_append, ← hpast]
    rw [hafter]
    refine after_find?_of_not_detaches net ?_ hfound
    intro b hb
    rcases List.mem_cons.1 hb with rfl | hb
    · rfl
    · exact hbetween b hb
  · intro key hnone future hfuture
    exact handsFor_length_le net hm hnone hfuture

/-- A frame is sorted, and the handler is taken away before a guest thread hands the frame over: the
handler is entered although it is not attached any more. -/
theorem detached_handler_entered :
    let s := start (Card.onQueues .sheepNet 1 1 ⟨0, 0, 0⟩ : Card EchoStack)
    let frame : Bytes := List.replicate 12 0 ++ [8, 0]
    ∀ call ∈ [Call.reset, .detach 0x800],
      let m := s.after EchoStack.net
        [.outside (.attach 0x800 ⟨0x4000⟩), .outside (.arrive (.v4 ⟨0, 0, 0, 0⟩ 0) frame),
          .receiver, .receiver, .receiver, .receiver, .receiver, .outside call, .guest 0]
      m.card.handlers.find? (Frame.handlerKey 0x800) = none ∧
        (hands (m.step EchoStack.net (.guest 0)).2).map (fun h => h.2.invocation?) =
          [some ⟨⟨0x4000⟩, 0x800, frame⟩] := by
  decide +kernel

end Threads
end GuestNic
