import GuestNic.Nat.Echo
import GuestNic.Card.Open
import GuestNic.Proofs.Threads.Aftermath
import GuestNic.Proofs.Threads.Running
import GuestNic.Proofs.Threads.View

/-!
# The two threads of a card left alone

While neither the driver nor the guest does anything, the reception thread and the relay's thread
work off what waits. Every step that changes the card brings the end nearer (`work`), none changes
what the card comes to (`outcome`), and as long as that has not been reached one of the threads can
get on. So all schedules of the two threads end alike, and as settling the card does.
-/

namespace GuestNic

/-! ## Cards with room -/

namespace Card

variable {σ : Type} (net : NetStack σ)

/-- The channel towards the guest has room for everything that is still going to be queued. -/
def HasRoom (c : Card σ) : Prop :=
  match c.link.port, c.relay with
  | .pipe p, some r => r.HasRoom net p
  | _, _ => False

instance (c : Card σ) : Decidable (c.HasRoom net) :=
  match hport : c.link.port, hrelay : c.relay with
  | .pipe p, some r => decidable_of_iff (r.HasRoom net p) (by rw [HasRoom, hport, hrelay])
  | .pipe _, none | .raw _ _, _ | .tunnel _, _ => isFalse (by rw [HasRoom, hport]; simp [*])

/-- How much is left to do for the relay and for reception. -/
def load (c : Card σ) : Nat :=
  match c.link.port, c.relay with
  | .pipe p, some r => r.load net p
  | _, _ => 0

variable {c c' : Card σ} {r : Relay σ} {p : StackPipe}

theorem hasRoom_of_eq (hport : c'.link.port = c.link.port) (hrelay : c'.relay = c.relay) :
    c'.HasRoom net ↔ c.HasRoom net := by
  rw [HasRoom, HasRoom, hport, hrelay]

theorem load_of_eq (hport : c'.link.port = c.link.port) (hrelay : c'.relay = c.relay) :
    c'.load net = c.load net := by
  rw [load, load, hport, hrelay]

theorem IsWired.hasRoom_iff (h : c.IsWired r p) : c.HasRoom net ↔ r.HasRoom net p := by
  simp only [HasRoom, h.port, h.attached]

theorem IsWired.load_eq (h : c.IsWired r p) : c.load net = r.load net p := by
  simp only [load, h.port, h.attached]

/-- A frame in hand has nothing to do with the wiring. -/
theorem finish_rewire (point : ReceiverPoint) (c : Card σ) (r : Relay σ) (p : StackPipe) :
    point.finish (c.rewire r p) = (point.finish c).rewire r p := by
  cases point with
  | sort origin => exact congrArg Prod.fst (deliver_rewire c origin r p)
  | ring delivery => exact congrArg Prod.fst (publish_refit (rewiring_countsAlike r p) c delivery)
  | announce | check | wait | read | await | ended => rfl

theorem IsWired.finish (h : c.IsWired r p) (point : ReceiverPoint) :
    (point.finish c).IsWired r p := by
  have hfinish := finish_rewire point c r p
  rw [h.rewire_self] at hfinish
  rw [hfinish]
  exact .rewire _ h.toIsAtWork

/-- The frame in hand may be dealt with before or after the relay has its turn. -/
theorem IsWired.finish_onRelay (h : c.IsWired r p)
    (act : Relay σ → StackPipe → Relay σ × StackPipe) (point : ReceiverPoint) :
    point.finish (c.onRelay act) = (point.finish c).onRelay act := by
  rw [h.onRelay, finish_rewire, (h.finish point).onRelay]

/-- A turn of the relay finds no record, or there is less to do afterwards. -/
theorem IsWired.takeInput_cases (h : c.IsWired r p) (hroom : c.HasRoom net) :
    (p.toStack.queue = [] ∧ c.onRelay (Relay.takeInput net) = c) ∨
      (c.onRelay (Relay.takeInput net)).HasRoom net ∧
        c.load net = (c.onRelay (Relay.takeInput net)).load net + 1 := by
  rcases Relay.takeInput_cases net h.toIsAtWork ((h.hasRoom_iff net).1 hroom) with
    ⟨hnil, hsame⟩ | ⟨r', p', htake, hwork, hroom', -, hload, -⟩
  · refine .inl ⟨hnil, ?_⟩
    rw [h.onRelay, hsame, h.rewire_self]
  · have hnext : (c.rewire r' p').IsWired r' p' := .rewire c hwork
    rw [h.onRelay, htake]
    refine .inr ⟨(hnext.hasRoom_iff net).2 hroom', ?_⟩
    rw [h.load_eq, hnext.load_eq, hload]

end Card

namespace Threads

variable {σ : Type} (net : NetStack σ) {m m' : Threads σ}

/-! ## Where the threads are going -/

/-- The card when the frame in hand has been dealt with. -/
def completed (m : Threads σ) : Card σ := m.receiver.finish m.card

/-- What the card comes to when its two threads are left alone. -/
def outcome (m : Threads σ) : Card σ := m.completed.outcome net

/-- How much is left for them to do. -/
def work (m : Threads σ) : Nat := m.card.load net + m.receiver.rank

/-- One state is on the way of another: it is going to the same end, and where the card differs it
is nearer. -/
structure Approaches (m m' : Threads σ) : Prop where
  isRunning : m'.IsRunning
  hasRoom : m'.card.HasRoom net
  outcome : m'.outcome net = m.outcome net
  work_le : m'.work net ≤ m.work net
  changed : m'.card ≠ m.card → m'.work net < m.work net

variable {net}

/-- A step that leaves the card and the frame in hand alone is on the way. -/
theorem Approaches.of_card_eq (hroom : m.card.HasRoom net) (h : m'.IsRunning)
    (hcard : m'.card = m.card) (hreceiver : m'.receiver = m.receiver) : Approaches net m m' where
  isRunning := h
  hasRoom := by rw [hcard]; exact hroom
  outcome := by rw [Threads.outcome, completed, hcard, hreceiver]; rfl
  work_le := Nat.le_of_eq (by rw [work, work, hcard, hreceiver])
  changed := fun hne => absurd hcard hne

/-- A step of the reception thread brings the end nearer, unless it has no frame in hand and takes
none. -/
theorem Reception.work_lt (net : NetStack σ) (h : Reception m m') :
    m'.work net < m.work net ∨
      m'.card = m.card ∧ m'.receiver.rank = 0 ∧ m.receiver.rank = 0 ∧ m.receiver ≠ .read := by
  cases h with
  | @goOn card point hm hlink hrelay hfinish hrank =>
    rcases hrank with hlt | ⟨hcard, hpoint, hrank⟩
    · have hload : card.load net = m.card.load net :=
        Card.load_of_eq net (congrArg Link.port hlink) hrelay
      refine .inl ?_
      rw [work, work, hload]
      exact Nat.add_lt_add_left hlt _
    · exact .inr ⟨hcard, hpoint, hrank, hm⟩
  | @read r p d ds hm hwired hq traffic buffer point hfinish hrank =>
    have hload : ({ m.card with
        link := { port := .pipe p.withoutFrame, traffic }
        buffer } : Card σ).load net = r.load net p.withoutFrame := by
      simp only [Card.load, hwired.attached]
    have hlen : p.toGuest.queue.length = p.withoutFrame.toGuest.queue.length + 1 := by
      show p.toGuest.queue.length = p.toGuest.queue.tail.length + 1
      rw [hq, List.tail_cons, List.length_cons]
    have hsame : p.withoutFrame.toStack = p.toStack := rfl
    -- Reading a frame makes up for the three steps that dealing with it takes.
    refine .inl ?_
    rw [work, work, hload, hwired.load_eq, Relay.load, Relay.load, hsame]
    show _ + point.rank < _
    omega

/-- It leaves room, and the outcome as it is. -/
theorem Reception.outcome_eq (h : m.IsRunning) (hroom : m.card.HasRoom net)
    (hreception : Reception m m') :
    m'.card.HasRoom net ∧ m'.outcome net = m.outcome net := by
  cases hreception with
  | goOn hm hlink hrelay hfinish =>
    constructor
    · exact (Card.hasRoom_of_eq net (congrArg Link.port hlink) hrelay).2 hroom
    · exact congrArg (Card.outcome net) hfinish
  | @read r p d ds hm hwired hq traffic buffer point hfinish =>
    have hresting : m.card.isResting = false := by
      rw [h.isResting_eq]
      exact h.gate (by rw [hm]; rfl)
    have hcompleted : m.completed = m.card := by
      rw [completed, hm]
      rfl
    constructor
    · have hroom := (hwired.hasRoom_iff net).1 hroom
      have hfewer : p.withoutFrame.toGuest.queue.length ≤ p.toGuest.queue.length := by
        show p.toGuest.queue.tail.length ≤ _
        rw [List.length_tail]
        exact Nat.sub_le _ _
      simp only [Card.HasRoom, hwired.attached]
      exact Nat.le_trans (Nat.add_le_add_right hfewer _) hroom
    · rw [Threads.outcome, Threads.outcome, hcompleted]
      exact (congrArg (Card.outcome net) hfinish).trans
        (Card.outcome_readFrame net hwired hresting hq)

/-- A step of the reception thread is on the way. -/
theorem Reception.approaches (h : m.IsRunning) (hroom : m.card.HasRoom net)
    (hstep : m'.IsRunning ∧ Reception m m') : Approaches net m m' := by
  obtain ⟨hnext, hreception⟩ := hstep
  obtain ⟨hroom', houtcome⟩ := hreception.outcome_eq h hroom
  rcases hreception.work_lt net with hlt | ⟨hcard, hrank', hrank, -⟩
  · exact ⟨hnext, hroom', houtcome, Nat.le_of_lt hlt, fun _ => hlt⟩
  · refine ⟨hnext, hroom', houtcome, ?_, fun hne => absurd hcard hne⟩
    exact Nat.le_of_eq (by rw [work, work, hcard, hrank', hrank])

/-- What the relay's thread does with a record is on the way. -/
theorem takeInput_approaches (h : m.IsRunning) (hroom : m.card.HasRoom net) {point : RelayPoint}
    (hnext : IsRunning { m with card := m.card.onRelay (Relay.takeInput net), relay := point }) :
    Approaches net m { m with card := m.card.onRelay (Relay.takeInput net), relay := point } := by
  obtain ⟨r, p, hwired⟩ := h.wired
  rcases hwired.takeInput_cases net hroom with ⟨-, hsame⟩ | ⟨hroom', hload⟩
  · exact .of_card_eq hroom hnext hsame rfl
  · have hlt : (m.card.onRelay (Relay.takeInput net)).load net + m.receiver.rank <
        m.card.load net + m.receiver.rank := by
      omega
    refine ⟨hnext, hroom', ?_, Nat.le_of_lt hlt, fun _ => hlt⟩
    exact (congrArg (Card.outcome net) (hwired.finish_onRelay _ m.receiver)).trans
      (Card.outcome_takeInput net (hwired.finish m.receiver) ((hwired.hasRoom_iff net).1 hroom))

/-- Serving a quiet stack changes nothing. -/
theorem onRelay_serve (hquiet : net.IsQuiet) (h : m.IsRunning) :
    m.card.onRelay (Relay.serve net) = m.card := by
  obtain ⟨r, p, hwired⟩ := h.wired
  rw [hwired.onRelay, Relay.serve_of_quiet net hquiet, hwired.rewire_self]

/-- Every step of the two threads is on the way. -/
theorem approaches_step (hquiet : net.IsQuiet) (h : m.IsRunning) (hroom : m.card.HasRoom net)
    {a : Actor} (ha : a.isInternal = true) : Approaches net m (m.step net a).1 := by
  cases a with
  | receiver => exact Reception.approaches h hroom (reception_step net h)
  | relay =>
    obtain ⟨hnext, ⟨-, hstep⟩ | ⟨-, hstep⟩ | ⟨-, hstep⟩⟩ := relay_step net h
    · rw [hstep] at hnext ⊢
      exact .of_card_eq hroom hnext rfl rfl
    · rw [hstep] at hnext ⊢
      exact takeInput_approaches h hroom hnext
    · rw [hstep] at hnext ⊢
      exact .of_card_eq hroom hnext (onRelay_serve hquiet h) rfl
  | guest | closer | outside => cases ha

/-! ## Schedules of the two threads -/

open Classical in
/-- How many steps of a schedule change what `view` shows of the card. -/
noncomputable def changes {α : Type} (net : NetStack σ) (view : Card σ → α) :
    Threads σ → List Actor → Nat
  | _, [] => 0
  | m, a :: as =>
    (if view (m.step net a).1.card = view m.card then 0 else 1) +
      changes net view (m.step net a).1 as

theorem card_eq_of_changes_eq_zero {α : Type} {view : Card σ → α} {as : List Actor}
    (h : changes net view m as = 0) : view (m.after net as).card = view m.card := by
  induction as generalizing m with
  | nil => rfl
  | cons a as ih =>
    rw [changes, Nat.add_eq_zero_iff] at h
    by_cases hsame : view (m.step net a).1.card = view m.card
    · exact (ih h.2).trans hsame
    · rw [if_neg hsame] at h
      cases h.1

/-- A schedule of the two threads is on the way, and each of its steps that changes the card brings
the end nearer. -/
theorem approaches_after (hquiet : net.IsQuiet) (h : m.IsRunning) (hroom : m.card.HasRoom net)
    {as : List Actor} (has : ∀ a ∈ as, a.isInternal = true) :
    Approaches net m (m.after net as) ∧
      (m.after net as).work net + changes net id m as ≤ m.work net := by
  induction as generalizing m with
  | nil => exact ⟨.of_card_eq hroom h rfl rfl, Nat.le_refl _⟩
  | cons a as ih =>
    have hfirst := approaches_step hquiet h hroom (has a List.mem_cons_self)
    obtain ⟨hrest, hle⟩ := ih hfirst.isRunning hfirst.hasRoom fun b hb =>
      has b (List.mem_cons_of_mem _ hb)
    have hlast : (m.after net (a :: as)).work net + changes net id m (a :: as) ≤ m.work net := by
      rw [after, changes]
      by_cases hsame : id (m.step net a).1.card = id m.card
      · have hwork := hfirst.work_le
        rw [if_pos hsame]
        omega
      · have hwork := hfirst.changed hsame
        rw [if_neg hsame]
        omega
    refine ⟨⟨hrest.isRunning, hrest.hasRoom, hrest.outcome.trans hfirst.outcome, ?_, ?_⟩, hlast⟩
    · omega
    · intro hne
      have hchanges : changes net id m (a :: as) ≠ 0 := fun hzero =>
        hne (card_eq_of_changes_eq_zero hzero)
      omega

/-! ## Getting on -/

theorem forall_internal_snoc {as : List Actor} {a : Actor}
    (has : ∀ b ∈ as, b.isInternal = true) (ha : a.isInternal = true) :
    ∀ b ∈ as ++ [a], b.isInternal = true := by
  intro b hb
  rcases List.mem_append.1 hb with hb | hb
  · exact has b hb
  · rw [List.mem_singleton.1 hb]
    exact ha

/-- The relay's thread gets to its input without changing anything else. -/
theorem exists_input (hquiet : net.IsQuiet) (h : m.IsRunning) :
    ∃ as, (∀ a ∈ as, a.isInternal = true) ∧ m.after net as = { m with relay := .input } := by
  obtain ⟨hnext, ⟨-, hstep⟩ | ⟨hm, -⟩ | ⟨-, hstep⟩⟩ := relay_step net h
  · refine ⟨[.relay], by simp [Actor.isInternal], ?_⟩
    exact hstep
  · refine ⟨[], by simp, ?_⟩
    rw [after, ← hm]
  · rw [onRelay_serve hquiet h] at hstep
    rw [hstep] at hnext
    refine ⟨[.relay, .relay], by simp [Actor.isInternal], ?_⟩
    rw [after, hstep, after, after]
    obtain ⟨-, ⟨-, hstep'⟩ | ⟨hm', -⟩ | ⟨hm', -⟩⟩ := relay_step net hnext
    · exact hstep'
    · cases hm'
    · cases hm'

/-- Records that wait are work that can be done. -/
theorem exists_work_lt_of_records (hquiet : net.IsQuiet) (h : m.IsRunning)
    (hroom : m.card.HasRoom net) {r : Relay σ} {p : StackPipe} (hwired : m.card.IsWired r p)
    (hq : p.toStack.queue ≠ []) :
    ∃ as, (∀ a ∈ as, a.isInternal = true) ∧ (m.after net as).work net < m.work net := by
  obtain ⟨as, has, hafter⟩ := exists_input hquiet h
  refine ⟨as ++ [.relay], forall_internal_snoc has rfl, ?_⟩
  have hstep : m.after net (as ++ [.relay]) =
      { m with card := m.card.onRelay (Relay.takeInput net), relay := .serve } := by
    rw [after_snoc, hafter]
    rfl
  rw [hstep]
  rcases hwired.takeInput_cases net hroom with ⟨hnil, -⟩ | ⟨-, hload⟩
  · exact absurd hnil hq
  · show (m.card.onRelay (Relay.takeInput net)).load net + m.receiver.rank <
      m.card.load net + m.receiver.rank
    omega

/-- With no frame in hand and no ring outstanding, the reception thread gets to the oldest frame. -/
theorem exists_read (net : NetStack σ) (h : m.IsRunning) (hrank : m.receiver.rank = 0)
    (hresting : m.card.isResting = false) (hq : m.card.queue ≠ []) :
    ∃ as, (∀ a ∈ as, a.isInternal = true) ∧ m.after net as = { m with receiver := .read } := by
  obtain ⟨r, p, hwired⟩ := h.wired
  have hpending : m.card.doorbell.isPending = false := by rw [← h.isResting_eq]; exact hresting
  have hready : m.card.link.wait = (m.card.link, .ok true) := by
    rw [Link.wait_eq hwired.isQueue]
    cases hp : m.card.link.port.queue with
    | nil => exact absurd hp hq
    | cons d ds => rfl
  have hwait : (step net { m with receiver := .wait } .receiver).1 =
      { m with receiver := .read } := by
    simp only [step, step?, receiverStep, hready, ↓reduceIte, Option.getD_some]
  have hcheck : (step net { m with receiver := .check } .receiver).1 =
      { m with receiver := .wait } := by
    simp only [step, step?, receiverStep, h.cancelled, Bool.false_eq_true, ↓reduceIte,
      Option.getD_some]
  have hawait : (step net { m with receiver := .await } .receiver).1 =
      { m with receiver := .check } := by
    simp only [step, step?, receiverStep, Doorbell.awaited, hpending, Bool.not_false, ↓reduceIte,
      Option.map_some, Option.getD_some]
  have hself : ∀ point, m.receiver = point → { m with receiver := point } = m := by
    rintro point rfl
    rfl
  cases hm : m.receiver with
  | read => exact ⟨[], by simp, (hself _ hm).symm⟩
  | wait =>
    rw [hself _ hm] at hwait
    refine ⟨[.receiver], by simp [Actor.isInternal], ?_⟩
    rw [after, after, hwait]
  | check =>
    rw [hself _ hm] at hcheck
    refine ⟨[.receiver, .receiver], by simp [Actor.isInternal], ?_⟩
    rw [after, after, after, hcheck, hwait]
  | await =>
    rw [hself _ hm] at hawait
    refine ⟨[.receiver, .receiver, .receiver], by simp [Actor.isInternal], ?_⟩
    rw [after, after, after, after, hawait, hcheck, hwait]
  | sort | ring | announce =>
    rw [hm] at hrank
    cases hrank
  | ended => exact absurd hm h.receiver

/-- Frames that wait are work that can be done while no ring is outstanding. -/
theorem exists_work_lt_of_frames (hquiet : net.IsQuiet) (h : m.IsRunning)
    (hroom : m.card.HasRoom net) (hrank : m.receiver.rank = 0)
    (hresting : m.card.isResting = false) (hq : m.card.queue ≠ []) :
    ∃ as, (∀ a ∈ as, a.isInternal = true) ∧ (m.after net as).work net < m.work net := by
  obtain ⟨as, has, hafter⟩ := exists_read net h hrank hresting hq
  obtain ⟨happroaches, -⟩ := approaches_after hquiet h hroom has
  rw [hafter] at happroaches
  refine ⟨as ++ [.receiver], forall_internal_snoc has rfl, ?_⟩
  rw [after_snoc, hafter]
  obtain ⟨-, hreception⟩ := reception_step net happroaches.isRunning
  rcases hreception.work_lt net with hlt | ⟨-, -, -, hne⟩
  · exact Nat.lt_of_lt_of_le hlt happroaches.work_le
  · exact absurd rfl hne

/-- Where no schedule gets on, the outcome has been reached. -/
theorem card_eq_outcome (hquiet : net.IsQuiet) (h : m.IsRunning) (hroom : m.card.HasRoom net)
    (hstuck : ∀ as, (∀ a ∈ as, a.isInternal = true) → m.work net ≤ (m.after net as).work net) :
    m.card = m.outcome net := by
  obtain ⟨r, p, hwired⟩ := h.wired
  have hrank : m.receiver.rank = 0 := by
    obtain ⟨-, hreception⟩ := reception_step net h
    rcases hreception.work_lt net with hlt | ⟨-, -, hrank, -⟩
    · exact absurd (hstuck [.receiver] (by simp [Actor.isInternal])) (Nat.not_le.2 hlt)
    · exact hrank
  have hrecords : p.toStack.queue = [] := by
    by_contra hne
    obtain ⟨as, has, hlt⟩ := exists_work_lt_of_records hquiet h hroom hwired hne
    exact absurd (hstuck as has) (Nat.not_le.2 hlt)
  have hframes : m.card.isResting = true ∨ p.toGuest.queue = [] := by
    by_contra hne
    rw [not_or, Bool.not_eq_true, ← hwired.queue_eq] at hne
    obtain ⟨as, has, hlt⟩ := exists_work_lt_of_frames hquiet h hroom hrank hne.1 hne.2
    exact absurd (hstuck as has) (Nat.not_le.2 hlt)
  have hcompleted : m.completed = m.card := ReceiverPoint.finish_of_rank hrank m.card
  rw [outcome, hcompleted, Card.outcome_eq_self net hwired hrecords hframes]

/-- Some schedule goes on until no schedule gets on. -/
theorem exists_stuck (net : NetStack σ) (m : Threads σ) :
    ∃ as, (∀ a ∈ as, a.isInternal = true) ∧ ∀ bs, (∀ b ∈ bs, b.isInternal = true) →
      (m.after net as).work net ≤ ((m.after net as).after net bs).work net := by
  induction hn : m.work net using Nat.strongRecOn generalizing m with
  | ind n ih =>
    by_cases hbetter : ∃ bs, (∀ b ∈ bs, b.isInternal = true) ∧
        (m.after net bs).work net < m.work net
    · obtain ⟨bs, hbs, hlt⟩ := hbetter
      obtain ⟨as, has, hrest⟩ := ih _ (hn ▸ hlt) (m.after net bs) rfl
      refine ⟨bs ++ as, ?_, ?_⟩
      · intro a ha
        exact (List.mem_append.1 ha).elim (hbs a) (has a)
      · rw [after_append]
        exact hrest
    · refine ⟨[], by simp, ?_⟩
      intro bs hbs
      exact Nat.le_of_not_lt fun hlt => hbetter ⟨bs, hbs, hlt⟩

/-! ## The end -/

/-- No schedule of the two threads changes what `view` shows of the card any more. -/
def IsSettled {α : Type} (net : NetStack σ) (view : Card σ → α) (m : Threads σ) : Prop :=
  ∀ as, (∀ a ∈ as, a.isInternal = true) → view (m.after net as).card = view m.card

/-- The two threads of a running card can always settle, with the outcome that there is. -/
theorem exists_settled (hquiet : net.IsQuiet) (h : m.IsRunning) (hroom : m.card.HasRoom net) :
    ∃ as, (∀ a ∈ as, a.isInternal = true) ∧ (m.after net as).card = m.outcome net ∧
      IsSettled net id (m.after net as) := by
  obtain ⟨as, has, hstuck⟩ := exists_stuck net m
  obtain ⟨happroaches, -⟩ := approaches_after hquiet h hroom has
  refine ⟨as, has, ?_, ?_⟩
  · rw [← happroaches.outcome]
    exact card_eq_outcome hquiet happroaches.isRunning happroaches.hasRoom hstuck
  · intro bs hbs
    obtain ⟨hnext, -⟩ := approaches_after hquiet happroaches.isRunning happroaches.hasRoom hbs
    -- A step that changes the card would bring the end nearer.
    by_contra hne
    exact absurd (hstuck bs hbs) (Nat.not_le.2 (hnext.changed hne))

theorem card_eq_of_isSettled (hquiet : net.IsQuiet) (h : m.IsRunning) (hroom : m.card.HasRoom net)
    (hsettled : IsSettled net id m) : m.card = m.outcome net := by
  obtain ⟨as, has, hcard, -⟩ := exists_settled hquiet h hroom
  exact (hsettled as has).symm.trans hcard

theorem settle_eq_outcome (hquiet : net.IsQuiet) (h : m.IsRunning) (hroom : m.card.HasRoom net)
    (hrank : m.receiver.rank = 0) : (m.card.settle net).1 = m.outcome net := by
  obtain ⟨r, p, hwired⟩ := h.wired
  have hcompleted : m.completed = m.card := ReceiverPoint.finish_of_rank hrank m.card
  rw [outcome, hcompleted]
  exact Card.settle_eq_outcome net hquiet hwired ((hwired.hasRoom_iff net).1 hroom) h.isOpen

/-! ## Stacks that are quiet but for themselves -/

section

variable {τ : Type} {quiet : NetStack τ} {view : σ → τ}

theorem IsRunning.mapStack (h : m.IsRunning) (view : σ → τ) : (m.mapStack view).IsRunning := by
  obtain ⟨r, p, hwired⟩ := h.wired
  refine ⟨⟨r.mapStack view, p, ⟨⟨hwired.inputOpen, hwired.inputFault, hwired.toGuest⟩,
    hwired.port, ?_⟩⟩, h.isOpen, h.isReceiving, h.isClosed, h.cancelled, h.relayCancelled,
    h.receiver, h.relay, h.gate, h.reading⟩
  show m.card.relay.map (Relay.mapStack view) = _
  rw [hwired.attached, Option.map_some]

theorem changes_mapStack (h : net.Simulates quiet view) (m : Threads σ) (as : List Actor) :
    changes net (Card.mapStack view) m as = changes quiet id (m.mapStack view) as := by
  induction as generalizing m with
  | nil => rfl
  | cons a as ih =>
    rw [changes, changes, step_mapStack h, ih]
    rfl

theorem isSettled_mapStack (h : net.Simulates quiet view) (m : Threads σ) :
    IsSettled net (Card.mapStack view) m ↔ IsSettled quiet id (m.mapStack view) := by
  constructor
  · intro hsettled as has
    rw [after_mapStack h]
    exact hsettled as has
  · intro hsettled as has
    have hsame := hsettled as has
    rw [after_mapStack h] at hsame
    exact hsame

end

/-! ## Cards that have been shut down -/

/-- The threads of a card that has been shut down do nothing any more. -/
theorem after_of_finished (h : Progress m) (hm : m.closer = .finished) {as : List Actor}
    (has : ∀ a ∈ as, a.isInternal = true) : m.after net as = m := by
  obtain ⟨hreceiver, hrelay⟩ := ended_of_finished h hm
  induction as with
  | nil => rfl
  | cons a as ih =>
    have hstep : (m.step net a).1 = m := by
      cases a with
      | receiver => simp only [step, step?, receiverStep, hreceiver, Option.getD_none]
      | relay => simp only [step, step?, relayStep, hrelay, Option.getD_none]
      | guest | closer | outside => cases has _ List.mem_cons_self
    rw [after, hstep]
    exact ih fun b hb => has b (List.mem_cons_of_mem _ hb)

theorem changes_of_finished {α : Type} {view : Card σ → α} (h : Progress m)
    (hm : m.closer = .finished) {as : List Actor} (has : ∀ a ∈ as, a.isInternal = true) :
    changes net view m as = 0 := by
  induction as with
  | nil => rfl
  | cons a as ih =>
    have hfirst : ∀ b ∈ [a], b.isInternal = true := by
      intro b hb
      rw [List.mem_singleton.1 hb]
      exact has a List.mem_cons_self
    have hstep : (m.step net a).1 = m := after_of_finished h hm hfirst
    rw [changes, hstep, if_pos rfl, Nat.zero_add]
    exact ih fun b hb => has b (List.mem_cons_of_mem _ hb)

theorem settle_of_finished (h : Progress m) (hm : m.closer = .finished) :
    (m.card.settle net).1 = m.card := by
  have hopen : m.card.isOpen = false := isOpen_of_finished h hm
  have hresting : m.card.isResting = true := by rw [Card.isResting, hopen]; rfl
  have hrelay : m.card.runRelay net = m.card := by
    unfold Card.runRelay
    split
    · rename_i hopen' _ _
      rw [hopen] at hopen'
      cases hopen'
    · rfl
  rw [Card.settle, hrelay, Card.receiveTimes_of_eq (Card.receive_of_resting hresting)]

/-! ## Confluence -/

/-- A card that has been started in NAT mode is a fresh card with a relay whose input is open. -/
theorem startNat_eq_ofLink {link : Link} {layout : ReceiveLayout} {stack : σ}
    {rules : List Forwarding.Rule} {card : Card σ}
    (h : (Card.startNat net link layout stack rules).result = .ok card) :
    ∃ r : Relay σ, r.inputOpen = true ∧ card = .ofLink link (some r) layout := by
  rw [Card.startNat_all] at h
  split at h
  · cases h
  · rename_i r outcomes hstart
    cases h
    refine ⟨r, ?_, rfl⟩
    unfold Relay.start at hstart
    split at hstart
    · cases hstart
    · cases hstart
      rfl

/-- The two threads of a card in NAT mode are confluent, whatever has happened before: calls of the
driver, services begun and finished, steps of the threads. Only in the middle of a shutdown, which is
a call under way, it matters which thread is the first to notice. The stack, seen through `view`,
answers the frames that it is handed and does nothing by itself; `NetStack.answers` is such a view of
every stack that emits nothing by itself. The channel towards the guest has room for what will come.
Then there is a bound on the steps that change what is seen of the card, every schedule of the two
threads can be gone on with until nothing changes any more, and all that do end with the same card:
its queues, its stack, its doorbell, its handlers and its counters. Settling the card ends with it as
well, at every point at which the reception thread has no frame in hand. -/
theorem internal_confluence {τ : Type} {net : NetStack σ} {quiet : NetStack τ} {view : σ → τ}
    (hsim : net.Simulates quiet view) (hquiet : quiet.IsQuiet) {towardsStack towardsGuest : Nat}
    {layout : ReceiveLayout} {stack : σ} {rules : List Forwarding.Rule} {card : Card σ}
    (hstart : (Card.startNat net (.ofPort (.pipe {
        toStack := .ofCapacity towardsStack
        toGuest := .ofCapacity towardsGuest
        inputFault := none })) layout stack rules).result = .ok card)
    (past : List Actor) :
    let m := (start card).after net past
    (m.closer = .running ∧ (m.card.mapStack view).HasRoom quiet ∨ m.closer = .finished) →
    ∃ (final : Card τ) (bound : Nat), ∀ as, (∀ a ∈ as, a.isInternal = true) →
      let m' := m.after net as
      changes net (Card.mapStack view) m as ≤ bound ∧
      (∃ bs, (∀ b ∈ bs, b.isInternal = true) ∧
        IsSettled net (Card.mapStack view) (m'.after net bs)) ∧
      (IsSettled net (Card.mapStack view) m' → m'.card.mapStack view = final) ∧
      (m'.receiver.rank = 0 → (m'.card.settle net).1.mapStack view = final) := by
  intro m hm
  obtain ⟨r, hopen, rfl⟩ := startNat_eq_ofLink hstart
  rcases hm with ⟨hcloser, hroom⟩ | hcloser
  · have hrunning : m.IsRunning :=
      (isRunning_start ⟨hopen, rfl, Host.Channel.isLive_ofCapacity _⟩ layout).after net hcloser
    -- What is seen of the card is a card of its own, on a stack that is quiet.
    refine ⟨(m.mapStack view).outcome quiet, (m.mapStack view).work quiet, ?_⟩
    intro as has m'
    obtain ⟨happroaches, hchanges⟩ := approaches_after hquiet (hrunning.mapStack view) hroom has
    have hsame := after_mapStack hsim m as
    rw [hsame] at happroaches hchanges
    refine ⟨?_, ?_, ?_, ?_⟩
    · rw [changes_mapStack hsim]
      omega
    · obtain ⟨bs, hbs, -, hsettled⟩ :=
        exists_settled hquiet happroaches.isRunning happroaches.hasRoom
      refine ⟨bs, hbs, (isSettled_mapStack hsim _).2 ?_⟩
      rw [← after_mapStack hsim]
      exact hsettled
    · intro hsettled
      rw [← happroaches.outcome]
      exact card_eq_of_isSettled hquiet happroaches.isRunning happroaches.hasRoom
        ((isSettled_mapStack hsim m').1 hsettled)
    · intro hrank
      rw [← happroaches.outcome, ← settle_eq_outcome hquiet happroaches.isRunning
        happroaches.hasRoom hrank]
      exact (congrArg Prod.fst (Card.settle_mapStack hsim m'.card)).symm
  · have hprogress : Progress m := (progress_start _ _ layout).after net past
    refine ⟨m.card.mapStack view, 0, ?_⟩
    intro as has m'
    have hsame : m' = m := after_of_finished hprogress hcloser has
    rw [hsame]
    refine ⟨?_, ⟨[], by simp, ?_⟩, fun _ => rfl, ?_⟩
    · exact Nat.le_of_eq (changes_of_finished hprogress hcloser has)
    · intro bs hbs
      rw [after_nil, after_of_finished hprogress hcloser hbs]
    · intro _
      rw [settle_of_finished hprogress hcloser]

/-- Two frames on their way to an echo stack: whichever thread goes first, the same card comes of
it. -/
theorem internal_confluence_echo :
    let card : Card EchoStack := .ofLink (.ofPort (.pipe {
        toStack := .ofCapacity 2
        toGuest := .ofCapacity 2
        inputFault := none }))
      (some { stack := .empty, inputOpen := true, buffer := .empty, counters := {} })
      ⟨0, 0, 0⟩
    let m := (start card).after EchoStack.net
      [.outside (.attach 0x800 ⟨0x4000⟩),
        .outside (.transmitFrame (List.replicate 12 0 ++ [8, 0])),
        .outside (.transmitFrame (List.replicate 12 0 ++ [8, 0]))]
    ∃ final, ∀ as, (∀ a ∈ as, a.isInternal = true) →
      IsSettled EchoStack.net (Card.mapStack id) (m.after EchoStack.net as) →
        (m.after EchoStack.net as).card.mapStack id = final := by
  intro card m
  obtain ⟨final, bound, hall⟩ := internal_confluence (.refl EchoStack.net) (fun _ => rfl)
    (show (Card.startNat EchoStack.net (.ofPort (.pipe {
      toStack := .ofCapacity 2
      toGuest := .ofCapacity 2
      inputFault := none })) ⟨0, 0, 0⟩ .empty []).result = .ok card from rfl)
    [.outside (.attach 0x800 ⟨0x4000⟩),
      .outside (.transmitFrame (List.replicate 12 0 ++ [8, 0])),
      .outside (.transmitFrame (List.replicate 12 0 ++ [8, 0]))]
    (.inl ⟨rfl, by decide +kernel⟩)
  exact ⟨final, fun as has => (hall as has).2.2.1⟩

end Threads
end GuestNic
