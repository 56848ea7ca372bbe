import GuestNic.Proofs.Card.Quiescence
import GuestNic.Proofs.Threads.Aftermath
import GuestNic.Proofs.Threads.QuietShutdown
import GuestNic.Proofs.Threads.ReadFates

/-!
# The accounts of receiving

Link, card and guest each count for themselves what becomes of a received frame, at different
moments. When no frame is in hand and no service under way they agree, whatever the host answers and
in whatever order the threads take their steps; only a frame that finds the doorbell closed is
counted by the link alone. No counter ever goes back.
-/

namespace GuestNic

open Mark

variable {σ : Type}

/-! ## What a trace tells of the guest -/

/-- A frame is handed to the guest. -/
def CardEvent.isUpcall : CardEvent → Bool
  | .enter _ _ => true
  | .tunnelFrame _ _ => true
  | _ => false

/-- A delivery is handed to the guest in one upcall. -/
theorem Card.countP_upcall (layout : ReceiveLayout) (d : Delivery) :
    (upcall layout d).countP CardEvent.isUpcall = 1 := by
  cases d <;> rfl

namespace Mark

/-- A service finds nothing. -/
def isMiss : Mark → Bool
  | .missed _ => true
  | _ => false

/-- A service of the interrupt begins. -/
def isService : Mark → Bool
  | .took _ _ | .missed _ => true
  | _ => false

/-- The upcalls in a trace are the deliveries that were handed over. -/
theorem countP_upcalls (layout : ReceiveLayout) (t : List Mark) :
    (t.flatMap (events layout)).countP CardEvent.isUpcall = (hands t).length := by
  induction t with
  | nil => rfl
  | cons x t ih =>
    have hhands : hands (x :: t) = x.handed?.toList ++ hands t := by
      rw [hands, List.filterMap_cons]
      cases x <;> rfl
    have hfirst : (x.events layout).countP CardEvent.isUpcall = x.handed?.toList.length := by
      cases x with
      | handed i d => exact Card.countP_upcall layout d
      | _ => rfl
    rw [List.flatMap_cons, List.countP_append, ih, hfirst, hhands, List.length_append]

/-- Every service takes a delivery or finds none. -/
theorem countP_isService (t : List Mark) :
    t.countP isService = (takes t).length + t.countP isMiss := by
  induction t with
  | nil => rfl
  | cons x t ih =>
    have htakes : takes (x :: t) = x.taken?.toList ++ takes t := by
      rw [takes, List.filterMap_cons]
      cases x <;> rfl
    have hfirst : (if x.isService then 1 else 0) =
        x.taken?.toList.length + if x.isMiss then 1 else 0 := by
      cases x <;> rfl
    rw [List.countP_cons, List.countP_cons, ih, htakes, List.length_append, hfirst]
    omega

/-- The rings are among the signals. -/
theorem rings_signals (t : List Mark) : rings (signals t) = rings t := by
  rw [rings, signals, List.filterMap_filter]
  congr
  funext x
  cases x <;> rfl

end Mark

/-! ## What a step counts -/

namespace Card

/-- No counter has gone back, and what the guest was given has been counted. -/
structure Counts (c c' : Card σ) (marks : List Mark) : Prop where
  stats : c.stats ≤ c'.stats
  serviced : c'.counters.interruptsServiced = c.counters.interruptsServiced + (hands marks).length
  packets : c'.counters.rxPackets = c.counters.rxPackets + (hands marks).length
  spurious : c'.counters.interruptsSpurious =
    c.counters.interruptsSpurious + marks.countP Mark.isMiss

variable {c c' : Card σ} {marks : List Mark}

/-- What is no step of a service counts nothing for the guest. -/
theorem Counts.of_stats (h : c.stats ≤ c'.stats)
    (hserviced : c'.counters.interruptsServiced = c.counters.interruptsServiced)
    (hpackets : c'.counters.rxPackets = c.counters.rxPackets)
    (hspurious : c'.counters.interruptsSpurious = c.counters.interruptsSpurious)
    (hhands : hands marks = []) (hmiss : marks.countP Mark.isMiss = 0) : c.Counts c' marks := by
  refine ⟨h, ?_, ?_, ?_⟩
  · rw [hserviced, hhands, List.length_nil, Nat.add_zero]
  · rw [hpackets, hhands, List.length_nil, Nat.add_zero]
  · rw [hspurious, hmiss, Nat.add_zero]

theorem Counts.of_eq (hcounters : c'.counters = c.counters)
    (htraffic : c'.link.traffic = c.link.traffic) (hrelay : c'.relay = c.relay)
    (hhands : hands marks = []) (hmiss : marks.countP Mark.isMiss = 0) : c.Counts c' marks := by
  have hstats : c.stats = c'.stats := by rw [Card.stats, Card.stats, hcounters, htraffic, hrelay]
  exact .of_stats (le_of_eq hstats) (by rw [hcounters]) (by rw [hcounters]) (by rw [hcounters])
    hhands hmiss

theorem Submits.stats_le {answer : HostAnswer} {o : Outgoing} {events : List CardEvent}
    {r : Except TransmitFault Unit} (h : Submits answer c o c' events r) : c.stats ≤ c'.stats := by
  rw [CardStats.le_iff, CardCounters.le_iff, Traffic.le_iff]
  cases h <;> refine ⟨?_, ?_, RelayCounters.rel_refl _⟩ <;>
    simp [stats, countTooLong, countSent, countRefused]

/-- A call counts at most what is sent. -/
theorem perform_counts (c : Card σ) (call : Call) : c.Counts (c.perform call).1 [] := by
  cases hcall : c.sending? call with
  | some sending =>
    rw [(perform_of_sending? hcall).1]
    have hsubmits := submit_submits Port.offer c sending.1
    have hspares := hsubmits.spares.1.counters
    simp only [CardCounters.receiving, CardCounters.mk.injEq, true_and] at hspares
    obtain ⟨hpackets, -, -, hserviced, hspurious, -⟩ := hspares
    exact .of_stats hsubmits.stats_le hserviced hpackets hspurious rfl rfl
  | none =>
    obtain ⟨handlers, port, hcard⟩ := perform_of_sending?_none hcall
    rw [hcard]
    exact .of_eq rfl rfl rfl rfl rfl

/-- No call moves the counters of a closed card's link. -/
theorem perform_traffic_of_closed {c : Card σ} (h : c.isOpen = false) (call : Call) :
    (c.perform call).1.link.traffic = c.link.traffic := by
  cases hcall : c.sending? call with
  | some sending => rw [(perform_of_sending? hcall).1, submit_of_closed h]
  | none =>
    obtain ⟨handlers, port, hcard⟩ := perform_of_sending?_none hcall
    rw [hcard]

/-- Sorting a frame counts at most that it is dropped. -/
theorem prepare_counts (c : Card σ) (origin : Origin) : c.Counts (c.prepare origin).1 [] := by
  unfold prepare
  dsimp only
  split
  · exact .of_eq rfl rfl rfl rfl rfl
  · split
    · exact .of_eq rfl rfl rfl rfl rfl
    · refine .of_stats (CardStats.le_iff.2 ⟨CardCounters.le_iff.2 ?_, le_rfl, ?_⟩) rfl rfl rfl rfl rfl
      · simp [stats]
      · exact RelayCounters.rel_refl _
  · exact .of_eq rfl rfl rfl rfl rfl

/-- The relay counts for itself. -/
theorem onRelay_counts (c : Card σ) (act : Relay σ → StackPipe → Relay σ × StackPipe)
    (hact : ∀ r p, r.counters ≤ (act r p).1.counters) : c.Counts (c.onRelay act) [] := by
  unfold onRelay
  split
  · rename_i pipe relay _ hrelay
    refine .of_stats (CardStats.le_iff.2 ⟨le_rfl, le_rfl, ?_⟩) rfl rfl rfl rfl rfl
    show Option.Rel (· ≤ ·) (c.relay.map Relay.counters) _
    rw [hrelay]
    exact .some (hact relay pipe)
  · exact .of_eq rfl rfl rfl rfl rfl

end Card

theorem Traffic.le_counting (t : Traffic) (found : ReadAnswer) : t ≤ t.counting found := by
  rw [Traffic.le_iff]
  unfold counting
  split <;> split <;> simp

namespace Threads

variable (net : NetStack σ) (m : Threads σ)

theorem waitOn_counts (port : Port) (poll : Except Host.Fault Host.PollEvents) :
    m.card.Counts (m.waitOn port poll).1.card (m.waitOn port poll).2 := by
  unfold waitOn
  split
  · exact .of_stats (le_refl m.card.stats) rfl rfl rfl rfl rfl
  · exact .of_eq rfl rfl rfl rfl rfl

theorem readOn_counts (port : Port) (found : ReadAnswer) :
    m.card.Counts (m.readOn port found).1.card (m.readOn port found).2 := by
  obtain ⟨filled, -, hread⟩ := readOn_eq m port found
  rw [hread]
  refine .of_stats (CardStats.le_iff.2 ⟨le_rfl, ?_, ?_⟩) rfl rfl rfl rfl rfl
  · exact Traffic.le_counting _ _
  · exact RelayCounters.rel_refl _

theorem receiverStep_counts :
    m.card.Counts (m.step net .receiver).1.card (m.step net .receiver).2 := by
  cases hm : m.receiver with
  | wait =>
    rw [step, step?, receiverStep_wait hm]
    exact m.waitOn_counts _ _
  | read =>
    rw [step, step?, receiverStep_read hm]
    exact m.readOn_counts _ _
  | sort origin =>
    have hprepare := m.card.prepare_counts origin
    simp only [step, step?, receiverStep, hm]
    generalize m.card.prepare origin = prepared at hprepare ⊢
    obtain ⟨card, _ | delivery⟩ := prepared <;> exact hprepare
  | ring delivery =>
    simp only [step, step?, receiverStep, hm]
    cases m.card.doorbell.ring delivery <;> exact .of_eq rfl rfl rfl rfl rfl
  | announce =>
    simp only [step, step?, receiverStep, hm, Option.getD_some]
    refine .of_stats (CardStats.le_iff.2 ⟨CardCounters.le_iff.2 ?_, le_rfl, ?_⟩) rfl rfl rfl rfl rfl
    · simp [Card.stats]
    · exact RelayCounters.rel_refl _
  | await =>
    simp only [step, step?, receiverStep, hm]
    cases m.card.doorbell.awaited <;> exact .of_eq rfl rfl rfl rfl rfl
  | check | ended =>
    simp only [step, step?, receiverStep, hm]
    exact .of_eq rfl rfl rfl rfl rfl

theorem relayStep_counts :
    m.card.Counts (m.step net .relay).1.card (m.step net .relay).2 := by
  cases hm : m.relay with
  | check =>
    simp only [step, step?, relayStep, hm]
    split
    · exact m.card.onRelay_counts (fun relay pipe => (relay, pipe.closeStack)) fun _ _ => le_rfl
    · exact .of_eq rfl rfl rfl rfl rfl
  | input =>
    simp only [step, step?, relayStep, hm, Option.getD_some]
    exact m.card.onRelay_counts _ (Relay.counters_le_takeInput net)
  | serve =>
    simp only [step, step?, relayStep, hm, Option.getD_some]
    exact m.card.onRelay_counts _ (Relay.counters_le_serve net)
  | ended =>
    simp only [step, step?, relayStep, hm]
    exact .of_eq rfl rfl rfl rfl rfl

/-- A service counts what it finds when it finds nothing, and otherwise what it hands over. -/
theorem guestStep_counts (i : Nat) :
    m.card.Counts (m.guestStep i).1.card (m.guestStep i).2 := by
  cases hm : m.guests i with
  | idle =>
    simp only [guestStep, hm]
    rcases m.card.doorbell.take with ⟨bell, _ | delivery⟩
    · refine ⟨CardStats.le_iff.2 ⟨CardCounters.le_iff.2 ?_, le_rfl, ?_⟩, rfl, rfl, rfl⟩
      · simp [Card.stats]
      · exact RelayCounters.rel_refl _
    · exact .of_eq rfl rfl rfl rfl rfl
  | upcall delivery =>
    simp only [guestStep, hm]
    refine ⟨CardStats.le_iff.2 ⟨CardCounters.le_iff.2 ?_, le_rfl, ?_⟩, rfl, rfl, rfl⟩
    · simp [Card.stats]
    · exact RelayCounters.rel_refl _
  | acknowledge delivery =>
    simp only [guestStep, hm]
    exact .of_eq rfl rfl rfl rfl rfl

theorem closerStep_counts :
    m.card.Counts (m.step net .closer).1.card (m.step net .closer).2 := by
  cases hm : m.closer with
  | running | flagged | silenced | finished =>
    simp only [step, step?, closerStep, hm]
    exact .of_eq rfl rfl rfl rfl rfl
  | stopping | joining =>
    simp only [step, step?, closerStep, hm]
    split <;> exact .of_eq rfl rfl rfl rfl rfl

/-- What every step counts. -/
theorem step_counts (a : Actor) : m.card.Counts (m.step net a).1.card (m.step net a).2 := by
  cases a with
  | receiver => exact m.receiverStep_counts net
  | relay => exact m.relayStep_counts net
  | guest i => exact m.guestStep_counts i
  | closer => exact m.closerStep_counts net
  | outside call => exact m.card.perform_counts call

end Threads

/-! ## Points of the threads -/

/-- The reception thread is past its look at whether to stop, and has not rung yet in this round. -/
def ReceiverPoint.isInRound : ReceiverPoint → Bool
  | .wait | .read | .sort _ | .ring _ => true
  | _ => false

theorem ReceiverPoint.isSettled_of_rank {point : ReceiverPoint} (h : point.rank = 0) :
    point.isSettled = true ∧ point.due = [] := by
  cases point with
  | sort | ring | announce => cases h
  | check | wait | read | await | ended => exact ⟨rfl, rfl⟩

namespace Threads

/-- No frame is in hand, and no service is under way. -/
structure IsAtRest (m : Threads σ) : Prop where
  receiver : m.receiver.rank = 0
  guests : ∀ i, m.guests i = .idle

/-- While no service is under way, what was taken has been handed over, and so has what was rung for
unless it is outstanding. -/
theorem Phase.rings_of_idle {bell : Doorbell} {guests : Nat → GuestPoint} {t : List Mark}
    (h : Phase bell guests t) (hidle : ∀ i, guests i = .idle) :
    takes t = hands t ∧
      (rings t).length = (hands t).length + if bell.isPending then 1 else 0 := by
  cases h with
  | quiet hp _ _ hr ht => simp [hp, hr, ht]
  | rung hp _ _ hr ht => simp [hp, hr, ht]
  | @upcalling i _ _ _ hi | @acknowledging i _ _ _ hi =>
    rw [hidle i] at hi
    cases hi

end Threads

namespace Watched

variable (net : NetStack σ) {w first : Watched σ} {history : List Happening}

/-! ## What the guest was given -/

/-- The counters of the guest's side are those of what it did. -/
structure Served (w : Watched σ) : Prop where
  serviced : w.threads.card.counters.interruptsServiced = (hands w.trace).length
  packets : w.threads.card.counters.rxPackets = (hands w.trace).length
  spurious : w.threads.card.counters.interruptsSpurious = w.trace.countP Mark.isMiss

theorem stepOf_counts (w : Watched σ) (h : Happening) :
    w.threads.card.Counts (w.stepOf net h).1.card (w.stepOf net h).2 := by
  cases h with
  | arrival found => exact .of_eq rfl rfl rfl rfl rfl
  | aside a ha => exact w.threads.step_counts net a
  | reception turn =>
    simp only [stepOf]
    split
    · exact w.threads.waitOn_counts _ _
    · exact w.threads.readOn_counts _ _
    · exact w.threads.step_counts net .receiver

theorem Served.next (h : w.Served) (happening : Happening) : (w.next net happening).Served := by
  obtain ⟨hthreads, htrace⟩ := w.next_stepOf net happening
  have hcounts := w.stepOf_counts net happening
  refine ⟨?_, ?_, ?_⟩
  · rw [hthreads, htrace, hcounts.serviced, hands_append, List.length_append, h.serviced]
  · rw [hthreads, htrace, hcounts.packets, hands_append, List.length_append, h.packets]
  · rw [hthreads, htrace, hcounts.spurious, List.countP_append, h.spurious]

theorem Served.after (h : w.Served) (history : List Happening) : (w.after net history).Served := by
  induction history generalizing w with
  | nil => exact h
  | cons happening history ih => exact ih (h.next net happening)

/-- No counter ever goes back. -/
theorem stats_le (w : Watched σ) (history : List Happening) :
    w.threads.card.stats ≤ (w.after net history).threads.card.stats := by
  induction history generalizing w with
  | nil => exact le_rfl
  | cons happening history ih =>
    refine le_trans ?_ (ih (w.next net happening))
    rw [(w.next_stepOf net happening).1]
    exact (w.stepOf_counts net happening).stats

/-- The hand-over goes on as it does whatever the host answers. -/
theorem handOver_after (h : Threads.HandOver w.threads w.trace) (history : List Happening) :
    Threads.HandOver (w.after net history).threads (w.after net history).trace := by
  induction history generalizing w with
  | nil => exact h
  | cons happening history ih =>
    refine ih ?_
    obtain ⟨hthreads, htrace⟩ := w.next_stepOf net happening
    rw [hthreads, htrace]
    rcases w.stepOf_effect net happening with hsame | ⟨a, -, heffect⟩
    · rw [hsame, List.append_nil]
      exact h
    · exact h.effect heffect

/-! ## Frames that find the doorbell closed -/

/-- Shutdown closed the doorbell while the reception thread was past its look at whether to stop and
had not rung yet in that round. -/
def ClosedInRound (first : Watched σ) (history : List Happening) : Prop :=
  ∃ past rest, history = past ++ .aside .closer rfl :: rest ∧
    (first.after net past).threads.closer = .flagged ∧
    (first.after net past).threads.receiver.isInRound = true

theorem ClosedInRound.snoc (h : first.ClosedInRound net history) (happening : Happening) :
    first.ClosedInRound net (history ++ [happening]) := by
  obtain ⟨past, rest, rfl, hcloser, hround⟩ := h
  exact ⟨past, rest ++ [happening], by simp, hcloser, hround⟩

/-- What is decided about a frame loses it only when it is to be rung for and the doorbell is
closed. -/
theorem verdict?_silenced (m : Threads σ) :
    (verdict? m).toList.filterMap ReadFate.silenced? = [] ∨
      ∃ delivery, m.receiver = .ring delivery ∧ m.card.doorbell.isClosed = true ∧
        (verdict? m).toList.filterMap ReadFate.silenced? = [delivery] := by
  unfold verdict?
  split
  · split <;> exact .inl rfl
  · rename_i delivery hm
    cases hclosed : m.card.doorbell.isClosed with
    | true => exact .inr ⟨delivery, hm, rfl, rfl⟩
    | false => exact .inl rfl
  · exact .inl rfl

/-- Nothing else loses a frame. -/
theorem lost_next (w : Watched σ) (happening : Happening) :
    (w.next net happening).lost = w.lost ∨
      ∃ delivery, w.threads.receiver = .ring delivery ∧
        w.threads.card.doorbell.isClosed = true ∧
        (w.next net happening).lost = w.lost ++ [delivery] := by
  have hmore : ∀ fates, (w.fates ++ fates).filterMap ReadFate.silenced? =
      w.lost ++ fates.filterMap ReadFate.silenced? := fun _ => List.filterMap_append
  cases happening with
  | arrival | aside => exact .inl rfl
  | reception turn =>
    by_cases hwait : w.threads.receiver = .wait
    · simp only [next, receive, hwait]
      exact .inl rfl
    by_cases hread : w.threads.receiver = .read
    · simp only [next, receive, hread, lost]
      refine .inl ((hmore _).trans ?_)
      rcases (turn.read.settle w.waiting).1.found with fault | ⟨d, origin⟩
      · simp only [ReadFate.ofFound?]
        split <;> exact List.append_nil _
      · simp only [ReadFate.ofFound?]
        split <;> exact List.append_nil _
    · have hreceive : (w.next net (.reception turn)).lost =
          w.lost ++ (verdict? w.threads).toList.filterMap ReadFate.silenced? := by
        rw [next, receive_own net turn hwait hread]
        exact hmore _
      rw [hreceive]
      rcases verdict?_silenced w.threads with hnone | ⟨delivery, hm, hclosed, hone⟩
      · exact .inl (by rw [hnone, List.append_nil])
      · exact .inr ⟨delivery, hm, hclosed, by rw [hone]⟩

/-- Who is past the look at whether to stop when the doorbell has been closed was so when it was
closed. -/
theorem closedInRound_next {traffic : Traffic} (hw : (first.after net history).Accounted traffic)
    (happening : Happening)
    (h : (first.after net history).threads.card.doorbell.isClosed = true →
      (first.after net history).threads.receiver.isInRound = true →
        first.ClosedInRound net history)
    (hclosed : (first.after net (history ++ [happening])).threads.card.doorbell.isClosed = true)
    (hround : (first.after net (history ++ [happening])).threads.receiver.isInRound = true) :
    first.ClosedInRound net (history ++ [happening]) := by
  rw [after_snoc, (next_stepOf net _ happening).1] at hclosed hround
  have heffect := stepOf_effect net (first.after net history) happening
  have hcancelled := hw.progress.cancelled_of_closed
  generalize hthreads : (first.after net history).threads = m at h heffect hcancelled
  generalize (first.after net history).stepOf net happening = step at hclosed hround heffect
  obtain ⟨m', marks⟩ := step
  have hsnoc := fun h : first.ClosedInRound net history => h.snoc net happening
  rcases heffect with hsame | ⟨a, ha, heffect⟩
  · cases hsame
    exact hsnoc (h hclosed hround)
  cases heffect with
  | receiver halike hadvance =>
    have hbefore : m.card.doorbell.isClosed = true := by
      rw [← halike.doorbell]
      exact hclosed
    refine hsnoc (h hbefore ?_)
    cases hadvance with
    | goOn _ hc =>
      rw [hcancelled hbefore] at hc
      cases hc
    | ready hm | read hm | sorted hm =>
      rw [hm]
      rfl
    | cancelled | lost | nothing | unread | dropped | refused | announced | released => cases hround
  | rang => cases hround
  | relay halike | missed halike | handed halike | outside halike =>
    refine hsnoc (h ?_ hround)
    rw [← halike.doorbell]
    exact hclosed
  | acknowledged =>
    refine hsnoc (h ?_ hround)
    rw [← Doorbell.acknowledge_isClosed]
    exact hclosed
  | took | flag | stop | join | finish => exact hsnoc (h hclosed hround)
  | silence hm =>
    refine ⟨history, [], ?_, by rw [hthreads]; exact hm, by rw [hthreads]; exact hround⟩
    cases happening with
    | arrival | reception => cases ha
    | aside a _ =>
      cases ha
      rfl

/-- Where the thread is about to ring nothing has been lost: it rings in no round after a loss. -/
theorem Accounted.lost_eq_nil {traffic : Traffic} (h : w.Accounted traffic) {delivery : Delivery}
    (hm : w.threads.receiver = .ring delivery) : w.lost = [] := by
  apply List.filterMap_eq_nil_iff.2
  intro fate hfate
  cases fate with
  | silenced delivery =>
    exact absurd hfate (h.not_silenced (by rw [hm]; simp) (by rw [hm]; simp) delivery)
  | nothing | failed | runt | dropped | delivered => rfl

/-- At most one frame is lost, and only if shutdown closed the doorbell in the middle of a round. -/
theorem lost_after {traffic : Traffic} (hfirst : first.Accounted traffic)
    (hempty : first.lost = []) (hopen : first.threads.card.doorbell.isClosed = false)
    (history : List Happening) :
    ((first.after net history).threads.card.doorbell.isClosed = true →
      (first.after net history).threads.receiver.isInRound = true →
        first.ClosedInRound net history) ∧
      (first.after net history).lost.length ≤ 1 ∧
      ((first.after net history).lost ≠ [] → first.ClosedInRound net history) := by
  induction history using List.reverseRecOn with
  | nil =>
    rw [after, hempty, hopen]
    exact ⟨nofun, Nat.zero_le 1, fun hne => absurd rfl hne⟩
  | append_singleton history happening ih =>
    obtain ⟨hround, hlength, hlost⟩ := ih
    have hw := hfirst.after net history
    refine ⟨closedInRound_next net hw happening hround, ?_⟩
    rw [after_snoc]
    rcases lost_next net (first.after net history) happening with
      hsame | ⟨delivery, hm, hclosed, hone⟩
    · rw [hsame]
      exact ⟨hlength, fun hne => (hlost hne).snoc net happening⟩
    · rw [hone, hw.lost_eq_nil hm]
      refine ⟨Nat.le_refl 1, fun _ => (hround hclosed ?_).snoc net happening⟩
      rw [hm]
      rfl

/-! ## After shutdown -/

/-- Once shutdown has finished nothing moves the counters of link and relay. -/
theorem stepOf_of_finished (hp : Threads.Progress w.threads)
    (hm : w.threads.closer = .finished) (happening : Happening) :
    (w.stepOf net happening).1.card.link.traffic = w.threads.card.link.traffic ∧
      (w.stepOf net happening).1.card.relay = w.threads.card.relay := by
  obtain ⟨hreceiver, hrelay⟩ := Threads.ended_of_finished hp hm
  cases happening with
  | arrival found => exact ⟨rfl, rfl⟩
  | reception turn =>
    simp only [stepOf, hreceiver, Threads.step, Threads.step?, Threads.receiverStep,
      Option.getD_none, and_self]
  | aside a ha =>
    cases a with
    | receiver => cases ha
    | relay =>
      simp only [stepOf, Threads.step, Threads.step?, Threads.relayStep, hrelay, Option.getD_none,
        and_self]
    | closer =>
      simp only [stepOf, Threads.step, Threads.step?, Threads.closerStep, hm, Option.getD_none,
        and_self]
    | guest i =>
      simp only [stepOf, Threads.step, Threads.step?, Threads.guestStep, Option.getD_some]
      cases w.threads.guests i with
      | idle => rcases w.threads.card.doorbell.take with ⟨bell, _ | delivery⟩ <;> exact ⟨rfl, rfl⟩
      | upcall | acknowledge => exact ⟨rfl, rfl⟩
    | outside call =>
      exact ⟨Card.perform_traffic_of_closed (Threads.isOpen_of_finished hp hm) call,
        Card.perform_relay call⟩

theorem stats_of_finished {traffic : Traffic} (hw : w.Accounted traffic)
    (hm : w.threads.closer = .finished) (history : List Happening) :
    (w.after net history).threads.card.link.traffic = w.threads.card.link.traffic ∧
      (w.after net history).threads.card.relay = w.threads.card.relay := by
  induction history generalizing w with
  | nil => exact ⟨rfl, rfl⟩
  | cons happening history ih =>
    obtain ⟨htraffic, hrelay⟩ := stepOf_of_finished net hw.progress hm happening
    have hthreads := (w.next_stepOf net happening).1
    rw [← hthreads] at htraffic hrelay
    have hfinished : (w.next net happening).threads.closer = .finished := by
      rw [hthreads]
      rcases w.stepOf_effect net happening with hsame | ⟨a, -, heffect⟩
      · rw [hsame]
        exact hm
      · exact (Threads.finished_effect hw.progress hm heffect).1
    obtain ⟨htraffic', hrelay'⟩ := ih (hw.next net happening) hfinished
    exact ⟨htraffic'.trans htraffic, hrelay'.trans hrelay⟩

/-! ## The accounts -/

/-- The rings are the deliveries of the books. -/
theorem Accounted.rings_length {traffic : Traffic} (h : w.Accounted traffic) :
    (rings w.trace).length = w.fates.countP ReadFate.isDelivered := by
  have hfates : ∀ fates : List ReadFate,
      (rings (fates.flatMap ReadFate.signals)).length = fates.countP ReadFate.isDelivered := by
    intro fates
    induction fates with
    | nil => rfl
    | cons fate fates ih =>
      rw [List.flatMap_cons, rings_append, List.length_append, ih, List.countP_cons, Nat.add_comm]
      cases fate <;> rfl
  have hdue : rings w.threads.receiver.due = [] := by
    cases w.threads.receiver <;> rfl
  rw [← hfates, ← h.signals, rings_append, hdue, List.append_nil, rings_signals]

/-- The accounts of receiving, for every history of a card on a fresh link, in which the host answers
as it likes. Whenever no frame is in hand and no service under way, link, card and guest agree about
what became of the received frames, except for frames that were lost; at most one ever is, and that
only when shutdown closed the doorbell while the reception thread was in the middle of a round, with
the frame that it read in that round. No counter ever goes back. Shutdown moves none of a card whose
own threads move none by themselves. And when shutdown has finished, the counters of link and relay
stand still; those of the relay are there exactly if there was one. -/
theorem receptions_accounted (port : Port) (relay : Option (Relay σ)) (layout : ReceiveLayout)
    (history : List Happening) :
    let first : Watched σ := start (.ofLink (.ofPort port) relay layout)
    let w := first.after net history
    let c := w.threads.card
    (w.threads.IsAtRest →
      c.link.traffic.rxFrames =
          c.counters.rxDropped + c.counters.interruptsRaised + w.lost.length ∧
        c.counters.interruptsRaised =
          c.counters.interruptsServiced + (if c.doorbell.isPending then 1 else 0) ∧
        c.counters.rxPackets = c.counters.interruptsServiced ∧
        c.counters.interruptsServiced =
          (w.trace.flatMap (Mark.events layout)).countP CardEvent.isUpcall ∧
        w.trace.countP Mark.isService =
          c.counters.interruptsServiced + c.counters.interruptsSpurious) ∧
      w.lost.length ≤ 1 ∧ (w.lost ≠ [] → first.ClosedInRound net history) ∧
      (∀ later, c.stats ≤ (w.after net later).threads.card.stats) ∧
      (w.threads.closer = .running → Threads.IsSettled net Card.stats w.threads →
        ∀ as, (∀ a ∈ as, a.isInternal = true ∨ a.isCloser = true) →
          (w.threads.after net as).card.stats = c.stats) ∧
      (w.threads.closer = .finished → ∀ later,
        (w.after net later).threads.card.stats.link = c.stats.link ∧
          (w.after net later).threads.card.stats.relay = c.stats.relay) ∧
      c.stats.relay.isSome = relay.isSome := by
  intro first w c
  have hbooks : w.Accounted {} := (accounted_start (.ofPort port) relay layout).after net history
  have hserved : w.Served := Served.after net ⟨rfl, rfl, rfl⟩ history
  have hhandOver : Threads.HandOver w.threads w.trace :=
    handOver_after net (Threads.handOver_start (.ofPort port) relay layout) history
  obtain ⟨-, hlength, hlost⟩ := lost_after net
    (accounted_start (.ofPort port) relay layout) rfl rfl history
  refine ⟨?_, hlength, hlost, w.stats_le net, ?_, ?_, ?_⟩
  · rintro ⟨hrank, hidle⟩
    obtain ⟨hpoint, hdue⟩ := ReceiverPoint.isSettled_of_rank hrank
    obtain ⟨htakes, hrings⟩ := hhandOver.phase.rings_of_idle hidle
    have hraised := hbooks.raised
    rw [hdue, List.length_nil, Nat.add_zero, ← hbooks.rings_length] at hraised
    have hframes : c.link.traffic.rxFrames =
        0 + w.fates.countP ReadFate.isDropped + w.fates.countP ReadFate.isDelivered +
          w.lost.length :=
      (congrArg Traffic.rxFrames hbooks.traffic).trans
        (ReadFate.counting_fates (hbooks.inHand.settled hpoint) {}).2
    refine ⟨?_, ?_, ?_, ?_, ?_⟩
    · rw [hframes, ← hbooks.dropped, ← hbooks.rings_length, ← hraised, Nat.zero_add]
    · rw [hraised, hrings, hserved.serviced]
    · rw [hserved.packets, hserved.serviced]
    · rw [hserved.serviced, countP_upcalls]
    · rw [hserved.serviced, hserved.spurious, countP_isService, htakes]
  · intro hm hsettled as has
    exact Threads.stats_shutdown_of_isSettled net hbooks.progress hm hsettled has
  · intro hm later
    obtain ⟨htraffic, hrelay⟩ := stats_of_finished net hbooks hm later
    exact ⟨htraffic, congrArg (Option.map Relay.counters) hrelay⟩
  · rw [RelayCounters.isSome_of_rel (first.stats_le net history).2.2]
    exact Option.isSome_map

end Watched

/-! ## A frame that is lost -/

namespace Threads

/-- A frame has been read and sorted when shutdown closes the doorbell. It is lost, and when shutdown
has finished nothing but the link has counted it. -/
theorem frame_lost_to_shutdown :
    let frame : Bytes := List.replicate 12 0 ++ [8, 0]
    let m := (start (Card.onQueues .sheepNet 1 1 ⟨0, 0, 0⟩ : Card EchoStack)).after EchoStack.net
      [.outside (.attach 0x800 ⟨0x4000⟩), .outside (.arrive (.v4 ⟨0, 0, 0, 0⟩ 0) frame),
        .receiver, .receiver, .receiver, .receiver, .closer, .closer, .receiver, .receiver,
        .closer, .closer, .closer]
    (m.closer = .finished ∧ m.IsAtRest ∧ IsSettled EchoStack.net Card.stats m) ∧
      m.card.link.traffic.rxFrames = 1 ∧ m.card.counters.rxDropped = 0 ∧
      m.card.counters.interruptsRaised = 0 := by
  intro frame m
  have hprogress : Progress m := (progress_start _ _ _).after EchoStack.net _
  have hfinished : m.closer = .finished := by decide +kernel
  have hpending : m.card.doorbell.isPending = false := by decide +kernel
  have hhandOver : HandOver m _ := handOver_after EchoStack.net _ _ _ _
  have hguests : ∀ i, m.guests i = .idle := (hhandOver.phase.settled hpending).2.1
  have hcounted : m.card.link.traffic.rxFrames = 1 ∧ m.card.counters.rxDropped = 0 ∧
      m.card.counters.interruptsRaised = 0 := by decide +kernel
  have hrank : m.receiver.rank = 0 := by
    rw [(ended_of_finished hprogress hfinished).1]
    rfl
  refine ⟨⟨hfinished, ⟨hrank, hguests⟩, ?_⟩, hcounted⟩
  intro as has
  rw [after_of_finished hprogress hfinished has]

end Threads
end GuestNic
