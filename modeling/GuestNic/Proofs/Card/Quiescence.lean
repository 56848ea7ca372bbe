import GuestNic.Card.Open
import GuestNic.Proofs.Card.Delivery

/-!
# A card on a raw device, settled after every move

The datagrams that arrived are those that were read and those that still wait, in one row. When
everything has settled, either nothing waits or a ring is outstanding and everything behind its
frame waits.
-/

namespace GuestNic.Card

variable {σ : Type} (net : NetStack σ) {c : Card σ}

/-! ## Arrivals -/

/-- Without a relay, what waited and what arrives is what is read and what waits then. -/
theorem move_queue (h : c.IsServing) (hr : c.relay = none) (m : Move) :
    c.queue ++ c.arrived m =
      (readNow net c m).map Reading.datagram ++ (c.move net m).1.queue := by
  rw [readNow_datagrams]
  cases m with
  | call call =>
    have hqueue := (perform_prolongs h.isQueue call).queue
    rw [move, hqueue, departed_append, List.nil_append]
  | service =>
    have hqueue : (c.move net .service).1.queue = c.queue := service_queue c
    rw [hqueue, departed_self]
    exact List.append_nil _
  | relay =>
    have hround : (c.move net .relay).1 = c := relayRound_of_none net hr
    rw [hround, departed_self]
    exact List.append_nil _
  | receive =>
    have harrived : c.arrived .receive = [] := rfl
    rw [harrived, List.append_nil]
    exact (receive_departed h).symm

theorem after_relay_of_none (h : c.IsServing) (hr : c.relay = none) (moves : List Move) :
    (c.after net moves).relay = none := by
  induction moves using history_induction with
  | start => exact hr
  | step ms m ih =>
    rw [after_snoc]
    cases m with
    | call call => exact (perform_relay call).trans ih
    | service => exact (service_relay _).trans ih
    | relay => exact (congrArg relay (relayRound_of_none net ih)).trans ih
    | receive => exact (receive_relay (after_isServing net h ms)).trans ih

/-- Without a relay, the datagrams that arrived are those that were read and then those that
wait. -/
theorem arrivals_eq (h : c.IsServing) (hr : c.relay = none) (moves : List Move) :
    c.queue ++ c.arrivals net moves =
      (c.readings net moves).map Reading.datagram ++ (c.after net moves).queue := by
  induction moves using history_induction with
  | start => exact List.append_nil _
  | step ms m ih =>
    have hmove := move_queue net (after_isServing net h ms) (after_relay_of_none net h hr ms) m
    rw [arrivals_snoc, readings_snoc, after_snoc, List.map_append, ← List.append_assoc, ih,
      List.append_assoc, hmove, List.append_assoc]

/-! ## Quiescence -/

theorem after_receive_of_eq (h : c.receive = (c, [])) (n : Nat) :
    c.after net (List.replicate n .receive) = c := by
  induction n with
  | zero => rfl
  | succ n ih =>
    rw [List.replicate_succ, after, move, h]
    exact ih

/-- After as many rounds of reception as datagrams wait, a ring is outstanding or nothing waits. -/
theorem after_receive (h : c.IsServing) {n : Nat} (hn : c.queue.length ≤ n) :
    (c.after net (List.replicate n .receive)).doorbell.isPending = true ∨
      (c.after net (List.replicate n .receive)).queue = [] := by
  induction n generalizing c with
  | zero => exact .inr (List.eq_nil_of_length_eq_zero (Nat.le_zero.1 hn))
  | succ n ih =>
    -- A round that changes nothing is repeated without effect; any other shortens the queue.
    rcases receive_queue h with ⟨hsame, hdone⟩ | ⟨d, hqueue⟩
    · rw [after_receive_of_eq net hsame]
      exact hdone
    · have hlen : c.receive.1.queue.length ≤ n := by
        rw [hqueue, List.length_cons] at hn
        omega
      exact ih (receive_balanced h).isServing hlen

/-- When everything has settled, a ring is outstanding or nothing waits. -/
theorem after_settling (h : c.IsServing) :
    (c.after net (c.settling net)).doorbell.isPending = true ∨
      (c.after net (c.settling net)).queue = [] := by
  have hrelayed := after_isServing net h (List.replicate c.relayRounds .relay)
  rw [settling, after_append]
  apply after_receive net hrelayed
  rw [Port.backlog_eq hrelayed.isQueue]
  exact Nat.le_succ _

theorem settled_snoc (c : Card σ) (ms : List Move) (m : Move) :
    c.settled net (ms ++ [m]) = c.settled net ms ++
      (m :: ((c.after net (c.settled net ms)).move net m).1.settling net) := by
  induction ms generalizing c with
  | nil => simp [settled]
  | cons m' ms ih =>
    rw [List.cons_append, settled, settled, ih, after_append, List.append_assoc]

/-- A card whose history lets everything settle after each move either has a ring outstanding or
nothing that waits. -/
theorem after_settled_queue (h : c.IsServing) (hq : c.queue = []) (moves : List Move) :
    (c.after net (c.settled net moves)).doorbell.isPending = true ∨
      (c.after net (c.settled net moves)).queue = [] := by
  induction moves using history_induction with
  | start => exact .inr hq
  | step ms m _ =>
    rw [settled_snoc, after_append]
    have hserving := after_isServing net h (c.settled net ms)
    exact after_settling net (move_balanced net hserving m).isServing

/-! ## The raw device -/

/-- A fresh card on a raw device between two empty datagram queues of the given capacities. -/
def onQueues (driver : RawDriver) (incoming outgoing : Nat) (layout : ReceiveLayout) : Card σ :=
  (start (.ofPort (.raw driver (.socket (.ofCapacity incoming) (.ofCapacity outgoing))))
    layout).result

theorem isServing_onQueues (driver : RawDriver) (incoming outgoing : Nat)
    (layout : ReceiveLayout) : (onQueues driver incoming outgoing layout : Card σ).IsServing :=
  isServing_ofLink (.raw (Host.Channel.isLive_ofCapacity _) (Host.Channel.isLive_ofCapacity _))
    none layout

/-- The whole contract of reception. Make any moves, and let everything settle after each of them.
Then the datagrams that arrived are those that were read and those that wait, in this order; the
handlers entered so far and the outstanding invocation are what the frames that were read ask for,
each by the handlers of the moment; at most one is outstanding, which was read last, and unless one
is, nothing waits. -/
theorem reception_faithful (driver : RawDriver) (incoming outgoing : Nat) (layout : ReceiveLayout)
    (moves : List Move) :
    let fresh : Card σ := onQueues driver incoming outgoing layout
    let history := fresh.settled net moves
    let c := fresh.after net history
    let readings := fresh.readings net history
    c = moves.foldl (fun c m => (c.act net m).1) fresh ∧
      fresh.arrivals net history = readings.map Reading.datagram ++ c.queue ∧
      fresh.invocations net history ++ c.outstanding =
        readings.filterMap Reading.invocation? ∧
      fresh.interrupts net history =
        (fresh.invocations net history).length + c.outstanding.length ∧
      (if c.doorbell.isPending then
        ∃ before last i, readings = before ++ [last] ∧ last.invocation? = some i ∧
          c.outstanding = [i]
      else c.outstanding = [] ∧ c.queue = []) := by
  intro fresh history c readings
  have hserving : fresh.IsServing := isServing_onQueues driver incoming outgoing layout
  have hc : c.IsServing := after_isServing net hserving history
  refine ⟨after_settled net fresh moves, ?_, ?_, ?_, ?_⟩
  · exact arrivals_eq net hserving rfl history
  · exact invocations_append_outstanding net hserving rfl history
  · exact interrupts_eq net hserving rfl history
  · rcases hc.rung_or_quiet with ⟨hp, _, hout⟩ | ⟨d, i, hp, _, _, hout⟩
    · rw [hp]
      refine ⟨hout, ?_⟩
      rcases after_settled_queue net hserving rfl moves with hpending | hqueue
      · exact absurd (hp.symm.trans hpending) (by simp)
      · exact hqueue
    · rw [hp]
      have hne : c.outstanding ≠ [] := by simp [hout]
      obtain ⟨before, last, hread, hlast⟩ := outstanding_latest net hserving rfl history hne
      refine ⟨before, last, i, hread, ?_, hout⟩
      exact Option.toList_eq_singleton_iff.1 (hlast.trans hout)

end GuestNic.Card
