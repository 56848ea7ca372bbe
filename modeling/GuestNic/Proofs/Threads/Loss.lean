import GuestNic.Nat.Echo
import GuestNic.Proofs.Threads.Healthy
import GuestNic.Proofs.Threads.ReadFates

/-!
# The loss of the port

When a wait of the reception thread fails, reception is over for good: the user is alerted once, and
from then on nothing is read, rung for or announced, whatever the host answers. By then everything
that waited has been read, if the host tells of input while there is some.
-/

namespace GuestNic

variable {σ : Type}

/-! ## What the onlooker sees -/

namespace Mark

def alert? : Mark → Option String
  | .alerted text => some text
  | _ => none

/-- The texts that the user is alerted to. -/
def alerts (t : List Mark) : List String := t.filterMap alert?

theorem alerts_append (s t : List Mark) : alerts (s ++ t) = alerts s ++ alerts t :=
  List.filterMap_append

theorem alerts_eq_nil {t : List Mark} (h : ∀ text, .alerted text ∉ t) : alerts t = [] := by
  apply List.filterMap_eq_nil_iff.2
  intro x hx
  cases x with
  | alerted text => exact absurd hx (h text)
  | _ => rfl

theorem alerts_of_aside {t : List Mark} (h : ∀ x ∈ t, x.isReception = false) : alerts t = [] :=
  alerts_eq_nil fun _ hmem => by cases h _ hmem

end Mark

namespace Watched

variable (net : NetStack σ) {w before : Watched σ} {turn : HostTurn} {fault : Host.Fault}

/-- No wait has failed so far. -/
structure Healthy (w : Watched σ) : Prop where
  threads : w.threads.Healthy
  alerts : Mark.alerts w.trace = []
  polls : ∀ poll ∈ w.polls, ∀ fault, ¬ WaitFails poll fault

/-- The next turn of the reception thread is the first wait that fails. -/
structure Loses (w : Watched σ) (turn : HostTurn) (fault : Host.Fault) : Prop where
  healthy : w.Healthy
  waits : w.threads.receiver = .wait
  fails : WaitFails turn.poll fault

namespace Healthy

theorem start (link : Link) (relay : Option (Relay σ)) (layout : ReceiveLayout) :
    (start (.ofLink link relay layout)).Healthy :=
  ⟨.start link relay layout, rfl, nofun⟩

theorem receive (h : w.Healthy) (hfails : ∀ fault, ¬ w.Loses turn fault) :
    (w.receive net turn).Healthy := by
  -- Only a wait can fail, so each other point goes on whatever the host says.
  by_cases hwait : w.threads.receiver = .wait
  · cases hpoll : Port.polled turn.poll with
    | error fault =>
      exact absurd ⟨h, hwait, Port.polled_eq_error_iff.1 hpoll⟩ (hfails fault)
    | ok isReady =>
      obtain ⟨hthreads, hmarks⟩ := h.threads.waitOn turn.port hpoll
      simp only [Watched.receive, hwait]
      refine ⟨hthreads, ?_, ?_⟩
      · show Mark.alerts (w.trace ++ _) = []
        rw [hmarks, List.append_nil, h.alerts]
      · intro poll hmem
        rcases List.mem_append.1 hmem with hmem | hmem
        · exact h.polls poll hmem
        · intro fault hfails
          rw [List.mem_singleton.1 hmem, ← Port.polled_eq_error_iff, hpoll] at hfails
          cases hfails
  by_cases hread : w.threads.receiver = .read
  · simp only [Watched.receive, hread]
    obtain ⟨hthreads, hmarks⟩ :=
      h.threads.readOn turn.port (turn.read.settle w.waiting).1.found
    refine ⟨hthreads, ?_, h.polls⟩
    show Mark.alerts (w.trace ++ _) = []
    rw [hmarks, Mark.alerts_append, h.alerts]
    rfl
  · rw [receive_own net turn hwait hread]
    obtain ⟨hthreads, hmarks⟩ := h.threads.ownStep net hwait hread
    refine ⟨hthreads, ?_, h.polls⟩
    show Mark.alerts (w.trace ++ _) = []
    rw [Mark.alerts_append, h.alerts, Mark.alerts_eq_nil fun _ hmem => by cases hmarks _ hmem]
    rfl

/-- Whatever else happens, reception stays healthy. -/
theorem next (h : w.Healthy) (happening : Happening) :
    (w.next net happening).Healthy ∨
      ∃ turn fault, happening = .reception turn ∧ w.Loses turn fault := by
  cases happening with
  | arrival found => exact .inl ⟨h.threads, h.alerts, h.polls⟩
  | aside a ha =>
    have haside := Threads.step_aside net w.threads ha
    refine .inl ⟨h.threads.aside haside, ?_, h.polls⟩
    show Mark.alerts (w.trace ++ _) = []
    rw [Mark.alerts_append, h.alerts, Mark.alerts_of_aside haside.marks]
    rfl
  | reception turn =>
    by_cases hfails : ∀ fault, ¬ w.Loses turn fault
    · exact .inl (h.receive net hfails)
    · simp only [not_forall, not_not] at hfails
      obtain ⟨fault, hloses⟩ := hfails
      exact .inr ⟨turn, fault, rfl, hloses⟩

/-- A history has no wait that fails, or it has a first one. -/
theorem after (h : w.Healthy) (history : List Happening) :
    (w.after net history).Healthy ∨
      ∃ past turn fault rest, history = past ++ .reception turn :: rest ∧
        (w.after net past).Loses turn fault := by
  induction history generalizing w with
  | nil => exact .inl h
  | cons happening history ih =>
    rcases h.next net happening with hnext | ⟨turn, fault, rfl, hloses⟩
    · rcases ih hnext with hhealthy | ⟨past, turn, fault, rest, rfl, hloses⟩
      · exact .inl hhealthy
      · exact .inr ⟨happening :: past, turn, fault, rest, rfl, hloses⟩
    · exact .inr ⟨[], turn, fault, history, rfl, hloses⟩

end Healthy

/-! ## After the loss -/

/-- What is seen from the loss on: no more of reception than was seen before it, and one alert. -/
structure LostSince (before : Watched σ) (turn : HostTurn) (fault : Host.Fault) (w : Watched σ) :
    Prop where
  receiver : w.threads.receiver = .ended
  failed : w.threads.card.counters.rxFailed = true
  receiving : w.threads.card.isReceiving = false
  polls : w.polls = before.polls ++ [turn.poll]
  reads : w.reads = before.reads
  fates : w.fates = before.fates
  dropped : w.threads.card.counters.rxDropped = before.threads.card.counters.rxDropped
  raised :
    w.threads.card.counters.interruptsRaised = before.threads.card.counters.interruptsRaised
  traffic :
    w.threads.card.link.traffic.receiving = before.threads.card.link.traffic.receiving
  trace : ∃ marks, w.trace = before.trace ++ .alerted (Card.receptionLost fault) :: marks ∧
    ∀ x ∈ marks, x.isReception = false

theorem Loses.next_eq (h : before.Loses turn fault) :
    before.next net (.reception turn) =
      { before with
        threads := (before.threads.onPort turn.port).lost
        trace := before.trace ++ [.alerted (Card.receptionLost fault)]
        polls := before.polls ++ [turn.poll] } := by
  have hpolled : Port.polled turn.poll = .error fault := Port.polled_eq_error_iff.2 h.fails
  simp only [next, receive, h.waits, Threads.waitOn, hpolled, note]

theorem Loses.lostSince (h : before.Loses turn fault) :
    LostSince before turn fault (before.next net (.reception turn)) := by
  rw [h.next_eq net]
  exact ⟨rfl, rfl, rfl, rfl, rfl, rfl, rfl, rfl, rfl, [], rfl, by simp⟩

namespace LostSince

/-- Nothing that can happen adds to what has been seen of reception. -/
theorem next (h : LostSince before turn fault w) (happening : Happening) :
    LostSince before turn fault (w.next net happening) := by
  cases happening with
  | arrival found =>
    exact ⟨h.receiver, h.failed, h.receiving, h.polls, h.reads, h.fates, h.dropped, h.raised,
      h.traffic, h.trace⟩
  | reception turn' =>
    show LostSince before turn fault (w.receive net turn')
    rw [receive_of_ended net turn' h.receiver]
    exact h
  | aside a ha =>
    have haside := Threads.step_aside net w.threads ha
    obtain ⟨marks, htrace, hmarks⟩ := h.trace
    refine ⟨haside.receiver.trans h.receiver, haside.card.failed.trans h.failed, ?_, h.polls,
      h.reads, h.fates, haside.card.dropped.trans h.dropped, haside.card.raised.trans h.raised,
      haside.card.traffic.trans h.traffic, marks ++ (w.threads.step net a).2, ?_, ?_⟩
    · rcases haside.card.receiving with ⟨hreceiving, -⟩ | ⟨hreceiving, -⟩
      · exact hreceiving.trans h.receiving
      · exact hreceiving
    · show w.trace ++ _ = _
      rw [htrace, List.append_assoc, List.cons_append]
    · intro x hx
      rcases List.mem_append.1 hx with hx | hx
      · exact hmarks x hx
      · exact haside.marks x hx

theorem after (h : LostSince before turn fault w) (rest : List Happening) :
    LostSince before turn fault (w.after net rest) := by
  induction rest generalizing w with
  | nil => exact h
  | cons happening rest ih => exact ih (h.next net happening)

theorem alerts (h : LostSince before turn fault w) (hbefore : Mark.alerts before.trace = []) :
    Mark.alerts w.trace = [Card.receptionLost fault] := by
  obtain ⟨marks, htrace, hmarks⟩ := h.trace
  rw [htrace, ← List.singleton_append, Mark.alerts_append, Mark.alerts_append, hbefore,
    Mark.alerts_of_aside hmarks]
  rfl

end LostSince

/-! ## What has been read by then -/

/-- All that has arrived has been read, and whatever was read found nothing, failed, was counted as
a runt, or was dropped or delivered behind an interrupt of its own. -/
structure ReadOut (traffic : Traffic) (w : Watched σ) : Prop where
  waiting : w.waiting = []
  arrived : ∃ fates, List.Forall₂ ReadFate.Of w.arrived fates ∧ fates.Sublist w.fates
  fates : List.Forall₂ ReadFate.Of (w.reads.map ReadRecord.found) w.fates
  not_silenced : ∀ delivery, .silenced delivery ∉ w.fates
  signals : Mark.signals w.trace = w.fates.flatMap ReadFate.signals
  raised : w.threads.card.counters.interruptsRaised = w.fates.countP ReadFate.isDelivered
  dropped : w.threads.card.counters.rxDropped = w.fates.countP ReadFate.isDropped
  runts : w.threads.card.link.traffic.rxRunts = traffic.rxRunts + w.fates.countP ReadFate.isRunt

/-- At a wait the books are closed. -/
theorem Accounted.readOut {traffic : Traffic} (h : w.Accounted traffic)
    (hwaits : w.threads.receiver = .wait) (hwaiting : w.waiting = []) : w.ReadOut traffic := by
  have hfates := h.inHand.settled (by rw [hwaits]; rfl)
  have hraised := h.raised
  have hsignals := h.signals
  have htraffic := congrArg Traffic.rxRunts h.traffic
  rw [hwaits] at hraised hsignals
  refine ⟨hwaiting, ?_, hfates, h.not_silenced (by rw [hwaits]; simp) (by rw [hwaits]; simp),
    (List.append_nil _).symm.trans hsignals, hraised, h.dropped, ?_⟩
  · rw [h.arrived, hwaiting, List.append_nil]
    exact ReadFate.exists_of_waited hfates
  · exact htraffic.trans ((ReadFate.counting_fates hfates traffic).1)

/-- The poll reports input, or was interrupted. -/
def ReportsInput : Except Host.Fault Host.PollEvents → Prop
  | .ok events => events.input = true
  | .error fault => fault = .os .interrupted

/-- Should this be a wait while something waits to be read, the host reports it. -/
def ToldOf (w : Watched σ) : Happening → Prop
  | .reception turn =>
    w.threads.receiver = .wait → w.waiting ≠ [] → ReportsInput turn.poll
  | _ => True

/-- At every wait the host reports input if something waits to be read. -/
def ToldAlways : Watched σ → List Happening → Prop
  | _, [] => True
  | w, h :: hs => w.ToldOf h ∧ ToldAlways (w.next net h) hs

theorem ToldAlways.split {past rest : List Happening} {happening : Happening}
    (h : w.ToldAlways net (past ++ happening :: rest)) :
    (w.after net past).ToldOf happening := by
  induction past generalizing w with
  | nil => exact h.1
  | cons _ past ih => exact ih h.2

/-- Where the host reports what waits, a wait fails only when nothing waits. -/
theorem Loses.waiting_eq_nil (h : w.Loses turn fault) (htold : w.ToldOf (.reception turn)) :
    w.waiting = [] := by
  by_contra hwaiting
  have hreports : ReportsInput turn.poll := htold h.waits hwaiting
  have hfails := h.fails
  generalize turn.poll = poll at hreports hfails
  cases hfails with
  | poll hfault => exact hfault hreports
  | trouble hinput =>
    rw [hreports] at hinput
    cases hinput

end Watched

/-! ## All histories -/

namespace Watched

variable (net : NetStack σ)

/-- Reception ends with the first wait that fails, and with no read. Take any history of a card, in
which the host answers polls and reads as it likes, except that it reports input, with or without
other events, while something waits to be read. Either no wait has failed, and then the card does
not tell of a loss, nobody was alerted, and reception has not ended but on request. Or there is a
first wait that failed. Then all that had arrived had been read, and whatever was read had been
delivered behind an interrupt of its own, dropped or counted as a runt, unless the read failed or
found nothing. The wait ends reception, the loss is marked and the user alerted to it, once; and
whatever happens afterwards, nothing is read or announced and the mark and all that reception counts
stay. For everybody else the card works like one whose wait had found nothing instead. -/
theorem reception_ends_at_failed_wait (link : Link) (relay : Option (Relay σ))
    (layout : ReceiveLayout) (history : List Happening)
    (htold : (start (.ofLink link relay layout)).ToldAlways net history) :
    let first : Watched σ := start (.ofLink link relay layout)
    let w := first.after net history
    w.Healthy ∨
      ∃ past turn fault rest, history = past ++ .reception turn :: rest ∧
        let before := first.after net past
        before.Loses turn fault ∧ before.ReadOut link.traffic ∧
          LostSince before turn fault w ∧
          Mark.alerts w.trace = [Card.receptionLost fault] ∧
          (before.next net (.reception turn)).threads.mended =
            (before.threads.waitOn turn.port (.ok {})).1 ∧
          Threads.WorksLike net w.threads w.threads.mended := by
  intro first w
  have hbooks : ∀ past, (first.after net past).Accounted link.traffic := fun past =>
    (accounted_start link relay layout).after net past
  rcases (Healthy.start link relay layout).after net history with
    hhealthy | ⟨past, turn, fault, rest, hhistory, hloses⟩
  · exact .inl hhealthy
  · refine .inr ⟨past, turn, fault, rest, hhistory, ?_⟩
    intro before
    have hlost : LostSince before turn fault w := by
      show LostSince before turn fault (first.after net history)
      rw [hhistory, after_append]
      exact (hloses.lostSince net).after net rest
    have hwaiting : before.waiting = [] := by
      rw [hhistory] at htold
      exact hloses.waiting_eq_nil htold.split
    -- These threads are the lost ones of others that are healthy, and so work like them.
    have hsame : w.threads.mended.lost = w.threads :=
      Threads.lost_mended hlost.receiver hlost.failed hlost.receiving
    have hworks := Threads.worksLike_lost net w.threads.mended_healthy
      (by rw [hsame]; exact (hbooks history).progress)
    rw [hsame] at hworks
    refine ⟨hloses, (hbooks past).readOut hloses.waits hwaiting, hlost,
      hlost.alerts hloses.healthy.alerts, ?_, hworks⟩
    rw [hloses.next_eq net]
    exact Threads.mended_lost (hloses.healthy.threads.onPort turn.port)

/-- A frame that waits behind a hang-up is read, and dropped for want of a handler; the hang-up
alone ends reception. -/
theorem reception_ends_at_hang_up :
    let port : Port := .raw .ethertap .hungUp
    let frame : Bytes := List.replicate 12 0 ++ [8, 0]
    let ready : HostTurn := ⟨port, .ok { input := true, hangup := true }, .oldest⟩
    let hungUp : HostTurn := ⟨port, .ok { hangup := true }, .oldest⟩
    let past : List Happening :=
      .arrival (.ok (frame, .device)) :: List.replicate 5 (.reception ready)
    let rest : List Happening :=
      [.aside (.outside (.attach 0x800 ⟨1⟩)) rfl, .reception ready]
    let first : Watched EchoStack := start (.ofLink (.ofPort port) none ⟨0, 0, 0⟩)
    let w := first.after EchoStack.net (past ++ .reception hungUp :: rest)
    w.threads.card.counters.rxFailed = true ∧ w.threads.card.counters.rxDropped = 1 ∧
      ∃ before turn fault, before.Loses turn fault ∧ before.ReadOut {} ∧
        LostSince before turn fault w ∧ Mark.alerts w.trace = [Card.receptionLost fault] := by
  intro port frame ready hungUp past rest first w
  have hready : ∀ w : Watched EchoStack, w.ToldOf (.reception ready) := fun _ _ _ => rfl
  have hwaiting : (first.after EchoStack.net past).waiting.isEmpty = true := by decide +kernel
  have htold : first.ToldAlways EchoStack.net (past ++ .reception hungUp :: rest) :=
    ⟨trivial, hready _, hready _, hready _, hready _, hready _,
      fun _ hne => absurd (List.isEmpty_iff.1 hwaiting) hne, trivial, hready _, trivial⟩
  have hfailed : w.threads.card.counters.rxFailed = true := by decide +kernel
  have hdropped : w.threads.card.counters.rxDropped = 1 := by decide +kernel
  have hends : w.Healthy ∨ ∃ before turn fault, before.Loses turn fault ∧ before.ReadOut {} ∧
      LostSince before turn fault w ∧ Mark.alerts w.trace = [Card.receptionLost fault] := by
    rcases reception_ends_at_failed_wait EchoStack.net (.ofPort port) none ⟨0, 0, 0⟩
        (past ++ .reception hungUp :: rest) htold with
      hhealthy | ⟨_, turn, fault, _, -, hloses, hreadOut, hlost, halerts, -⟩
    · exact .inl hhealthy
    · exact .inr ⟨_, turn, fault, hloses, hreadOut, hlost, halerts⟩
  -- What the card comes to has been computed; the theorem is about any card that does.
  clear_value w
  rcases hends with hhealthy | hlost
  · rw [hhealthy.threads.failed] at hfailed
    cases hfailed
  · exact ⟨hfailed, hdropped, hlost⟩

end Watched
end GuestNic
