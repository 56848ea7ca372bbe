import GuestNic.Proofs.Nat.Conservation
import GuestNic.Proofs.Threads.Running
import GuestNic.Proofs.Threads.Refusal
import GuestNic.Proofs.Threads.View
import GuestNic.Card.Open
import GuestNic.Nat.Echo

/-!
# Nothing is lost while the threads of a card run

Until somebody begins to shut a card in NAT mode down, each step of its threads, of its guest and of
its driver keeps the accounts of the two queues between the card and the stack right, whatever the
stack is and whatever it emits. What the stack is handed is read off a journal that it does not
notice.
-/

namespace GuestNic

open StackCall

variable {σ : Type}

/-! ## Cards that have been started -/

/-- A card that is started in NAT mode can be started with a journal as well, and for all that is
seen of it without the journal it is the same card. -/
theorem Card.startNat_journaled {net : NetStack σ} {link : Link} {layout : ReceiveLayout}
    {stack : σ} {rules : List Forwarding.Rule} {card : Card σ}
    (h : (Card.startNat net link layout stack rules).result = .ok card) :
    ∃ relay : Relay (σ × List StackCall), relay.stack.2 = [] ∧ relay.inputOpen = true ∧
      relay.counters = {} ∧
      (Card.startNat net.journaled link layout (stack, []) rules).result =
        .ok (.ofLink link (some relay) layout) ∧
      (Card.ofLink link (some relay) layout).mapStack Prod.fst = card := by
  have hrelay := Relay.start_journaled net stack [] rules
  cases hstart : Relay.start net stack rules with
  | error fault =>
    simp only [Card.startNat_all, hstart] at h
    cases h
  | ok started =>
    rw [hstart] at hrelay
    simp only [Card.startNat_all, hstart] at h
    cases h
    have hfresh : started.1.inputOpen = true ∧ started.1.counters = {} := by
      unfold Relay.start at hstart
      split at hstart
      · cases hstart
      · cases hstart
        exact ⟨rfl, rfl⟩
    refine ⟨{ started.1 with stack := (started.1.stack, []) }, rfl, hfresh.1, hfresh.2, ?_, rfl⟩
    simp only [Card.startNat_all, hrelay, Except.map]

namespace Threads

/-! ## What is accepted -/

/-- The frame that is sent and accepted in one step. -/
def acceptedNow (m : Threads σ) : Actor → List Bytes
  | .outside call => m.card.acceptedNow (.call call)
  | _ => []

/-- The frames that were sent and accepted in a schedule, in order. -/
def accepted (net : NetStack σ) : Threads σ → List Actor → List Bytes
  | _, [] => []
  | m, a :: as => m.acceptedNow a ++ accepted net (m.step net a).1 as

variable (net : NetStack σ)

theorem accepted_snoc (m : Threads σ) (as : List Actor) (a : Actor) :
    m.accepted net (as ++ [a]) = m.accepted net as ++ (m.after net as).acceptedNow a := by
  induction as generalizing m with
  | nil => exact List.append_nil _
  | cons b as ih => rw [List.cons_append, accepted, ih, accepted, after, List.append_assoc]

/-- What is accepted does not depend on what sending does not look at. -/
theorem accepted_refit {τ : Type} {net : NetStack σ} {other : NetStack τ} {f : Card.Refit σ τ}
    (hf : Fits net other f) (hhandlers : ∀ table, f.handlers table = table) (m : Threads σ)
    (as : List Actor) : (m.refit f id).accepted other as = m.accepted net as := by
  have hnow : ∀ (m : Threads σ) (a : Actor), (m.refit f id).acceptedNow a = m.acceptedNow a := by
    intro m a
    cases a with
    | outside call =>
      have hcard : (m.refit f id).card = m.card.refit f := rfl
      simp only [acceptedNow, hcard, Card.acceptedNow_eq, Card.sending?_refit hf.toSendsAlike]
    | receiver | relay | guest | closer => rfl
  induction as generalizing m with
  | nil => rfl
  | cons a as ih =>
    have hstep := step_refit (m := m) (a := a) hf (fun _ _ => .inl (hhandlers _)) fun _ => hhandlers
    rw [accepted, accepted, hnow, hstep, ih]

/-! ## Every step keeps the accounts -/

section

variable {m : Threads (σ × List StackCall)} {accepted : List Bytes}

/-- Of all that the reception thread does only to read moves anything between the queues. -/
theorem IsRunning.receiver_balances (h : m.IsRunning) (hb : m.card.Balances accepted) :
    (m.step net.journaled .receiver).1.card.Balances accepted := by
  -- What a read counts is not in the list of what the thread does, so it is looked at by itself.
  by_cases hm : m.receiver = .read
  · refine hb.read net m.card.buffer ?_ ?_
    all_goals
      simp only [Threads.step, step?, receiverStep, hm]
      rcases m.card.link.read m.card.buffer with ⟨link, buffer, fault | _ | origin⟩ <;> rfl
  · obtain ⟨-, hreception⟩ := reception_step net.journaled h
    generalize (m.step net.journaled .receiver).1 = m' at hreception
    cases hreception with
    | goOn _ hlink hrelay => exact hb.of_eq hlink hrelay
    | read hread => exact absurd hread hm

theorem IsRunning.relay_balances (h : m.IsRunning) (hb : m.card.Balances accepted) :
    (m.step net.journaled .relay).1.card.Balances accepted := by
  obtain ⟨-, ⟨-, hstep⟩ | ⟨-, hstep⟩ | ⟨-, hstep⟩⟩ := relay_step net.journaled h
  · rw [hstep]
    exact hb
  · rw [hstep]
    exact hb.takeInput net
  · rw [hstep]
    exact hb.serve net

theorem guest_balances (hb : m.card.Balances accepted) (i : Nat) :
    (m.step net.journaled (.guest i)).1.card.Balances accepted := by
  refine hb.of_eq ?_ ?_
  all_goals
    simp only [step, step?, guestStep, Option.getD_some]
    cases m.guests i with
    | idle => rcases m.card.doorbell.take with ⟨bell, none | delivery⟩ <;> rfl
    | upcall | acknowledge => rfl

theorem IsRunning.step_balances (h : m.IsRunning) (hb : m.card.Balances accepted) {a : Actor}
    (ha : a.isCloser = false) :
    (m.step net.journaled a).1.card.Balances (accepted ++ m.acceptedNow a) := by
  cases a with
  | receiver => exact (List.append_nil accepted).symm ▸ h.receiver_balances net hb
  | relay => exact (List.append_nil accepted).symm ▸ h.relay_balances net hb
  | guest i => exact (List.append_nil accepted).symm ▸ guest_balances net hb i
  | closer => cases ha
  | outside call => exact hb.perform net call

end

/-- As long as shutdown has not begun, the accounts have been right all the time. -/
theorem IsRunning.after_balances {m : Threads (σ × List StackCall)} (h : m.IsRunning)
    (hb : m.card.Balances []) {past : List Actor}
    (hc : (m.after net.journaled past).closer = .running) :
    (m.after net.journaled past).card.Balances (m.accepted net.journaled past) := by
  -- From the end: that shutdown has not begun is known of the last state, and so of all before it.
  induction past using List.reverseRecOn with
  | nil => exact hb
  | append_singleton as a ih =>
    rw [after_snoc] at hc ⊢
    rw [accepted_snoc]
    obtain ⟨hbefore, ha⟩ := closer_of_running net.journaled hc
    exact (h.after net.journaled hbefore).step_balances net (ih hbefore) ha

/-! ## Conservation -/

/-- Conservation in NAT mode, for every stack, all capacities of the two queues and every schedule
until shutdown begins: sends, services, changes of the handler table, and steps of the threads. The
stack can keep a journal that nobody notices, and the frames in it that were handed to the stack are
those whose sends succeeded, in order, but for the last ones, whose records wait in the queue
towards the stack. So the link has sent as many frames as the relay took in and as wait there; no
record was corrupt; and the relay has queued for the guest as many frames as were read, runts among
them, and as wait to be read. A send that is refused for want of room does no more than to be
counted: whatever happens from there on, happens as if it had not been tried. -/
theorem frames_conserved {net : NetStack σ} {towardsStack towardsGuest : Nat}
    {layout : ReceiveLayout} {stack : σ} {rules : List Forwarding.Rule} {card : Card σ}
    (hstart : (Card.startNat net (.natPipe towardsStack towardsGuest) layout stack rules).result =
      .ok card)
    {past : List Actor} (hrunning : ((start card).after net past).closer = .running) :
    let m := (start card).after net past
    (∃ (journaled : Card (σ × List StackCall)) (relay : Relay (σ × List StackCall))
        (pipe : StackPipe) (waiting : List Bytes),
      (Card.startNat net.journaled (.natPipe towardsStack towardsGuest) layout (stack, [])
        rules).result = .ok journaled ∧
      ((start journaled).after net.journaled past).mapStack Prod.fst = m ∧
      ((start journaled).after net.journaled past).card.relay = some relay ∧
      m.card.link.port = .pipe pipe ∧
      (start card).accepted net past = inputs relay.stack.2 ++ waiting ∧
      pipe.toStack.queue = waiting.map Record.encode ∧
      m.card.link.traffic.txFrames = relay.counters.framesIn + pipe.toStack.queue.length ∧
      relay.counters.corruptRecords = 0 ∧
      relay.counters.framesOut =
        m.card.link.traffic.rxFrames + m.card.link.traffic.rxRunts + pipe.toGuest.queue.length) ∧
    ∀ call o, m.card.sending? call = some (o, .error (.host (.os .wouldBlock))) →
      (m.step net (.outside call)).1 = m.withRefusal ∧
      ∀ future, m.withRefusal.after net future = (m.after net future).withRefusal ∧
        m.withRefusal.trace net future = m.trace net future ∧
        m.withRefusal.accepted net future = m.accepted net future := by
  intro m
  obtain ⟨fresh, hjournal, hopen, hcounters, hfresh, hcard⟩ := Card.startNat_journaled hstart
  have hfirst : IsRunning
      (start (.ofLink (.natPipe towardsStack towardsGuest) (some fresh) layout)) :=
    isRunning_start ⟨hopen, rfl, Host.Channel.isLive_ofCapacity _⟩ layout
  have hbalances := Card.balances_ofLink hjournal hcounters towardsStack towardsGuest layout
  generalize Card.ofLink _ (some fresh) layout = journaled at hfresh hcard hfirst hbalances
  have hsim := net.journaled_simulates
  -- The run with the journal is the run, and so it has not begun to shut down either.
  have hseen : ((start journaled).after net.journaled past).mapStack Prod.fst = m := by
    rw [← after_mapStack hsim, ← start_mapStack, hcard]
  have hcloser : ((start journaled).after net.journaled past).closer = .running :=
    (congrArg closer hseen).trans hrunning
  have hlink : m.card.link = ((start journaled).after net.journaled past).card.link :=
    (congrArg (fun m => m.card.link) hseen).symm
  have haccepted : (start card).accepted net past =
      (start journaled).accepted net.journaled past := by
    rw [← hcard, start_mapStack, mapStack_eq_refit,
      accepted_refit (view_fits hsim) fun _ => rfl]
  obtain ⟨relay, pipe, waiting, hrelay, hport, hinputs, hqueue, hsent, hcorrupt, hread⟩ :=
    (hfirst.after_balances net hbalances hcloser).reckon
  have hpipe : m.card.link.port = .pipe pipe := (congrArg Link.port hlink).trans hport
  refine ⟨⟨_, relay, pipe, waiting, hfresh, hseen, hrelay, hpipe, haccepted.trans hinputs, hqueue,
    ?_, hcorrupt, ?_⟩, ?_⟩
  · rw [hlink]
    exact hsent
  · rw [hlink]
    exact hread
  · intro call o hrefused
    have hcard : (m.card.perform call).1 = m.card.withRefusal :=
      Card.perform_of_wouldBlock hpipe hrefused
    refine ⟨?_, ?_⟩
    · simp only [step, step?, hcard]
      rfl
    · intro future
      obtain ⟨hafter, htrace⟩ := m.run_withRefusal net future
      exact ⟨hafter, htrace, accepted_refit (refusal_fits net) (fun _ => rfl) m future⟩

/-- With room for one record a second frame waits while the first comes back, and a third finds no
room. -/
theorem frames_conserved_echo :
    let frame : Bytes := List.replicate 12 0 ++ [8, 0]
    let card : Card EchoStack := .ofLink (.natPipe 1 1)
      (some { stack := .empty, inputOpen := true, buffer := .empty, counters := {} }) ⟨0, 0, 0⟩
    let past : List Actor := [.outside (.transmitFrame frame), .relay, .relay, .receiver, .receiver,
      .receiver, .outside (.transmitFrame frame)]
    let m := (start card).after EchoStack.net past
    (∃ (relay : Relay (EchoStack × List StackCall)) (waiting : List Bytes),
      [frame, frame] = inputs relay.stack.2 ++ waiting ∧
      m.card.link.traffic.txFrames = relay.counters.framesIn + waiting.length ∧
      relay.counters.corruptRecords = 0) ∧
    ∀ future,
      (m.step EchoStack.net (.outside (.transmitFrame frame))).1.after EchoStack.net future =
        (m.after EchoStack.net future).withRefusal := by
  intro frame card past m
  have hstart : (Card.startNat EchoStack.net (.natPipe 1 1) ⟨0, 0, 0⟩ .empty []).result =
      .ok card := rfl
  have hrunning : m.closer = .running := by decide +kernel
  obtain ⟨⟨_, relay, pipe, waiting, -, -, -, -, haccepted, hqueue, hsent, hcorrupt, -⟩, hrefused⟩ :=
    frames_conserved hstart hrunning
  have htwo : (start card).accepted EchoStack.net past = [frame, frame] := by decide +kernel
  have hfull : (m.card.transmitFrame frame).2 = .error (.host (.os .wouldBlock)) := by
    decide +kernel
  refine ⟨⟨relay, waiting, htwo.symm.trans haccepted, ?_, hcorrupt⟩, ?_⟩
  · rw [hqueue, List.length_map] at hsent
    exact hsent
  · intro future
    obtain ⟨hstep, hafter⟩ := hrefused (.transmitFrame frame) (.frame frame)
      (congrArg (fun r => some (Outgoing.frame frame, r)) hfull)
    exact (congrArg (after EchoStack.net · future) hstep).trans (hafter future).1

end Threads
end GuestNic
