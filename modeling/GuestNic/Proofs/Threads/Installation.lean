import GuestNic.Nat.Echo
import GuestNic.Proofs.Card.Opening
import GuestNic.Proofs.Threads.View

/-!
# Rules are installed once

A card in NAT mode asks its stack to install the forwarding rules while it is opened, each once and
in the order of the settings, and never again however its threads are scheduled afterwards. Every
text of a rule accounts for one rule that was accepted or for one alert.
-/

namespace GuestNic

variable {σ : Type}

/-! ## What the relay keeps true of its stack -/

/-- What stays true of the stack as long as the relay is at work. -/
structure NetStack.Keeps (net : NetStack σ) (P : σ → Prop) : Prop where
  input : ∀ frame s, P s → P (net.input frame s).1
  act : ∀ s, P s → P (net.act s).1

variable {net : NetStack σ} {P : σ → Prop}

namespace Relay

theorem takeInput_keeps (h : net.Keeps P) {r : Relay σ} (hr : P r.stack) (p : StackPipe) :
    P (takeInput net r p).1.stack := by
  unfold takeInput
  split
  · exact hr
  · split
    · rename_i datagram _
      unfold accept
      split
      · exact h.input _ _ hr
      · exact hr
    · split <;> exact hr

theorem serve_keeps (h : net.Keeps P) {r : Relay σ} (hr : P r.stack) (p : StackPipe) :
    P (serve net r p).1.stack := by
  rw [serve_eq]
  exact h.act _ hr

end Relay

namespace Card

/-- The card has a relay, and this holds of its stack. -/
def StackHas (P : σ → Prop) (c : Card σ) : Prop := ∃ r, c.relay = some r ∧ P r.stack

variable {c : Card σ}

theorem StackHas.of_relay {c' : Card σ} (h : c.StackHas P) (hrelay : c'.relay = c.relay) :
    c'.StackHas P := by
  obtain ⟨r, hr, hP⟩ := h
  exact ⟨r, hrelay.trans hr, hP⟩

theorem StackHas.onRelay (h : c.StackHas P) {act : Relay σ → StackPipe → Relay σ × StackPipe}
    (hact : ∀ r p, P r.stack → P (act r p).1.stack) : (c.onRelay act).StackHas P := by
  obtain ⟨r, hr, hP⟩ := h
  unfold Card.onRelay
  split
  · rename_i pipe relay _ hrelay
    obtain rfl := Option.some.inj (hr.symm.trans hrelay)
    exact ⟨_, rfl, hact _ _ hP⟩
  · exact ⟨r, hr, hP⟩

end Card

namespace Threads

variable {m : Threads σ}

/-- The reception thread leaves the relay alone. -/
theorem receiverStep_relay {m' : Threads σ} {marks : List Mark}
    (h : m.receiverStep = some (m', marks)) : m'.card.relay = m.card.relay := by
  unfold receiverStep at h
  split at h
  · cases h
    rfl
  · split at h <;> cases h <;> rfl
  · split at h <;> cases h <;> rfl
  · rename_i origin _
    have hrelay := (m.card.prepare_spares origin).2.2
    split at h
    · rename_i hprepare
      cases h
      rwa [hprepare] at hrelay
    · rename_i hprepare
      cases h
      rwa [hprepare] at hrelay
  · split at h <;> cases h <;> rfl
  · cases h
    rfl
  · obtain ⟨-, -, heq⟩ := Option.map_eq_some_iff.1 h
    cases heq
    rfl
  · cases h

theorem relayStep_keeps (h : net.Keeps P) (hm : m.card.StackHas P) {m' : Threads σ}
    {marks : List Mark} (hstep : m.relayStep net = some (m', marks)) : m'.card.StackHas P := by
  unfold relayStep at hstep
  split at hstep
  · split at hstep
    · cases hstep
      exact hm.onRelay fun _ _ hP => hP
    · cases hstep
      exact hm
  · cases hstep
    exact hm.onRelay fun _ p hP => Relay.takeInput_keeps h hP p
  · cases hstep
    exact hm.onRelay fun _ p hP => Relay.serve_keeps h hP p
  · cases hstep

theorem guestStep_relay (i : Nat) (m : Threads σ) :
    (m.guestStep i).1.card.relay = m.card.relay := by
  unfold guestStep
  split
  · split <;> rfl
  · rfl
  · rfl

theorem closerStep_relay {m' : Threads σ} {marks : List Mark}
    (h : m.closerStep = some (m', marks)) : m'.card.relay = m.card.relay := by
  unfold closerStep at h
  split at h
  · cases h
    rfl
  · cases h
    rfl
  · cases h
    rfl
  · split at h
    · cases h
      rfl
    · cases h
  · split at h
    · cases h
      rfl
    · cases h
  · cases h

/-- A step keeps true of the stack what the relay keeps true. -/
theorem step_keeps (h : net.Keeps P) (hm : m.card.StackHas P) (a : Actor) :
    (m.step net a).1.card.StackHas P := by
  unfold step
  cases hstep : m.step? net a with
  | none => exact hm
  | some result =>
    cases a with
    | receiver => exact hm.of_relay (receiverStep_relay hstep)
    | relay => exact relayStep_keeps h hm hstep
    | guest i =>
      obtain rfl := Option.some.inj hstep
      exact hm.of_relay (guestStep_relay i m)
    | closer => exact hm.of_relay (closerStep_relay hstep)
    | outside call =>
      obtain rfl := Option.some.inj hstep
      exact hm.of_relay (m.card.perform_relay call)

/-- So does a schedule. -/
theorem after_keeps (h : net.Keeps P) (hm : m.card.StackHas P) (as : List Actor) :
    (m.after net as).card.StackHas P := by
  induction as generalizing m with
  | nil => exact hm
  | cons a as ih => exact ih (step_keeps h hm a)

/-! ## The log of a run -/

/-- The log begins with `base`, and nothing but work was entered since. -/
def WorksOnAfter (base : List StackEntry) (s : σ × List StackEntry) : Prop :=
  ∃ later, s.2 = base ++ later ∧ ∀ x ∈ later, x.isWork = true

theorem WorksOnAfter.snoc {base : List StackEntry} {s : σ × List StackEntry}
    (h : WorksOnAfter base s) {x : StackEntry} (hx : x.isWork = true) (stack : σ) :
    WorksOnAfter base (stack, s.2 ++ [x]) := by
  obtain ⟨later, hlog, hlater⟩ := h
  refine ⟨later ++ [x], by rw [hlog, List.append_assoc], ?_⟩
  intro y hy
  rcases List.mem_append.1 hy with hy | hy
  · exact hlater y hy
  · rw [List.mem_singleton.1 hy]
    exact hx

/-- The relay at work never starts the stack again, nor asks it to install a rule. -/
theorem logged_keeps (net : NetStack σ) (base : List StackEntry) :
    net.logged.Keeps (WorksOnAfter base) where
  input _ _ h := h.snoc rfl _
  act _ h := h.snoc rfl _

/-- The rules in a log are those of its beginning. -/
theorem WorksOnAfter.rules {base : List StackEntry} {s : σ × List StackEntry}
    (h : WorksOnAfter base s) :
    s.2.filterMap StackEntry.rule? = base.filterMap StackEntry.rule? := by
  obtain ⟨later, hlog, hlater⟩ := h
  have hnone : later.filterMap StackEntry.rule? = [] := by
    apply List.filterMap_eq_nil_iff.2
    intro x hx
    have hwork := hlater x hx
    cases x with
    | input | acted => rfl
    | started | installing => cases hwork
  rw [hlog, List.filterMap_append, hnone, List.append_nil]

end Threads

/-! ## Opening with a log -/

namespace Card

variable (net : NetStack σ) {s : Settings} (hnat : s.choice? = some .nat) {e : Embedding σ}
include hnat

/-- The opening is the same with a log and without. -/
theorem openWith_logged :
    openWith net s e =
      ⟨(openWith net.logged s e.logged).notices,
        (openWith net.logged s e.logged).result.map (mapStack Prod.fst)⟩ := by
  cases hstack : e.stack with
  | none =>
    have hlogged : e.logged.stack = none := congrArg (Option.map (·, [])) hstack
    rw [openWith_of_stackMissing net hnat hstack, openWith_of_stackMissing _ hnat hlogged]
    rfl
  | some stack =>
    have hlogged : e.logged.stack = some (stack, []) := congrArg (Option.map (·, [])) hstack
    cases hpipe : e.host.openPipe with
    | error fault =>
      rw [openWith_of_pipe_error net hstack hnat hpipe,
        openWith_of_pipe_error (e := e.logged) _ hlogged hnat hpipe]
      rfl
    | ok pipe =>
      cases hstart : net.start stack with
      | error fault =>
        have hstart' : net.logged.start (stack, []) = .error fault :=
          congrArg (Except.map fun stack => (stack, [StackEntry.started])) hstart
        rw [openWith_of_relay_error net hstack hpipe hnat (Relay.start_of_error hstart _),
          openWith_of_relay_error (e := e.logged) _ hlogged hpipe hnat
            (Relay.start_of_error hstart' _)]
        rfl
      | ok started =>
        obtain ⟨relay, hrelay', hrelay, -⟩ := Relay.start_logged hstart s.rules
        rw [openWith_of_relay net hstack hpipe hnat hrelay,
          openWith_of_relay (e := e.logged) _ hlogged hpipe hnat hrelay']
        rfl

end Card

namespace Threads

/-- A card whose settings choose NAT, with any host that grants the threads and any stack. Without a
stack the user is told just that. Otherwise the first alerts are the texts that are no rules. If the
pipe or the stack does not start, one more alert says so, the card does not open, and it is all the
same how the stack would install rules. If it starts, every text has one fate, to be malformed,
accepted or refused; the alerts are the malformed ones and after them the refusals; and whatever the
schedule, the log of the stack begins with its start and one request for each rule that can be read,
in the order of the settings, and nothing but work follows. -/
theorem rules_installed_once (net : NetStack σ) {s : Settings} (hnat : s.choice? = some .nat)
    (e : Embedding σ) :
    let o := Card.openWith net.logged s e.logged
    Card.openWith net s e = ⟨o.notices, o.result.map (Card.mapStack Prod.fst)⟩ ∧
    (e.stack = none →
      o.result = .error .stackMissing ∧ o.alerts = [OpenFault.stackMissing.message]) ∧
    ∀ stack, e.stack = some stack →
      (∀ fault, e.host.openPipe = .error fault →
        o.result = .error (.link (.pipe fault)) ∧
        o.alerts = s.ruleErrors ++ [(OpenFault.link (.pipe fault)).message] ∧
        ∀ addRule, Card.openWith { net.logged with addRule } s e.logged = o) ∧
      ∀ pipe, e.host.openPipe = .ok pipe →
        (∀ fault, net.start stack = .error fault →
          o.result = .error (.relay (.stack fault)) ∧
          o.alerts = s.ruleErrors ++ [(OpenFault.relay (.stack fault)).message] ∧
          ∀ addRule, Card.openWith { net.logged with addRule } s e.logged = o) ∧
        ∀ started, net.start stack = .ok started →
          ∃ card fates, o.result = .ok card ∧
            List.Forall₂ RuleFate.Of s.rules fates ∧
            s.ruleErrors = (fates.filterMap RuleFate.malformed?).map Forwarding.Malformed.message ∧
            o.alerts = s.ruleErrors ++
              (fates.filterMap RuleFate.refusal?).map StackFault.message ∧
            o.alerts.length + fates.countP RuleFate.isAccepted = s.rules.length ∧
            ∀ as, ∃ relay later,
              ((start card).after net.logged as).card.relay = some relay ∧
              relay.stack.2 = .started :: fates.filterMap RuleFate.logged? ++ later ∧
              (∀ x ∈ later, x.isWork = true) ∧
              relay.stack.2.filterMap StackEntry.rule? = s.forwarding.1 := by
  intro o
  refine ⟨Card.openWith_logged net hnat, ?_, ?_⟩
  · intro hstack
    have hlogged : e.logged.stack = none := congrArg (Option.map (·, [])) hstack
    have ho : o = ⟨[.failed .stackMissing], .error .stackMissing⟩ :=
      Card.openWith_of_stackMissing _ hnat hlogged
    rw [ho]
    exact ⟨rfl, rfl⟩
  · intro stack hstack
    have hlogged : e.logged.stack = some (stack, []) := congrArg (Option.map (·, [])) hstack
    refine ⟨?_, fun pipe hpipe => ⟨?_, ?_⟩⟩
    · intro fault hpipe
      have ho : ∀ net : NetStack (σ × List StackEntry), Card.openWith net s e.logged = _ :=
        fun net => Card.openWith_of_pipe_error net hlogged hnat hpipe
      refine ⟨congrArg Opening.result (ho _), ?_, fun addRule => (ho _).trans (ho _).symm⟩
      exact (congrArg Opening.alerts (ho _)).trans (Card.alerts_of_failed _)
    · intro fault hstart
      have hstart' : ∀ addRule,
          ({ net.logged with addRule } : NetStack _).start (stack, []) = .error fault :=
        fun _ => congrArg (Except.map fun stack => (stack, [StackEntry.started])) hstart
      have ho : ∀ addRule, Card.openWith { net.logged with addRule } s e.logged = _ :=
        fun addRule => Card.openWith_of_relay_error _ hlogged hpipe hnat
          (Relay.start_of_error (hstart' addRule) _)
      refine ⟨congrArg Opening.result (ho _), ?_, fun addRule => (ho _).trans (ho _).symm⟩
      exact (congrArg Opening.alerts (ho _)).trans (Card.alerts_of_failed _)
    · intro started hstart
      obtain ⟨relay, hrelay, -, hlog⟩ := Relay.start_logged hstart s.rules
      have ho : o = _ := Card.openWith_of_relay (e := e.logged) _ hlogged hpipe hnat hrelay
      have hforall := Relay.ruleFates_of net started s.rules
      have herrors := Relay.ruleFates_malformed net started s.rules
      have hrules := Relay.ruleFates_rules net started s.rules
      generalize Relay.ruleFates net started s.rules = fates
        at hforall herrors hrules hrelay hlog ho
      have halerts : o.alerts = s.ruleErrors ++
          (fates.filterMap RuleFate.refusal?).map StackFault.message :=
        (congrArg Opening.alerts ho).trans (Card.alerts_of_started fates _ _)
      have hruleErrors : s.ruleErrors =
          (fates.filterMap RuleFate.malformed?).map Forwarding.Malformed.message :=
        congrArg (List.map _) herrors.symm
      refine ⟨_, fates, congrArg Opening.result ho, hforall, hruleErrors, halerts, ?_, ?_⟩
      · rw [halerts, hruleErrors, List.length_append, List.length_map, List.length_map,
          RuleFate.length_eq, hforall.length_eq]
      · intro as
        have hfirst : Card.StackHas (WorksOnAfter relay.stack.2)
            (.ofLink (Card.natLink pipe) (some relay) e.layout) :=
          ⟨relay, rfl, [], (List.append_nil _).symm, by simp⟩
        obtain ⟨r, hr, hworks⟩ :=
          after_keeps (m := start _) (logged_keeps net relay.stack.2) hfirst as
        obtain ⟨later, hlater, hwork⟩ := hworks
        refine ⟨r, later, hr, by rw [hlater, hlog], hwork, ?_⟩
        rw [WorksOnAfter.rules ⟨later, hlater, hwork⟩, hlog]
        exact hrules

/-- The echo stack on a host where somebody else has port 80. -/
def echoWithoutWeb : NetStack EchoStack where
  __ := EchoStack.net
  addRule rule s :=
    if rule.hostPort = 80 then (s, .error (.forwarding rule "address in use"))
    else EchoStack.net.addRule rule s

/-- The first rule is refused, the second is none, and the third is accepted all the same. -/
theorem rules_installed_once_without_web :
    let s : Settings := { Settings.default with
      link := some "slirp"
      rules := ["tcp:80::80", "tcp", "udp:8080::53"] }
    let e : Embedding EchoStack := ⟨.bare false, ⟨0, 0, 0⟩, some .empty⟩
    let o := Card.openWith echoWithoutWeb.logged s e.logged
    s.choice? = some .nat ∧
    ∃ (card : Card (EchoStack × List StackEntry)) (fates : List RuleFate), o.result = .ok card ∧
      o.alerts.length + fates.countP RuleFate.isAccepted = 3 ∧
      ∀ as, ∃ relay later,
        ((start card).after echoWithoutWeb.logged as).card.relay = some relay ∧
        relay.stack.2 = .started :: fates.filterMap RuleFate.logged? ++ later ∧
        (∀ x ∈ later, x.isWork = true) ∧
        relay.stack.2.filterMap StackEntry.rule? =
          [⟨.tcp, 80, ⟨10, 0, 2, 15⟩, 80⟩, ⟨.udp, 8080, ⟨10, 0, 2, 15⟩, 53⟩] := by
  intro s e o
  have hnat : s.choice? = some .nat := by decide
  have hrules : s.forwarding.1 =
      [⟨.tcp, 80, ⟨10, 0, 2, 15⟩, 80⟩, ⟨.udp, 8080, ⟨10, 0, 2, 15⟩, 53⟩] := by decide
  obtain ⟨card, fates, hcard, -, -, -, hlength, hrun⟩ :=
    ((rules_installed_once echoWithoutWeb hnat e).2.2 _ rfl).2 _ rfl |>.2 _ rfl
  rw [hrules] at hrun
  exact ⟨hnat, card, fates, hcard, hlength, hrun⟩

end Threads
end GuestNic
