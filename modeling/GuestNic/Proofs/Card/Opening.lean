import GuestNic.Card.Open
import GuestNic.Proofs.Nat.Installation

/-!
# Opening a card in NAT mode

How a card is opened whose settings choose NAT: the stack may be missing, the pipe may fail, the
stack may not start, and otherwise there is a card. What the user is alerted to is, in this order,
the texts that are no rules, the rules that the stack refused, and the failure to open.
-/

namespace GuestNic

namespace Opening

/-- The alerts to the user, in order. -/
def alerts {α : Type} (o : Opening α) : List String := o.notices.filterMap Notice.alert?

end Opening

/-- The same embedding whose stack has an empty log. -/
def Embedding.logged {σ : Type} (e : Embedding σ) : Embedding (σ × List StackEntry) where
  host := e.host
  layout := e.layout
  stack := e.stack.map (·, [])

namespace Settings

/-- The messages about the texts that are no rules. -/
def ruleErrors (s : Settings) : List String := s.forwarding.2.map Forwarding.Malformed.message

end Settings

/-- What the stack said if it refused the rule. -/
def RuleOutcome.refusal? : RuleOutcome → Option StackFault
  | .installed _ => none
  | .refused fault => some fault

namespace Notice

variable (errors : List Forwarding.Malformed) (outcomes : List RuleOutcome) (fates : List RuleFate)

theorem alerts_malformed :
    (errors.map malformedRule).filterMap alert? = errors.map Forwarding.Malformed.message := by
  rw [List.filterMap_map]
  exact congrFun List.filterMap_eq_map' errors

/-- Of the outcomes only the refusals are alerts. -/
theorem alerts_rules :
    (outcomes.map rule).filterMap alert? =
      (outcomes.filterMap RuleOutcome.refusal?).map StackFault.message := by
  induction outcomes with
  | nil => rfl
  | cons outcome outcomes ih =>
    cases outcome with
    | installed => exact ih
    | refused fault => exact congrArg (fault.message :: ·) ih

theorem alerts_outcomes :
    ((fates.filterMap RuleFate.outcome?).map rule).filterMap alert? =
      (fates.filterMap RuleFate.refusal?).map StackFault.message := by
  rw [alerts_rules, List.filterMap_filterMap]
  refine congrArg (fun refusal? => (fates.filterMap refusal?).map StackFault.message) ?_
  funext fate
  cases fate <;> rfl

end Notice

namespace Card

variable {σ : Type} (net : NetStack σ) {s : Settings} {e : Embedding σ}

/-- The link of a card in NAT mode. -/
abbrev natLink (pipe : StackPipe) : Link := .ofPort (.pipe pipe)

/-- Without a stack nothing is asked of the host. -/
theorem openWith_of_stackMissing (hnat : s.choice? = some .nat) (hstack : e.stack = none) :
    openWith net s e = ⟨[.failed .stackMissing], .error .stackMissing⟩ := by
  simp only [openWith, hnat, openChoice, hstack, List.nil_append]

section

variable {stack : σ} (hstack : e.stack = some stack)
include hstack

/-- The pipe is the first thing that can fail. -/
theorem openWith_of_pipe_error (hnat : s.choice? = some .nat) {fault : Host.Fault}
    (hpipe : e.host.openPipe = .error fault) :
    openWith net s e =
      ⟨s.forwarding.2.map .malformedRule ++ [.failed (.link (.pipe fault))],
        .error (.link (.pipe fault))⟩ := by
  have hlink : Link.openAt e.host .nat = .error (.pipe fault) := by
    simp only [Link.openAt_all, HostAccess.port, hpipe, Except.map]
  simp only [openWith, hnat, openChoice, hstack, hlink]

variable {pipe : StackPipe} (hpipe : e.host.openPipe = .ok pipe)
include hpipe

/-- With a pipe everything depends on the relay. -/
theorem openChoice_of_pipe (s : Settings) :
    openChoice net .nat s e =
      ⟨s.forwarding.2.map .malformedRule ++
        (startNat net (natLink pipe) e.layout stack s.forwarding.1).notices,
        (startNat net (natLink pipe) e.layout stack s.forwarding.1).result⟩ := by
  have hlink : Link.openAt e.host .nat = .ok (natLink pipe) := by
    simp only [Link.openAt_all, HostAccess.port, hpipe, Except.map]
  have hnone : linkNotices (natLink pipe) = [] := rfl
  simp only [openChoice, hstack, hlink, hnone, List.append_nil]

theorem openWith_of_relay_error (hnat : s.choice? = some .nat) {fault : RelayFault}
    (hrelay : Relay.start net stack s.forwarding.1 = .error fault) :
    openWith net s e =
      ⟨s.forwarding.2.map .malformedRule ++ [.failed (.relay fault)], .error (.relay fault)⟩ := by
  simp only [openWith, hnat, openChoice_of_pipe net hstack hpipe, startNat, hrelay,
    List.append_nil]

theorem openWith_of_relay (hnat : s.choice? = some .nat) {relay : Relay σ}
    {outcomes : List RuleOutcome}
    (hrelay : Relay.start net stack s.forwarding.1 = .ok (relay, outcomes)) :
    openWith net s e =
      ⟨s.forwarding.2.map .malformedRule ++ (outcomes.map Notice.rule ++
          [.opened natAddress .nat]),
        .ok (.ofLink (natLink pipe) (some relay) e.layout)⟩ := by
  simp only [openWith, hnat, openChoice_of_pipe net hstack hpipe, startNat_all, hrelay]
  rfl

end

/-! ## Alerts -/

variable {α : Type} {errors : List Forwarding.Malformed} {r : α}

/-- A failure is told after the texts that are no rules. -/
theorem alerts_of_failed (fault : OpenFault) :
    (⟨errors.map .malformedRule ++ [.failed fault], r⟩ : Opening α).alerts =
      errors.map Forwarding.Malformed.message ++ [fault.message] := by
  rw [Opening.alerts, List.filterMap_append, Notice.alerts_malformed]
  rfl

/-- So are the refusals, and a card that is there is no alert. -/
theorem alerts_of_started (fates : List RuleFate) (address : HardwareAddress) (kind : PortKind) :
    (⟨errors.map .malformedRule ++ ((fates.filterMap RuleFate.outcome?).map Notice.rule ++
        [.opened address kind]), r⟩ : Opening α).alerts =
      errors.map Forwarding.Malformed.message ++
        (fates.filterMap RuleFate.refusal?).map StackFault.message := by
  rw [Opening.alerts, List.filterMap_append, Notice.alerts_malformed, List.filterMap_append,
    Notice.alerts_outcomes]
  exact congrArg _ (List.append_nil _)

end Card
end GuestNic
