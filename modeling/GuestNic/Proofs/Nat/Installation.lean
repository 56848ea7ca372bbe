import GuestNic.Proofs.Nat.Stack
import Mathlib.Data.List.Forall2

/-!
# Installing forwarding rules

A log of all calls that a stack gets tells which rules it was asked to install, and when. With it
every configured text of a rule has a fate of its own: it is malformed, or the stack was asked once
to install its rule and has done so or refused.
-/

namespace GuestNic

variable {σ : Type}

/-! ## The log -/

/-- What is entered for the answer of a stack that is asked to install a rule. -/
def RuleOutcome.of (rule : Forwarding.Rule) : Except StackFault Unit → RuleOutcome
  | .ok () => .installed rule
  | .error fault => .refused fault

/-- A call to a stack. -/
inductive StackEntry where
  | started
  | installing (rule : Forwarding.Rule) (outcome : RuleOutcome)
  | input (frame : Bytes)
  | acted

namespace StackEntry

/-- The rule that is to be installed. -/
def rule? : StackEntry → Option Forwarding.Rule
  | .installing rule _ => some rule
  | _ => none

/-- A call of the relay at work. -/
def isWork : StackEntry → Bool
  | .input _ | .acted => true
  | .started | .installing .. => false

end StackEntry

/-- The stack with a log of all its calls. One that does not start leaves none. -/
def NetStack.logged (net : NetStack σ) : NetStack (σ × List StackEntry) where
  start s := (net.start s.1).map fun stack => (stack, s.2 ++ [.started])
  addRule rule s :=
    let (stack, r) := net.addRule rule s.1
    ((stack, s.2 ++ [.installing rule (.of rule r)]), r)
  input frame s :=
    let (stack, frames) := net.input frame s.1
    ((stack, s.2 ++ [.input frame]), frames)
  watch set s :=
    let (stack, set, wait) := net.watch set s.1
    ((stack, s.2), set, wait)
  sense s := net.sense s.1
  complete set s :=
    let (stack, frames) := net.complete set s.1
    ((stack, s.2 ++ [.acted]), frames)

/-- The log does not change what the stack does. -/
theorem NetStack.logged_simulates (net : NetStack σ) : net.logged.Simulates net Prod.fst :=
  ⟨fun _ _ => rfl, fun _ => rfl⟩

/-! ## Fates -/

/-- What becomes of the text of a rule. -/
inductive RuleFate where
  | malformed (e : Forwarding.Malformed)
  | accepted (rule : Forwarding.Rule)
  | refused (rule : Forwarding.Rule) (fault : StackFault)

namespace RuleFate

/-- The fates that a text can have. -/
inductive Of (text : String) : RuleFate → Prop where
  | malformed {e : Forwarding.Malformed} (h : Forwarding.Rule.parse text = .error e) :
      Of text (.malformed e)
  | accepted {rule : Forwarding.Rule} (h : Forwarding.Rule.parse text = .ok rule) :
      Of text (.accepted rule)
  | refused {rule : Forwarding.Rule} (h : Forwarding.Rule.parse text = .ok rule)
      (fault : StackFault) : Of text (.refused rule fault)

/-- The fate of a rule by the answer of the stack. -/
def ofAnswer (rule : Forwarding.Rule) : Except StackFault Unit → RuleFate
  | .ok () => .accepted rule
  | .error fault => .refused rule fault

def malformed? : RuleFate → Option Forwarding.Malformed
  | .malformed e => some e
  | _ => none

/-- The fault with which the stack refused. -/
def refusal? : RuleFate → Option StackFault
  | .refused _ fault => some fault
  | _ => none

def isAccepted : RuleFate → Bool
  | .accepted _ => true
  | _ => false

/-- What came of the call to the stack, if there was one. -/
def outcome? : RuleFate → Option RuleOutcome
  | .malformed _ => none
  | .accepted rule => some (.installed rule)
  | .refused _ fault => some (.refused fault)

/-- The call to the stack, if there was one. -/
def logged? : RuleFate → Option StackEntry
  | .malformed _ => none
  | .accepted rule => some (.installing rule (.installed rule))
  | .refused rule fault => some (.installing rule (.refused fault))

variable {text : String} {rule : Forwarding.Rule}

theorem of_ofAnswer (h : Forwarding.Rule.parse text = .ok rule) (r : Except StackFault Unit) :
    Of text (ofAnswer rule r) := by
  cases r with
  | ok => exact .accepted h
  | error fault => exact .refused h fault

@[simp] theorem outcome?_ofAnswer (r : Except StackFault Unit) :
    (ofAnswer rule r).outcome? = some (.of rule r) := by
  cases r <;> rfl

@[simp] theorem logged?_ofAnswer (r : Except StackFault Unit) :
    (ofAnswer rule r).logged? = some (.installing rule (.of rule r)) := by
  cases r <;> rfl

@[simp] theorem malformed?_ofAnswer (r : Except StackFault Unit) :
    (ofAnswer rule r).malformed? = none := by
  cases r <;> rfl

/-- Every fate is one of the three. -/
theorem length_eq (fates : List RuleFate) :
    (fates.filterMap malformed?).length + (fates.filterMap refusal?).length +
      fates.countP isAccepted = fates.length := by
  induction fates with
  | nil => rfl
  | cons fate fates ih =>
    simp only [List.filterMap_cons, List.countP_cons, List.length_cons]
    cases fate with
    | malformed | accepted | refused =>
      simp [malformed?, refusal?, isAccepted]
      omega

end RuleFate

namespace Forwarding

variable {text : String} {rule : Rule} {e : Malformed}

theorem parseAll_cons_ok (h : Rule.parse text = .ok rule) (texts : List String) :
    parseAll (text :: texts) = (rule :: (parseAll texts).1, (parseAll texts).2) := by
  simp only [parseAll, List.filterMap_cons, h, Except.toOption]

theorem parseAll_cons_error (h : Rule.parse text = .error e) (texts : List String) :
    parseAll (text :: texts) = ((parseAll texts).1, e :: (parseAll texts).2) := by
  simp only [parseAll, List.filterMap_cons, h, Except.toOption]

end Forwarding

namespace Relay

variable (net : NetStack σ)

/-- The fates of texts whose rules are installed in their order. -/
def ruleFates (stack : σ) : List String → List RuleFate
  | [] => []
  | text :: texts =>
    match Forwarding.Rule.parse text with
    | .error e => .malformed e :: ruleFates stack texts
    | .ok rule =>
      .ofAnswer rule (net.addRule rule stack).2 :: ruleFates (net.addRule rule stack).1 texts

section

variable {text : String} {rule : Forwarding.Rule} {e : Forwarding.Malformed}

theorem ruleFates_cons_ok (h : Forwarding.Rule.parse text = .ok rule) (stack : σ)
    (texts : List String) :
    ruleFates net stack (text :: texts) =
      .ofAnswer rule (net.addRule rule stack).2 :: ruleFates net (net.addRule rule stack).1 texts := by
  simp only [ruleFates, h]

theorem ruleFates_cons_error (h : Forwarding.Rule.parse text = .error e) (stack : σ)
    (texts : List String) :
    ruleFates net stack (text :: texts) = .malformed e :: ruleFates net stack texts := by
  simp only [ruleFates, h]

end

/-- Every text has one fate. -/
theorem ruleFates_of (stack : σ) (texts : List String) :
    List.Forall₂ RuleFate.Of texts (ruleFates net stack texts) := by
  induction texts generalizing stack with
  | nil => exact .nil
  | cons text texts ih =>
    cases hparse : Forwarding.Rule.parse text with
    | error e =>
      rw [ruleFates_cons_error net hparse]
      exact .cons (.malformed hparse) (ih stack)
    | ok rule =>
      rw [ruleFates_cons_ok net hparse]
      exact .cons (RuleFate.of_ofAnswer hparse _) (ih _)

/-- The malformed texts are those that cannot be read. -/
theorem ruleFates_malformed (stack : σ) (texts : List String) :
    (ruleFates net stack texts).filterMap RuleFate.malformed? = (Forwarding.parseAll texts).2 := by
  induction texts generalizing stack with
  | nil => rfl
  | cons text texts ih =>
    cases hparse : Forwarding.Rule.parse text with
    | error e =>
      rw [ruleFates_cons_error net hparse, Forwarding.parseAll_cons_error hparse]
      exact congrArg (e :: ·) (ih stack)
    | ok rule =>
      rw [ruleFates_cons_ok net hparse, Forwarding.parseAll_cons_ok hparse, List.filterMap_cons,
        RuleFate.malformed?_ofAnswer]
      exact ih _

/-- The rules that the stack is asked to install are those that can be read. -/
theorem ruleFates_rules (stack : σ) (texts : List String) :
    ((ruleFates net stack texts).filterMap RuleFate.logged?).filterMap StackEntry.rule? =
      (Forwarding.parseAll texts).1 := by
  induction texts generalizing stack with
  | nil => rfl
  | cons text texts ih =>
    cases hparse : Forwarding.Rule.parse text with
    | error e =>
      rw [ruleFates_cons_error net hparse, Forwarding.parseAll_cons_error hparse]
      exact ih stack
    | ok rule =>
      rw [ruleFates_cons_ok net hparse, Forwarding.parseAll_cons_ok hparse, List.filterMap_cons,
        RuleFate.logged?_ofAnswer]
      exact congrArg (rule :: ·) (ih _)

/-! ## Installing -/

theorem installAll_cons (stack : σ) (rule : Forwarding.Rule) (rules : List Forwarding.Rule) :
    installAll net stack (rule :: rules) =
      ((installAll net (net.addRule rule stack).1 rules).1,
        .of rule (net.addRule rule stack).2 ::
          (installAll net (net.addRule rule stack).1 rules).2) := by
  simp only [installAll]
  cases (net.addRule rule stack).2 <;> rfl

/-- The outcomes are those of the texts that can be read. -/
theorem installAll_outcomes (stack : σ) (texts : List String) :
    (installAll net stack (Forwarding.parseAll texts).1).2 =
      (ruleFates net stack texts).filterMap RuleFate.outcome? := by
  induction texts generalizing stack with
  | nil => rfl
  | cons text texts ih =>
    cases hparse : Forwarding.Rule.parse text with
    | error e =>
      rw [ruleFates_cons_error net hparse, Forwarding.parseAll_cons_error hparse]
      exact ih stack
    | ok rule =>
      rw [ruleFates_cons_ok net hparse, Forwarding.parseAll_cons_ok hparse, List.filterMap_cons,
        RuleFate.outcome?_ofAnswer, installAll_cons]
      exact congrArg (_ :: ·) (ih _)

/-- The log gets one entry for every rule that can be read, in the order of the texts. -/
theorem installAll_logged (stack : σ) (log : List StackEntry) (texts : List String) :
    installAll net.logged (stack, log) (Forwarding.parseAll texts).1 =
      (((installAll net stack (Forwarding.parseAll texts).1).1,
          log ++ (ruleFates net stack texts).filterMap RuleFate.logged?),
        (installAll net stack (Forwarding.parseAll texts).1).2) := by
  induction texts generalizing stack log with
  | nil =>
    show ((stack, log), []) = ((stack, log ++ []), [])
    rw [List.append_nil]
  | cons text texts ih =>
    cases hparse : Forwarding.Rule.parse text with
    | error e =>
      rw [ruleFates_cons_error net hparse, Forwarding.parseAll_cons_error hparse]
      exact ih stack log
    | ok rule =>
      have hadd : net.logged.addRule rule (stack, log) =
          (((net.addRule rule stack).1,
              log ++ [.installing rule (.of rule (net.addRule rule stack).2)]),
            (net.addRule rule stack).2) := rfl
      rw [ruleFates_cons_ok net hparse, Forwarding.parseAll_cons_ok hparse, List.filterMap_cons,
        RuleFate.logged?_ofAnswer]
      simp only [installAll_cons, hadd, ih, List.append_assoc, List.singleton_append]

/-! ## Starting -/

variable {net} {stack started : σ} {fault : StackFault}

theorem start_of_error (h : net.start stack = .error fault) (rules : List Forwarding.Rule) :
    start net stack rules = .error (.stack fault) := by
  simp only [start, h]

/-- The log of a relay that has just started, with the outcomes. Without the log it is the relay
that starts without one. -/
theorem start_logged (h : net.start stack = .ok started) (texts : List String) :
    ∃ relay : Relay (σ × List StackEntry),
      start net.logged (stack, []) (Forwarding.parseAll texts).1 =
        .ok (relay, (ruleFates net started texts).filterMap RuleFate.outcome?) ∧
      start net stack (Forwarding.parseAll texts).1 =
        .ok (relay.mapStack Prod.fst, (ruleFates net started texts).filterMap RuleFate.outcome?) ∧
      relay.stack.2 = .started :: (ruleFates net started texts).filterMap RuleFate.logged? := by
  have hstart : net.logged.start (stack, []) = .ok (started, [.started]) := by
    show (net.start stack).map _ = _
    rw [h]
    rfl
  refine ⟨⟨((installAll net started (Forwarding.parseAll texts).1).1,
    .started :: (ruleFates net started texts).filterMap RuleFate.logged?), true, .empty, {}⟩, ?_, ?_, rfl⟩
  · simp only [start, hstart, installAll_logged, installAll_outcomes, List.singleton_append]
  · simp only [start, h, ← installAll_outcomes]
    rfl

end Relay
end GuestNic
