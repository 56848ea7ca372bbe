import GuestNic.Pattern.Reader

/-!
# Supported patterns

Patterns run without tables of the properties of characters. What would need one is refused: letters
of either case, the short classes, properties, and word boundaries, unless the pattern is switched to
bytes. A pattern for bytes must not match what is no text.
-/

namespace GuestNic.Pattern

/-- The modes in force, and what has been met so far. -/
structure Modes where
  isCaseless : Bool
  isUnicode : Bool
  /-- A word boundary that depends on a table. -/
  hasBoundary : Bool

namespace Modes

def standard : Modes := ⟨false, true, false⟩

/-- The modes behind a list of flags. -/
def apply (m : Modes) (items : List FlagItem) : Modes :=
  { m with
    isCaseless := (switched? .caseless items).getD m.isCaseless
    isUnicode := (switched? .unicode items).getD m.isUnicode }

end Modes

abbrev Check := StateT Modes (Except Fault)

namespace Check

def fail (flaw : Flaw) (span : Span) : Check Unit := throw ⟨flaw, span, none⟩

/-- Refuse `span` where letters of either case are to match. -/
def cased (span : Span) : Check Unit := do
  let m ← get
  if m.isUnicode && m.isCaseless then fail .caseUnknown span

/-- A class or one item of it, once what it holds has been checked. -/
def closed (span : Span) (isNegated : Bool) : Check Unit := do
  cased span
  if !(← get).isUnicode && isNegated then fail .notText span

/-- A literal that stands for a byte beyond ASCII. -/
def textual (l : Literal) : Check Unit := do
  if !(← get).isUnicode && l.isByte && 0x80 ≤ l.char.toNat then fail .notText l.span

/-- A literal in a class. -/
def member (l : Literal) : Check Unit := do
  textual l
  if !(← get).isUnicode && 0x80 ≤ l.char.toNat then fail .propertyForBytes l.span

def short (span : Span) (isNegated : Bool) : Check Unit := do
  if (← get).isUnicode then fail .shortClassUnknown span
  else if isNegated then fail .notText span

def property (span : Span) : Check Unit := do
  if (← get).isUnicode then fail .propertyUnknown span else fail .propertyForBytes span

end Check

open Check

def ClassItem.isEmpty : ClassItem → Bool
  | .empty _ => true
  | _ => false

mutual

def ClassItem.check : ClassItem → Check Unit
  | .empty _ => return
  | .literal l => member l
  | .range _ first last => do
    member first
    member last
  | .named span isNegated => closed span isNegated
  | .short span isNegated => Check.short span isNegated
  | .property span => Check.property span
  | .bracketed span isNegated item => do
    item.check
    closed span isNegated
  | .union _ items => ClassItem.checkAll items
  | .combined _ left right => do
    left.check
    right.check
    if !right.isEmpty then cased right.span
    if !left.isEmpty then cased left.span

def ClassItem.checkAll : List ClassItem → Check Unit
  | [] => return
  | item :: rest => do
    item.check
    ClassItem.checkAll rest

end

mutual

def Tree.check : Tree → Check Unit
  | .empty _ => return
  | .flags _ items => modify (·.apply items)
  | .literal l => do
    textual l
    cased l.span
  | .dot span => do
    if !(← get).isUnicode then fail .notText span
  | .assertion _ isWordBoundary =>
    modify fun m => { m with hasBoundary := m.hasBoundary || (isWordBoundary && m.isUnicode) }
  | .short span isNegated => Check.short span isNegated
  | .property span => Check.property span
  | .bracketed span isNegated item => do
    item.check
    closed span isNegated
  | .repetition _ tree => tree.check
  | .group _ items tree => do
    let outer ← get
    modify (·.apply items)
    tree.check
    modify fun m => { m with isCaseless := outer.isCaseless, isUnicode := outer.isUnicode }
  | .alternation _ trees => Tree.checkAll trees
  | .sequence _ trees => Tree.checkAll trees

def Tree.checkAll : List Tree → Check Unit
  | [] => return
  | tree :: rest => do
    tree.check
    Tree.checkAll rest

end

/-- Why a pattern is refused. -/
inductive Refusal where
  | flawed (pattern : String) (fault : Fault)
  | wordBoundary
deriving DecidableEq, Repr

/-- The messages of a refusal, each the cause of the one before it. -/
def Refusal.messages : Refusal → List String
  | .flawed pattern fault => ["error building NFA", "error parsing regex", fault.report pattern]
  | .wordBoundary =>
    ["unsupported regex feature for DFAs: cannot build DFAs for regexes with Unicode word " ++
      "boundaries; switch to ASCII word boundaries, or heuristically enable Unicode word " ++
      "boundaries or use a different regex engine"]

/-- Read a pattern and see whether it is supported. -/
def accept (pattern : List Char) : Except Refusal Unit :=
  let checked := do
    let tree ← Tree.ofPattern pattern
    let (_, modes) ← tree.check.run .standard
    return modes.hasBoundary
  match checked with
  | .error fault => .error (.flawed (String.ofList pattern) fault)
  | .ok true => .error .wordBoundary
  | .ok false => .ok ()

end GuestNic.Pattern
