import GuestNic.CommandLine.Integer
import GuestNic.CommandLine.Numeral
import GuestNic.Pattern.Support

/-!
# Log filters

Which log records are shown. A filter is a list of directives with commas between them. A directive
names a level, a target, or both; behind the target brackets may name a span and in braces a field,
with a pattern for its value. Of the directives that cover a record the most specific decides.
-/

namespace GuestNic.CommandLine

/-- How much is shown, from nothing to everything. -/
inductive Verbosity where
  | off
  | error
  | warn
  | info
  | debug
  | trace
deriving DecidableEq, Repr

def Verbosity.rank : Verbosity → Nat
  | .off => 0
  | .error => 1
  | .warn => 2
  | .info => 3
  | .debug => 4
  | .trace => 5

def Verbosity.name : Verbosity → String
  | .off => "OFF"
  | .error => "ERROR"
  | .warn => "WARN"
  | .info => "INFO"
  | .debug => "DEBUG"
  | .trace => "TRACE"

def Verbosity.all : List Verbosity := [.off, .error, .warn, .info, .debug, .trace]

/-- Why a text is no filter. -/
inductive FilterFault where
  | level
  | directive
  | field (refusal : Pattern.Refusal)
deriving DecidableEq, Repr

/-- The messages of a fault, each the cause of the one before it. -/
def FilterFault.messages : FilterFault → List String
  | .level =>
    let text := "error parsing level filter: expected one of \"off\", \"error\", \"warn\", " ++
      "\"info\", \"debug\", \"trace\", or a number 0-5"
    [text, text]
  | .directive => ["invalid filter directive"]
  | .field refusal =>
    ("invalid field filter: " ++ refusal.messages.headD "") :: refusal.messages

/-- A field that a directive asks for. -/
structure FieldFilter where
  name : String
  /-- Its value is asked for too. -/
  hasValue : Bool
deriving DecidableEq, Repr

/-- One directive. -/
structure Directive where
  target : Option String
  verbosity : Verbosity
  /-- It names a span. -/
  hasSpan : Bool
  field : Option FieldFilter
deriving DecidableEq, Repr

namespace Directive

def ofLevel (v : Verbosity) : Directive := ⟨none, v, false, none⟩

def ofTarget (target : String) : Directive := ⟨some target, .trace, false, none⟩

end Directive

/-- A level by its number or its name, in letters of either case. -/
def verbosity? (text : String) : Option Verbosity :=
  match readUnsigned 10 (UInt64.size - 1) text.toList with
  | .ok n => Verbosity.all[n]?
  | .error _ =>
    if text.isEmpty then some .error
    else Verbosity.all.find? fun v => v.name == String.ofList (text.toList.map Char.toUpper)

/-! ## Directives -/

/-- What follows the first `n` bytes of a text. -/
def dropBytes (n : Nat) : List Char → List Char
  | [] => []
  | c :: cs => if n = 0 then c :: cs else dropBytes (n - c.utf8Size) cs

/-- The first `n` bytes of a text. -/
def takeBytes (n : Nat) : List Char → List Char
  | [] => []
  | c :: cs => if n = 0 then [] else c :: takeBytes (n - c.utf8Size) cs

/-- Read the level behind an equals sign; nothing there shows everything. -/
def readLevel (cs : List Char) : Except FilterFault Verbosity :=
  if cs.isEmpty then .ok .trace
  else
    match verbosity? (String.ofList cs) with
    | some v => .ok v
    | none => .error .level

/-- Read a field: its name, and behind an equals sign a number or a pattern. What follows a second
equals sign is left out. -/
def readField (cs : List Char) : Except FilterFault FieldFilter :=
  match Text.cut? '=' cs with
  | none => .ok ⟨String.ofList cs, false⟩
  | some (name, rest) =>
    let value := rest.takeWhile (· ≠ '=')
    if isNumeral value then .ok ⟨String.ofList name, true⟩
    else
      match Pattern.accept value with
      | .ok () => .ok ⟨String.ofList name, true⟩
      | .error refusal => .error (.field refusal)

/-- A directive that is being read. White space around it is left out to find its parts, but the
parts are cut from the text as it stands, at the same bytes. -/
structure Draft where
  text : List Char
  directive : Directive

/-- Read what follows the brackets, from byte `n` on. -/
def Draft.afterBrackets (d : Draft) (n : Nat) : List Char → Except FilterFault Directive
  | [] => .ok d.directive
  | '=' :: _ => (readLevel (dropBytes (n + 1) d.text)).map fun v => { d.directive with verbosity := v }
  | _ => .error .directive

/-- Read a field that starts at byte `start`, from byte `n` on. -/
def Draft.inBraces (d : Draft) (start n : Nat) : List Char → Except FilterFault Directive
  | [] => .error .directive
  | c :: rest =>
    if c = '\x7d' then
      if n = start then .error .directive
      else
        match readField (takeBytes (n - start) (dropBytes start d.text)), rest with
        | .error e, _ => .error e
        | .ok field, ']' :: rest =>
          Draft.afterBrackets { d with directive := { d.directive with field } } (n + 2) rest
        | .ok _, _ => .error .directive
    else Draft.inBraces d start (n + c.utf8Size) rest

/-- Read a span that starts at byte `start`, from byte `n` on. -/
def Draft.inBrackets (d : Draft) (start n : Nat) : List Char → Except FilterFault Directive
  | [] => .error .directive
  | c :: rest =>
    if c = ']' then
      Draft.afterBrackets { d with directive := { d.directive with hasSpan := true } } (n + 1) rest
    else if c = '\x7b' then
      let named := { d.directive with hasSpan := n ≠ start }
      Draft.inBraces { d with directive := named } (n + 1) (n + 1) rest
    else Draft.inBrackets d start (n + c.utf8Size) rest

/-- Read a level or a target from byte `n` on. -/
def Draft.atFront (d : Draft) (n : Nat) : List Char → Except FilterFault Directive
  | [] =>
    match verbosity? (String.ofList d.text) with
    | some v => .ok (.ofLevel v)
    | none => .ok (.ofTarget (String.ofList d.text))
  | c :: rest =>
    let target := Directive.ofTarget (String.ofList (takeBytes n d.text))
    if c = '=' then
      (readLevel (dropBytes (n + 1) d.text)).map fun v => { target with verbosity := v }
    else if c = '[' then Draft.inBrackets { d with directive := target } (n + 1) (n + 1) rest
    else Draft.atFront d (n + c.utf8Size) rest

/-- Whether a level or a target may start with `c`. -/
def startsDirective (c : Char) : Bool :=
  c = '-' || c = ':' || c = '_' || Text.isLetterOrNumeral c

/-- Read a directive that is not empty. -/
def readDirective (text : List Char) : Except FilterFault Directive :=
  let d : Draft := ⟨text, .ofLevel .trace⟩
  match Text.trim text with
  | [] => .error .directive
  | c :: rest =>
    if c = '[' then d.inBrackets 1 1 rest
    else if startsDirective c then d.atFront 0 (c :: rest)
    else .error .directive

/-- The pieces between commas. -/
def splitCommas : List Char → List (List Char)
  | [] => [[]]
  | c :: cs =>
    if c = ',' then [] :: splitCommas cs
    else
      match splitCommas cs with
      | [] => [[c]]
      | piece :: pieces => (c :: piece) :: pieces

/-- Read a filter. An empty one shows errors. -/
def readFilter (text : String) : Except FilterFault (List Directive) :=
  match ((splitCommas text.toList).filter fun piece => !piece.isEmpty).mapM readDirective with
  | .error e => .error e
  | .ok [] => .ok [.ofLevel .error]
  | .ok directives => .ok directives

/-! ## Records -/

/-- Whether a directive speaks of records of a target with the given fields. Directives that ask for
a span or for a value speak of no record by themselves. -/
def Directive.covers (d : Directive) (target : String) (fields : List String) : Bool :=
  !d.hasSpan && (d.target.getD "").toList.isPrefixOf target.toList &&
    d.field.all fun f => !f.hasValue && fields.contains f.name

/-- How specific the target of a directive is. -/
def Directive.weight (d : Directive) : Nat :=
  match d.target with
  | none => 0
  | some target => target.utf8ByteSize + 1

/-- Whether `d` decides rather than `b` where both cover a record: the longer target does, then a
field, then the later name of a field. -/
def Directive.prevails (d b : Directive) : Bool :=
  if d.weight ≠ b.weight then b.weight < d.weight
  else
    match b.field, d.field with
    | none, _ => true
    | some _, none => false
    | some x, some y => x.name ≤ y.name

/-- The directive that decides about a record; of equal ones the last. -/
def decisive? (directives : List Directive) (target : String) (fields : List String) :
    Option Directive :=
  (directives.filter fun d => d.covers target fields).foldl
    (fun best d =>
      match best with
      | none => some d
      | some b => if d.prevails b then some d else some b)
    none

/-- Whether records of a target with the given fields are shown at a level. -/
def shows (directives : List Directive) (target : String) (fields : List String)
    (v : Verbosity) : Bool :=
  match decisive? directives target fields with
  | none => false
  | some d => v.rank ≤ d.verbosity.rank

end GuestNic.CommandLine
