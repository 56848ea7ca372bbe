import GuestNic.Pattern.Cursor
import GuestNic.Pattern.Expression
import GuestNic.Text.Digit
import GuestNic.Text.Letter

/-!
# Reading patterns

A pattern is read from left to right, and the first flaw ends reading. It stands between braces in a
filter that is cut at commas and at equals signs, so it holds no closing brace, comma or equals sign:
what only a closing brace could end is a flaw.
-/

namespace GuestNic.Pattern
open Scan

/-! ## Escapes -/

/-- The characters with a meaning of their own, which an escape takes from them. -/
def isMeta (c : Char) : Bool := "\\.+*?()|[]\x7b\x7d^$#&-~".contains c

/-- Whether an escape leaves `c` as it is: ASCII characters other than digits, letters and angle
brackets. -/
def isEscapable (c : Char) : Bool :=
  isMeta c || (c.toNat < 0x80 && !c.isAlphanum && c ≠ '<' && c ≠ '>')

def isHexDigit (c : Char) : Bool := (Text.hexValue? c).isSome

/-- Read the digits of a character's number, `count` of them. -/
def readDigits (first : Bool) : Nat → List Char → Scan (List Char)
  | 0, digits => return digits
  | n + 1, digits => do
    if !first then
      advance
      if ← isAtEnd then fail .escapeUnfinished (← here)
    match ← head? with
    | none => fail .escapeUnfinished (← here)
    | some c =>
      if !isHexDigit c then fail .escapeDigit (← headSpan)
      readDigits false n (digits ++ [c])

/-- Read digits of which none ends the number. -/
def readOpenDigits (brace : Place) : Nat → Scan Unit
  | 0 => fail .escapeUnfinished ⟨brace, brace⟩
  | n + 1 => do
    advance
    match ← head? with
    | none => fail .escapeUnfinished ⟨brace, ← place⟩
    | some c =>
      if !isHexDigit c then fail .escapeDigit (← headSpan)
      readOpenDigits brace n

/-- Read a character's number behind `\x`, `\u` or `\U`. -/
def readNumber (first : Place) (kind : Char) : Scan Tree := do
  advance
  if ← isAtEnd then fail .escapeUnfinished (← here)
  let start ← place
  if (← head?) = some '\x7b' then
    readOpenDigits start (← fuel)
    fail .escapeUnfinished ⟨start, ← place⟩
  let count := if kind = 'x' then 2 else if kind = 'u' then 4 else 8
  let digits ← readDigits true count []
  advance
  let past ← place
  let value := (Text.numeral? 16 digits).getD 0
  if value.isValidChar then
    return .literal ⟨⟨first, past⟩, Char.ofNat value, kind = 'x'⟩
  else fail .escapeInvalid ⟨start, past⟩

/-- Read everything that is left. -/
def readRest : Nat → Scan Unit
  | 0 => return
  | n + 1 => do
    if ← isAtEnd then return
    advance
    readRest n

/-- Read a property behind `\p` or `\P`: one letter. -/
def readProperty (first : Place) : Scan Tree := do
  advance
  match ← head? with
  | none => fail .escapeUnfinished (← here)
  | some '\x7b' =>
    readRest (← fuel)
    fail .escapeUnfinished (← here)
  | some '\\' => fail .propertyInvalid (← headSpan)
  | some _ =>
    advance
    return .property ⟨first, ← place⟩

/-- Letters of the names of word boundaries. -/
def isBoundaryLetter (c : Char) : Bool := c.isAlpha || c = '-'

def readBoundaryName : Nat → Scan Unit
  | 0 => return
  | n + 1 => do
    match ← head? with
    | some c =>
      if isBoundaryLetter c then
        advance
        readBoundaryName n
    | none => return

/-- Read a word boundary whose escape has been read. A brace with a letter behind it starts its
name; any other brace is left to be a repetition. -/
def readBoundary (first : Place) : Scan Tree := do
  let boundary := Tree.assertion ⟨first, ← place⟩ true
  if (← head?) = some '\x7b' then
    let before ← get
    let brace ← place
    advance
    match ← head? with
    | none => fail .boundaryUnfinished ⟨first, ← place⟩
    | some c =>
      if isBoundaryLetter c then
        readBoundaryName (← fuel)
        fail .boundaryUnclosed ⟨brace, ← place⟩
      else
        set before
        return boundary
  else return boundary

/-- Read an escape. -/
def readEscape : Scan Tree := do
  let first ← place
  step
  match ← head? with
  | none => fail .escapeUnfinished ⟨first, ← place⟩
  | some c =>
    if c.isDigit then fail .backreference ⟨first, (← headSpan).past⟩
    else if c = 'x' ∨ c = 'u' ∨ c = 'U' then readNumber first c
    else if c = 'p' ∨ c = 'P' then readProperty first
    else
      step
      let span := ⟨first, ← place⟩
      if "dswDSW".contains c then return .short span c.isUpper
      else if isEscapable c || "aftnrv".contains c then return .literal ⟨span, c, false⟩
      else if c = 'A' ∨ c = 'z' then return .assertion span false
      else if c = 'b' then readBoundary first
      else if c = 'B' ∨ c = '<' ∨ c = '>' then return .assertion span true
      else fail .escapeUnknown span

/-! ## Classes -/

def classNames : List String :=
  ["alnum", "alpha", "ascii", "blank", "cntrl", "digit", "graph", "lower", "print", "punct",
    "space", "upper", "word", "xdigit"]

/-- A named class at the front of a text: whether it is negated, and its length. -/
def namedClass? : List Char → Option (Bool × Nat)
  | '[' :: ':' :: cs =>
    let (isNegated, cs) := match cs with
      | '^' :: rest => (true, rest)
      | _ => (false, cs)
    let name := cs.takeWhile (· ≠ ':')
    match cs.drop name.length with
    | ':' :: ']' :: _ =>
      if classNames.contains (String.ofList name) then
        some (isNegated, name.length + (if isNegated then 5 else 4))
      else none
    | _ => none
  | _ => none

def readNamed? : Scan (Option ClassItem) := do
  match namedClass? (← get).rest with
  | none => return none
  | some (isNegated, length) =>
    let first ← place
    (List.range length).forM fun _ => step
    return some (.named ⟨first, ← place⟩ isNegated)

/-- A class whose end has not been read. -/
structure OpenClass where
  /-- The stretch of its opening. -/
  opening : Span
  isNegated : Bool
  /-- What stands in front of the last operator. -/
  left : Option ClassItem
  /-- Where the items begin. -/
  first : Place
  items : List ClassItem

namespace OpenClass

def push (o : OpenClass) (item : ClassItem) : OpenClass := { o with items := o.items ++ [item] }

/-- The items since the last operator as one. -/
def united (o : OpenClass) : ClassItem :=
  match o.items with
  | [] => .empty (.point o.first)
  | [item] => item
  | item :: items => .union ⟨item.span.first, ((item :: items).getLastD item).span.past⟩ o.items

/-- All there is so far as one. -/
def closed (o : OpenClass) : ClassItem :=
  match o.left with
  | none => o.united
  | some left => .combined ⟨left.span.first, o.united.span.past⟩ left o.united

/-- Go on behind an operator. -/
def split (o : OpenClass) (first : Place) : OpenClass :=
  { o with left := some o.closed, first, items := [] }

end OpenClass

/-- Read minus signs, which stand for themselves at the front of a class. -/
def readDashes (start : Place) : Nat → List ClassItem → Scan (List ClassItem)
  | 0, items => return items
  | n + 1, items => do
    if (← head?) = some '-' then
      let span ← headSpan
      advance
      if ← isAtEnd then fail .classUnclosed (.point start)
      readDashes start n (items ++ [.literal ⟨span, '-', false⟩])
    else return items

/-- Read the opening of a class. A closing bracket right behind it stands for itself. -/
def openClass : Scan OpenClass := do
  let start ← place
  advance
  if ← isAtEnd then fail .classUnclosed ⟨start, ← place⟩
  let isNegated := (← head?) = some '^'
  if isNegated then
    advance
    if ← isAtEnd then fail .classUnclosed ⟨start, ← place⟩
  let first ← place
  let dashes ← readDashes start (← fuel) []
  let items ←
    if dashes.isEmpty ∧ (← head?) = some ']' then
      let span ← headSpan
      advance
      if ← isAtEnd then fail .classUnclosed ⟨start, ← place⟩
      pure [.literal ⟨span, ']', false⟩]
    else pure dashes
  return { opening := ⟨start, ← place⟩, isNegated, left := none, first, items }

/-- The character behind the next one, less what may be left out. -/
def Cursor.second? (c : Cursor) : Option Char :=
  let rest := c.rest.drop 1
  if c.isLoose then
    match Text.trimStart rest with
    | '#' :: remark => (Text.trimStart remark).head?
    | cs => cs.head?
  else rest.head?

def readClassChar : Scan Tree := do
  match ← head? with
  | some '\\' => readEscape
  | c =>
    let span ← headSpan
    step
    return .literal ⟨span, c.getD '\\', false⟩

/-- A part of a pattern as an item of a class. -/
def Tree.classItem : Tree → Scan ClassItem
  | .literal l => return .literal l
  | .short span isNegated => return .short span isNegated
  | .property span => return .property span
  | tree => fail .classEscape tree.span

/-- A part of a pattern as an end of a range. -/
def Tree.bound : Tree → Scan Literal
  | .literal l => return l
  | tree => fail .classRangeBound tree.span

/-- Read one item of a class or a range. -/
def readRange (opening : Span) : Scan ClassItem := do
  let one ← readClassChar
  skip
  if ← isAtEnd then fail .classUnclosed opening
  let second := (← get).second?
  if (← head?) ≠ some '-' ∨ second = some ']' ∨ second = some '-' then one.classItem
  else
    advance
    if ← isAtEnd then fail .classUnclosed opening
    let two ← readClassChar
    let span := ⟨one.span.first, two.span.past⟩
    let low ← one.bound
    let high ← two.bound
    if high.char < low.char then fail .classRange span
    return .range span low high

/-- The operators between classes: each of these characters twice. -/
def isOperator (c : Char) : Bool := c = '&' || c = '-' || c = '~'

/-- Read the rest of a class: its stretch, whether it is negated, and what it holds. -/
def readClassRest : Nat → OpenClass → Scan (Span × Bool × ClassItem)
  | 0, o => fail .classUnclosed o.opening
  | n + 1, o => do
    skip
    match ← head? with
    | none => fail .classUnclosed o.opening
    | some '[' =>
      match ← readNamed? with
      | some item => readClassRest n (o.push item)
      | none =>
        let (span, isNegated, item) ← readClassRest n (← openClass)
        readClassRest n (o.push (.bracketed span isNegated item))
    | some ']' =>
      step
      return (⟨o.opening.first, ← place⟩, o.isNegated, o.closed)
    | some c =>
      if isOperator c ∧ (← get).rest.tail.head? = some c then
        step
        step
        readClassRest n (o.split (← place))
      else
        let item ← readRange o.opening
        readClassRest n (o.push item)

def readClass : Scan Tree := do
  let count ← fuel
  let (span, isNegated, item) ← readClassRest count (← openClass)
  return .bracketed span isNegated item

/-! ## Groups -/

/-- Read flags up to the character that ends them. -/
def readFlags : Nat → List FlagItem → Scan (List FlagItem)
  | 0, items => return items
  | n + 1, items => do
    match ← head? with
    | none => return items
    | some c =>
      if c = ':' ∨ c = ')' then
        match items.getLast? with
        | some ⟨none, span⟩ => fail .flagDangling span
        | _ => return items
      else
        let span ← headSpan
        let flag ←
          if c = '-' then pure none
          else
            match Flag.ofChar? c with
            | some flag => pure (some flag)
            | none => fail .flagUnknown span
        match items.find? fun item => item.flag = flag with
        | some old =>
          throw ⟨if flag.isNone then .negationRepeated else .flagRepeated, span, some old.span⟩
        | none =>
          step
          if ← isAtEnd then fail .flagUnfinished (← here)
          readFlags n (items ++ [⟨flag, span⟩])

/-- Whether `c` may stand in the name of a group. -/
def isNameChar (isFirst : Bool) (c : Char) : Bool :=
  if isFirst then c = '_' || Text.isLetter c
  else c = '_' || c = '.' || c = '[' || c = ']' || Text.isLetterOrNumeral c

def readNameChars : Nat → List Char → Scan (List Char)
  | 0, name => return name
  | n + 1, name => do
    match ← head? with
    | none => return name
    | some c =>
      if c = '>' then return name
      else
        if !isNameChar name.isEmpty c then fail .nameInvalid (← headSpan)
        step
        readNameChars n (name ++ [c])

/-- Read the name of a group. No two groups have one name. -/
def readName : Scan Unit := do
  if ← isAtEnd then fail .nameUnclosed (← here)
  let first ← place
  let name ← readNameChars (← fuel) []
  let span := ⟨first, ← place⟩
  if ← isAtEnd then fail .nameUnclosed (← here)
  step
  if name.isEmpty then fail .nameEmpty (.point first)
  match (← get).names.lookup name with
  | some old => throw ⟨.nameRepeated, span, some old⟩
  | none => modify fun c => { c with names := (name, span) :: c.names }

/-- What an opening parenthesis begins. -/
inductive Opening where
  /-- Flags for what follows. -/
  | flags (span : Span) (items : List FlagItem)
  /-- A group, which may have flags of its own. -/
  | group (span : Span) (items : List FlagItem)

def readOpening : Scan Opening := do
  let span ← headSpan
  advance
  if ← ["?=", "?!", "?<=", "?<!"].anyM eat then fail .lookAround ⟨span.first, ← place⟩
  let inner ← here
  if ← ["?P<", "?<"].anyM eat then
    readName
    return .group span []
  else if ← eat "?" then
    if ← isAtEnd then fail .groupUnclosed span
    let items ← readFlags (← fuel) []
    let last ← head?
    step
    if last = some ')' then
      if items.isEmpty then fail .repetitionMissing inner
      return .flags ⟨span.first, ← place⟩ items
    else return .group span items
  else return .group span []

/-! ## Repetitions -/

/-- Whether a part can be repeated. -/
def Tree.isRepeatable : Tree → Bool
  | .empty _ => false
  | .flags _ _ => false
  | _ => true

def readWhile (p : Char → Bool) (next : Scan Unit) : Nat → List Char → Scan (List Char)
  | 0, cs => return cs
  | n + 1, cs => do
    match ← head? with
    | none => return cs
    | some c =>
      if p c then
        next
        readWhile p next n (cs ++ [c])
      else return cs

/-- Read a count behind its brace, which nothing closes. -/
def readCount : Scan Tree := do
  let start ← place
  advance
  if ← isAtEnd then fail .countUnclosed ⟨start, ← place⟩
  let _ ← readWhile Text.isBlank step (← fuel) []
  let first ← place
  let digits ← readWhile Text.isDecimal advance (← fuel) []
  let span := ⟨first, ← place⟩
  let _ ← readWhile Text.isBlank advance (← fuel) []
  if ← isAtEnd then fail .countUnclosed ⟨start, ← place⟩
  match Text.numeral? 10 digits with
  | none => fail .countEmpty span
  | some n =>
    if UInt32.size ≤ n then fail .countInvalid span
    else fail .countUnclosed ⟨start, ← place⟩

/-- Read a repetition mark behind `tree`. A question mark right behind it belongs to it. -/
def readRepetition (tree : Option Tree) : Scan Tree := do
  match tree.filter Tree.isRepeatable with
  | none => fail .repetitionMissing (← here)
  | some tree =>
    if (← head?) = some '\x7b' then readCount
    else
      step
      if (← head?) = some '?' then step
      return .repetition ⟨tree.span.first, ← place⟩ tree

/-! ## Patterns -/

/-- What has been read of a group, or of the whole pattern. -/
structure Partial where
  /-- The opening of the group. -/
  group : Option Span
  start : Place
  branches : List Tree
  /-- Where the last branch starts. -/
  first : Place
  items : List Tree

namespace Partial

def opening (group : Option Span) (start : Place) : Partial := ⟨group, start, [], start, []⟩

def push (p : Partial) (tree : Tree) : Partial := { p with items := p.items ++ [tree] }

/-- The last branch, which ends at `past`. -/
def branch (p : Partial) (past : Place) : Tree :=
  match p.items with
  | [] => .empty ⟨p.first, past⟩
  | [tree] => tree
  | trees => .sequence ⟨p.first, past⟩ trees

/-- Go on behind a bar. -/
def split (p : Partial) (past first : Place) : Partial :=
  { p with branches := p.branches ++ [p.branch past], first, items := [] }

def closed (p : Partial) (past : Place) : Tree :=
  match p.branches with
  | [] => p.branch past
  | branches => .alternation ⟨p.start, past⟩ (branches ++ [p.branch past])

end Partial

/-- Let flags switch whether white space is left out. -/
def applyLoose (items : List FlagItem) : Scan Unit :=
  match switched? .loose items with
  | some isLoose => modify fun c => { c with isLoose }
  | none => return

/-- Read up to the end of a group, or of the pattern. -/
def readBranches : Nat → Partial → Scan Tree
  | 0, p => return p.closed (← place)
  | n + 1, p => do
    skip
    match ← head? with
    | none =>
      match p.group with
      | some span => fail .groupUnclosed span
      | none => return p.closed (← place)
    | some '(' =>
      match ← readOpening with
      | .flags span items =>
        applyLoose items
        readBranches n (p.push (.flags span items))
      | .group span items =>
        let wasLoose := (← get).isLoose
        applyLoose items
        let tree ← readBranches n (.opening (some span) (← place))
        modify fun c => { c with isLoose := wasLoose }
        step
        readBranches n (p.push (.group ⟨span.first, ← place⟩ items tree))
    | some ')' =>
      match p.group with
      | some _ => return p.closed (← place)
      | none => fail .groupUnopened (← headSpan)
    | some '|' =>
      let past ← place
      step
      readBranches n (p.split past (← place))
    | some '[' =>
      let tree ← readClass
      readBranches n (p.push tree)
    | some '\\' =>
      let tree ← readEscape
      readBranches n (p.push tree)
    | some c =>
      if c = '?' ∨ c = '*' ∨ c = '+' ∨ c = '\x7b' then
        let tree ← readRepetition p.items.getLast?
        readBranches n { p with items := p.items.dropLast ++ [tree] }
      else
        let span ← headSpan
        step
        let tree :=
          if c = '.' then .dot span
          else if c = '^' ∨ c = '$' then .assertion span false
          else .literal ⟨span, c, false⟩
        readBranches n (p.push tree)

/-- The deepest that parts may be nested. -/
def nestingLimit : Nat := 250

/-- Read a pattern. -/
def Tree.ofPattern (pattern : List Char) : Except Fault Tree := do
  let (tree, _) ← (readBranches (pattern.length + 1) (.opening none .start)).run (.ofPattern pattern)
  match tree.excess? nestingLimit with
  | some span => .error ⟨.nesting nestingLimit, span, none⟩
  | none => .ok tree

end GuestNic.Pattern
