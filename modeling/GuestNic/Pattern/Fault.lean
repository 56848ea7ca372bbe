import GuestNic.Pattern.Place
import GuestNic.Text.Lines

/-!
# Faults of patterns

What can be wrong with a pattern, and the report that shows where. A report repeats the pattern and
marks the place under it; a pattern of several lines is shown between dividers, with line numbers.
-/

namespace GuestNic.Pattern

/-- What is wrong. -/
inductive Flaw where
  | classEscape
  | classRange
  | classRangeBound
  | classUnclosed
  | countEmpty
  | countInvalid
  | countUnclosed
  | escapeDigit
  | escapeInvalid
  | escapeUnfinished
  | escapeUnknown
  | flagDangling
  | flagRepeated
  | flagUnfinished
  | flagUnknown
  | lookAround
  | nameEmpty
  | nameInvalid
  | nameRepeated
  | nameUnclosed
  | negationRepeated
  | nesting (limit : Nat)
  | backreference
  | groupUnclosed
  | groupUnopened
  | repetitionMissing
  | boundaryUnclosed
  | boundaryUnfinished
  | propertyInvalid
  /-- Names of characters are not allowed where bytes are meant. -/
  | propertyForBytes
  /-- The pattern could match bytes that are no text. -/
  | notText
  | propertyUnknown
  | shortClassUnknown
  | caseUnknown
deriving DecidableEq, Repr

def Flaw.message : Flaw → String
  | .classEscape => "invalid escape sequence found in character class"
  | .classRange => "invalid character class range, the start must be <= the end"
  | .classRangeBound => "invalid range boundary, must be a literal"
  | .classUnclosed => "unclosed character class"
  | .countEmpty => "repetition quantifier expects a valid decimal"
  | .countInvalid => "decimal literal invalid"
  | .countUnclosed => "unclosed counted repetition"
  | .escapeDigit => "invalid hexadecimal digit"
  | .escapeInvalid => "hexadecimal literal is not a Unicode scalar value"
  | .escapeUnfinished => "incomplete escape sequence, reached end of pattern prematurely"
  | .escapeUnknown => "unrecognized escape sequence"
  | .flagDangling => "dangling flag negation operator"
  | .flagRepeated => "duplicate flag"
  | .flagUnfinished => "expected flag but got end of regex"
  | .flagUnknown => "unrecognized flag"
  | .lookAround => "look-around, including look-ahead and look-behind, is not supported"
  | .nameEmpty => "empty capture group name"
  | .nameInvalid => "invalid capture group character"
  | .nameRepeated => "duplicate capture group name"
  | .nameUnclosed => "unclosed capture group name"
  | .negationRepeated => "flag negation operator repeated"
  | .nesting limit =>
    s!"exceed the maximum number of nested parentheses/brackets ({limit})"
  | .backreference => "backreferences are not supported"
  | .groupUnclosed => "unclosed group"
  | .groupUnopened => "unopened group"
  | .repetitionMissing => "repetition operator missing expression"
  | .boundaryUnclosed =>
    "special word boundary assertion is either unclosed or contains an invalid character"
  | .boundaryUnfinished =>
    "found either the beginning of a special word boundary or a bounded repetition on a \\b " ++
      "with an opening brace, but no closing brace"
  | .propertyInvalid => "invalid Unicode character class"
  | .propertyForBytes => "Unicode not allowed here"
  | .notText => "pattern can match invalid UTF-8"
  | .propertyUnknown => "Unicode property not found"
  | .shortClassUnknown =>
    "Unicode-aware Perl class not found (make sure the unicode-perl feature is enabled)"
  | .caseUnknown =>
    "Unicode-aware case insensitivity matching is not available " ++
      "(make sure the unicode-case feature is enabled)"

/-- A flaw, where it stands, and for something that stands there twice the first place. -/
structure Fault where
  flaw : Flaw
  span : Span
  earlier : Option Span
deriving DecidableEq, Repr

/-! ## Reports -/

namespace Fault

/-- The stretches to show, in order. -/
def spans (f : Fault) : List Span :=
  match f.earlier with
  | none => [f.span]
  | some earlier => if f.span.precedes earlier then [f.span, earlier] else [earlier, f.span]

def blanks (n : Nat) : String := String.ofList (List.replicate n ' ')

/-- The marks for stretches of one line, from the column `column` on. Even an empty stretch has one
mark. -/
def marksFrom (column : Nat) : List Span → String
  | [] => ""
  | s :: rest =>
    let gap := s.first.column - column
    let size := max 1 (s.past.column - s.first.column)
    blanks gap ++ String.ofList (List.replicate size '^') ++ marksFrom (column + gap + size) rest

/-- The width of line numbers; a single line has none. -/
def numberWidth (lineCount : Nat) : Nat := if lineCount ≤ 1 then 0 else (toString lineCount).length

/-- The lines of the pattern, each with the marks that belong under it. -/
def notated (pattern : String) (f : Fault) : List String :=
  let lines := Text.lines pattern
  let width := numberWidth (lines.length + if pattern.endsWith "\n" then 1 else 0)
  (lines.zip (List.range lines.length)).flatMap fun (line, i) =>
    let number := toString (i + 1)
    let lead := if width = 0 then blanks 4 else blanks (width - number.length) ++ number ++ ": "
    let marked := f.spans.filter fun s => s.isOneLine && s.first.line == i + 1
    let marks := blanks (if width = 0 then 4 else width + 2) ++ marksFrom 1 marked
    (lead ++ line) :: (if marked.isEmpty then [] else [marks])

/-- What is told of a stretch of several lines. -/
def stretchNote (s : Span) : String :=
  s!"on line {s.first.line} (column {s.first.column}) through line {s.past.line} " ++
    s!"(column {s.past.column - 1})"

/-- The report on a fault of `pattern`. -/
def report (pattern : String) (f : Fault) : String :=
  let shown := f.notated pattern
  let divider := String.ofList (List.replicate 79 '~')
  let long := f.spans.filter fun s => !s.isOneLine
  let middle :=
    if pattern.contains '\n' then divider :: shown ++ [divider] ++ long.map stretchNote else shown
  "\n".intercalate ("regex parse error:" :: middle ++ ["error: " ++ f.flaw.message])

end Fault
end GuestNic.Pattern
