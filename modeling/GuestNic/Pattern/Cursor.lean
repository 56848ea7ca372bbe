import GuestNic.Pattern.Fault
import GuestNic.Text.Blank

/-!
# Cursors

The reader's place in a pattern, with what it has to remember on the way.
-/

namespace GuestNic.Pattern

/-- Where reading stands. -/
structure Cursor where
  /-- What is still to be read. -/
  rest : List Char
  place : Place
  /-- White space and remarks are left out. -/
  isLoose : Bool
  /-- The names of the groups so far. -/
  names : List (List Char × Span)

namespace Cursor

def ofPattern (cs : List Char) : Cursor := ⟨cs, .start, false, []⟩

/-- Read one character. -/
def step (c : Cursor) : Cursor :=
  match c.rest with
  | [] => c
  | x :: rest => { c with rest, place := c.place.after x }

/-- Leave out white space and remarks, which go from `#` to the end of their line. -/
def skipFrom (place : Place) (inRemark : Bool) : List Char → Place × List Char
  | [] => (place, [])
  | c :: cs =>
    if inRemark then skipFrom (place.after c) (c ≠ '\n') cs
    else if Text.isBlank c then skipFrom (place.after c) false cs
    else if c = '#' then skipFrom (place.after c) true cs
    else (place, c :: cs)

def skip (c : Cursor) : Cursor :=
  if c.isLoose then
    let (place, rest) := skipFrom c.place false c.rest
    { c with place, rest }
  else c

end Cursor

/-! ## Reading with a cursor -/

abbrev Scan := StateT Cursor (Except Fault)

namespace Scan

def head? : Scan (Option Char) := return (← get).rest.head?

def isAtEnd : Scan Bool := return (← get).rest.isEmpty

def place : Scan Place := return (← get).place

/-- The empty stretch in front of the next character. -/
def here : Scan Span := return .point (← get).place

/-- The stretch of the next character. -/
def headSpan : Scan Span := return ⟨(← get).place, (← get).step.place⟩

def fail {α : Type} (flaw : Flaw) (span : Span) : Scan α := throw ⟨flaw, span, none⟩

def step : Scan Unit := modify Cursor.step

def skip : Scan Unit := modify Cursor.skip

/-- Read one character and what may be left out behind it. -/
def advance : Scan Unit := modify fun c => c.step.skip

/-- Read `lead` if it comes next. -/
def eat (lead : String) : Scan Bool := do
  if lead.toList.isPrefixOf (← get).rest then
    lead.toList.forM fun _ => step
    return true
  else return false

/-- The longest a reader can go on from here. -/
def fuel : Scan Nat := return (← get).rest.length + 1

end Scan
end GuestNic.Pattern
