/-!
# Plain text

Text for a terminal may hold control sequences. `plain` leaves them out, and with them the control
characters that are not white space: what is left is what a reader of a file should see.
-/

namespace GuestNic.Terminal

/-- Text that a terminal sets off from what stands around it. -/
def marked (s : String) : String := "\x1b[1m" ++ s ++ "\x1b[0m"

/-! ## Control sequences -/

/-- Where a reader of terminal text stands. -/
inductive Mode where
  /-- Outside of control sequences. -/
  | ground
  /-- Behind an escape character. -/
  | escape
  /-- Behind an escape character and one of the characters from space to slash. -/
  | escapeTail
  /-- In the parameters of a control sequence. -/
  | control
  /-- In a string that a bell ends. -/
  | title
  /-- In any other string. -/
  | text
deriving DecidableEq, Repr

/-- Whether the last of the strings ends inside `c`, as one byte in it is their end mark. -/
def holdsEndMark (c : Char) : Bool := c.toString.toUTF8.toList.contains 0x9c

/-- The mode behind `c`. -/
def Mode.next (m : Mode) (c : Char) : Mode :=
  if c = '\x18' ∨ c = '\x1a' then .ground
  else if c = '\x1b' then .escape
  else
    match m with
    | .ground => .ground
    | .escape =>
      if c < ' ' ∨ '~' < c then .escape
      else if c ≤ '/' then .escapeTail
      else if c = '[' then .control
      else if c = ']' then .title
      else if c = 'P' ∨ c = 'X' ∨ c = '^' ∨ c = '_' then .text
      else .ground
    | .escapeTail => if '0' ≤ c ∧ c ≤ '~' then .ground else .escapeTail
    | .control => if '@' ≤ c ∧ c ≤ '~' then .ground else .control
    | .title => if c = '\x07' then .ground else .title
    | .text => if holdsEndMark c then .ground else .text

/-- The control characters that are white space. -/
def isBlankControl (c : Char) : Bool := c = '\t' || c = '\n' || c = '\x0c' || c = '\r'

/-- Whether `c` is kept. White space is kept inside a control sequence too, but not in a string. -/
def Mode.keeps (m : Mode) (c : Char) : Bool :=
  match m with
  | .ground => (' ' ≤ c && c ≠ '\x7f') || isBlankControl c
  | .escape => isBlankControl c
  | .escapeTail => isBlankControl c
  | .control => isBlankControl c
  | .title => false
  | .text => false

/-! ## Leaving them out -/

/-- Leave control sequences out. While characters are kept one after the other (`passing`) a control
sequence that white space has broken off rests; it goes on behind them. -/
def plainFrom (m : Mode) (passing : Bool) : List Char → List Char
  | [] => []
  | c :: cs =>
    if passing then
      if Mode.ground.keeps c then
        c :: plainFrom (if c.toNat < 0x80 then m else .ground) true cs
      else plainFrom (m.next c) false cs
    else if m.keeps c then c :: plainFrom (m.next c) true cs
    else plainFrom (m.next c) false cs

/-- A text without control sequences. -/
def plain (s : String) : String := String.ofList (plainFrom .ground false s.toList)

end GuestNic.Terminal
