/-!
# Lines

Text cut at its line feeds. A carriage return in front of a line feed belongs to the line's end, and
nothing behind the last line feed is no line.
-/

namespace GuestNic.Text

/-- The line that ends here: `acc` backwards, less a carriage return at its end. -/
def closeLine : List Char → List Char
  | '\r' :: acc => acc.reverse
  | acc => acc.reverse

/-- The lines of `acc`, read backwards, and what follows it. -/
def linesFrom (acc : List Char) : List Char → List (List Char)
  | [] => if acc.isEmpty then [] else [acc.reverse]
  | c :: cs => if c = '\n' then closeLine acc :: linesFrom [] cs else linesFrom (c :: acc) cs

/-- The lines of a text. -/
def lines (s : String) : List String := (linesFrom [] s.toList).map String.ofList

/-- The pieces between line feeds. -/
def pieces : List Char → List (List Char)
  | [] => [[]]
  | c :: cs =>
    if c = '\n' then [] :: pieces cs
    else
      match pieces cs with
      | [] => [[c]]
      | piece :: rest => (c :: piece) :: rest

/-- Put `indent` in front of every line but the first. -/
def indented (indent s : String) : String :=
  ("\n" ++ indent).intercalate ((pieces s.toList).map String.ofList)

end GuestNic.Text
