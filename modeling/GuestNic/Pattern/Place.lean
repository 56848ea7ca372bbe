/-!
# Places

Where something stands in a pattern: the line and the column, both counted from one.
-/

namespace GuestNic.Pattern

structure Place where
  line : Nat
  column : Nat
deriving DecidableEq, Repr

namespace Place

def start : Place := ⟨1, 1⟩

/-- The place behind `c`. -/
def after (p : Place) (c : Char) : Place :=
  if c = '\n' then ⟨p.line + 1, 1⟩ else ⟨p.line, p.column + 1⟩

/-- Whether `p` stands in front of `q`. -/
def precedes (p q : Place) : Bool :=
  p.line < q.line || (p.line == q.line && p.column < q.column)

end Place

/-- A stretch of a pattern, from its first place to the place behind its last. -/
structure Span where
  first : Place
  past : Place
deriving DecidableEq, Repr

namespace Span

/-- The empty stretch at a place. -/
def point (p : Place) : Span := ⟨p, p⟩

def isOneLine (s : Span) : Bool := s.first.line == s.past.line

/-- Whether `s` comes before `t` in the order of their starts, then of their ends. -/
def precedes (s t : Span) : Bool :=
  s.first.precedes t.first || (s.first == t.first && s.past.precedes t.past)

end Span
end GuestNic.Pattern
