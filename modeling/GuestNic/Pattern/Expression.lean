import GuestNic.Pattern.Place

/-!
# Expressions

A pattern taken apart, with the stretch in which each part stands.
-/

namespace GuestNic.Pattern

/-- The modes that a pattern can switch. -/
inductive Flag where
  | caseless
  | lines
  | dotAll
  | swapGreed
  | unicode
  | carriage
  | loose
deriving DecidableEq, Repr

def Flag.ofChar? : Char → Option Flag
  | 'i' => some .caseless
  | 'm' => some .lines
  | 's' => some .dotAll
  | 'U' => some .swapGreed
  | 'u' => some .unicode
  | 'R' => some .carriage
  | 'x' => some .loose
  | _ => none

/-- One item in a list of flags: `none` stands for the minus sign, behind which flags are switched
off. -/
structure FlagItem where
  flag : Option Flag
  span : Span
deriving DecidableEq, Repr

/-- How a list of flags switches `flag`, if it does. -/
def switched? (flag : Flag) : List FlagItem → Option Bool
  | items =>
    match items.findIdx? fun item => item.flag = some flag with
    | none => none
    | some i => some !((items.take i).any fun item => item.flag.isNone)

/-- A character that stands for itself. -/
structure Literal where
  span : Span
  char : Char
  /-- It is written as `\x` with two digits, which may also stand for a byte. -/
  isByte : Bool
deriving DecidableEq, Repr

/-- What a character class holds. -/
inductive ClassItem where
  | empty (span : Span)
  | literal (l : Literal)
  | range (span : Span) (first last : Literal)
  /-- A class such as `[:alpha:]`. -/
  | named (span : Span) (isNegated : Bool)
  /-- A class such as `\d`. -/
  | short (span : Span) (isNegated : Bool)
  /-- A class such as `\pL`. -/
  | property (span : Span)
  | bracketed (span : Span) (isNegated : Bool) (item : ClassItem)
  | union (span : Span) (items : List ClassItem)
  /-- Two classes with an operator between them. -/
  | combined (span : Span) (left right : ClassItem)

def ClassItem.span : ClassItem → Span
  | .empty span => span
  | .literal l => l.span
  | .range span _ _ => span
  | .named span _ => span
  | .short span _ => span
  | .property span => span
  | .bracketed span _ _ => span
  | .union span _ => span
  | .combined span _ _ => span

/-- A pattern taken apart. -/
inductive Tree where
  | empty (span : Span)
  | flags (span : Span) (items : List FlagItem)
  | literal (l : Literal)
  | dot (span : Span)
  /-- A place between characters; word boundaries depend on the class of letters. -/
  | assertion (span : Span) (isWordBoundary : Bool)
  | short (span : Span) (isNegated : Bool)
  | property (span : Span)
  | bracketed (span : Span) (isNegated : Bool) (item : ClassItem)
  | repetition (span : Span) (tree : Tree)
  | group (span : Span) (items : List FlagItem) (tree : Tree)
  | alternation (span : Span) (trees : List Tree)
  | sequence (span : Span) (trees : List Tree)

def Tree.span : Tree → Span
  | .empty span => span
  | .flags span _ => span
  | .literal l => l.span
  | .dot span => span
  | .assertion span _ => span
  | .short span _ => span
  | .property span => span
  | .bracketed span _ _ => span
  | .repetition span _ => span
  | .group span _ _ => span
  | .alternation span _ => span
  | .sequence span _ => span

/-! ## Nesting -/

mutual

/-- The first part that is nested in more than `room` others. -/
def ClassItem.excess? (room : Nat) : ClassItem → Option Span
  | .bracketed span _ item =>
    match room with
    | 0 => some span
    | room + 1 => item.excess? room
  | .union span items =>
    match room with
    | 0 => some span
    | room + 1 => ClassItem.excessOf? room items
  | .combined span left right =>
    match room with
    | 0 => some span
    | room + 1 => (left.excess? room).or (right.excess? room)
  | _ => none

def ClassItem.excessOf? (room : Nat) : List ClassItem → Option Span
  | [] => none
  | item :: rest => (item.excess? room).or (ClassItem.excessOf? room rest)

end

mutual

/-- The first part that is nested in more than `room` others. -/
def Tree.excess? (room : Nat) : Tree → Option Span
  | .bracketed span _ item =>
    match room with
    | 0 => some span
    | room + 1 => item.excess? room
  | .repetition span tree =>
    match room with
    | 0 => some span
    | room + 1 => tree.excess? room
  | .group span _ tree =>
    match room with
    | 0 => some span
    | room + 1 => tree.excess? room
  | .alternation span trees =>
    match room with
    | 0 => some span
    | room + 1 => Tree.excessOf? room trees
  | .sequence span trees =>
    match room with
    | 0 => some span
    | room + 1 => Tree.excessOf? room trees
  | _ => none

def Tree.excessOf? (room : Nat) : List Tree → Option Span
  | [] => none
  | tree :: rest => (tree.excess? room).or (Tree.excessOf? room rest)

end

end GuestNic.Pattern
