import GuestNic.Json.Fault
import GuestNic.Text.Digit

/-!
# JSON strings

Reading a string behind its opening quote, and writing strings. What is read is the rest of the
text, so each reader answers with its value and what is left.
-/

namespace GuestNic.Json

/-- White space between the parts of a JSON text. -/
def isSpace (c : Char) : Bool := c = ' ' || c = '\n' || c = '\t' || c = '\r'

def skipSpace (cs : List Char) : List Char := cs.dropWhile isSpace

theorem skipSpace_length_le (cs : List Char) : (skipSpace cs).length ≤ cs.length :=
  (List.dropWhile_sublist _).length_le

/-! ## Escapes -/

/-- The size of a text in UTF-8. -/
def utf8Size (cs : List Char) : Nat := cs.foldl (fun n c => n + c.utf8Size) 0

/-- Read four hexadecimal digits. -/
def readHex4 (cs : List Char) : Except Fault (Nat × List Char) :=
  if utf8Size cs < 4 then .error .endInText
  else
    match (cs.take 4).mapM (Text.digit? 16) with
    | some [a, b, c, d] => .ok (Text.ofDigits 16 0 [a, b, c, d], cs.drop 4)
    | _ => .error .invalidEscape

/-- Whether a code unit opens a pair of surrogates. -/
def isLeading (n : Nat) : Bool := 0xd800 ≤ n && n ≤ 0xdbff

/-- Whether a code unit closes a pair of surrogates. -/
def isTrailing (n : Nat) : Bool := 0xdc00 ≤ n && n ≤ 0xdfff

/-- Read the second escape of a pair of surrogates, and join them. -/
def readTrailing (leading : Nat) : List Char → Except Fault (Char × List Char)
  | '\\' :: 'u' :: cs =>
    match readHex4 cs with
    | .error e => .error e
    | .ok (n, rest) =>
      if isTrailing n then
        .ok (Char.ofNat ((leading - 0xd800) * 0x400 + (n - 0xdc00) + 0x10000), rest)
      else .error .loneSurrogate
  | ['\\'] => .error .endInText
  | [] => .error .endInText
  | _ => .error .unfinishedSurrogate

/-- Read the character that a numeric escape stands for. -/
def readUnicode (cs : List Char) : Except Fault (Char × List Char) :=
  match readHex4 cs with
  | .error e => .error e
  | .ok (n, rest) =>
    if isTrailing n then .error .loneSurrogate
    else if isLeading n then readTrailing n rest
    else .ok (Char.ofNat n, rest)

/-- Read what follows a backslash. -/
def readEscape : List Char → Except Fault (Char × List Char)
  | [] => .error .endInText
  | c :: cs =>
    match c with
    | '"' => .ok ('"', cs)
    | '\\' => .ok ('\\', cs)
    | '/' => .ok ('/', cs)
    | 'b' => .ok ('\x08', cs)
    | 'f' => .ok ('\x0c', cs)
    | 'n' => .ok ('\n', cs)
    | 'r' => .ok ('\r', cs)
    | 't' => .ok ('\t', cs)
    | 'u' => readUnicode cs
    | _ => .error .invalidEscape

theorem readHex4_length {cs rest : List Char} {n : Nat} (h : readHex4 cs = .ok (n, rest)) :
    rest.length ≤ cs.length := by
  unfold readHex4 at h
  split at h
  · cases h
  · split at h
    · injection h with h
      injection h with _ h
      simp [← h]
    · cases h

theorem readTrailing_length {leading : Nat} {cs rest : List Char} {c : Char}
    (h : readTrailing leading cs = .ok (c, rest)) : rest.length ≤ cs.length := by
  unfold readTrailing at h
  split at h
  · split at h
    · cases h
    · rename_i hr
      split at h
      · injection h with h
        injection h with _ h
        have := readHex4_length hr
        simp [← h]; omega
      · cases h
  all_goals cases h

theorem readUnicode_length {cs rest : List Char} {c : Char}
    (h : readUnicode cs = .ok (c, rest)) : rest.length ≤ cs.length := by
  unfold readUnicode at h
  split at h
  · cases h
  · rename_i hr
    have := readHex4_length hr
    split at h
    · cases h
    · split at h
      · have := readTrailing_length h; omega
      · injection h with h
        injection h with _ h
        subst h
        assumption

theorem readEscape_length {cs rest : List Char} {c : Char} (h : readEscape cs = .ok (c, rest)) :
    rest.length < cs.length := by
  unfold readEscape at h
  split at h
  · cases h
  · split at h
    case h_9 => have := readUnicode_length h; simp; omega
    case h_10 => cases h
    all_goals
      injection h with h
      injection h with _ h
      simp [← h]

theorem exists_of_map_ok {ε α β : Type} {f : α → β} {x : Except ε α} {b : β}
    (h : x.map f = .ok b) : ∃ a, x = .ok a ∧ f a = b := by
  cases x with
  | error e => cases h
  | ok a => exact ⟨a, rfl, by injection h⟩

/-! ## Reading -/

/-- Read a string up to its closing quote. -/
def readText (cs : List Char) : Except Fault (List Char × List Char) :=
  match cs with
  | [] => .error .endInText
  | c :: rest =>
    if c = '"' then .ok ([], rest)
    else if c = '\\' then
      match h : readEscape rest with
      | .error e => .error e
      | .ok (d, rest) =>
        have := readEscape_length h
        (readText rest).map fun p => (d :: p.1, p.2)
    else if c.toNat < 0x20 then .error .controlCharacter
    else (readText rest).map fun p => (c :: p.1, p.2)
termination_by cs.length
decreasing_by all_goals simp_all; try omega

theorem readText_length {cs text rest : List Char} (h : readText cs = .ok (text, rest)) :
    rest.length < cs.length := by
  fun_induction readText cs generalizing text rest with
  | case1 => cases h
  | case2 =>
    injection h with h
    injection h with _ h
    simp [← h]
  | case3 => cases h
  | case4 _ _ _ _ hlen _ ih =>
    obtain ⟨p, hp, h⟩ := exists_of_map_ok h
    injection h with _ h
    subst h
    have := ih hp
    simp; omega
  | case5 => cases h
  | case6 _ _ _ _ _ ih =>
    obtain ⟨p, hp, h⟩ := exists_of_map_ok h
    injection h with _ h
    subst h
    have := ih hp
    simp; omega

/-! ## Writing -/

/-- The written form of a control character, by its number. -/
def numericEscape (n : Nat) : List Char :=
  ['\\', 'u', '0', '0', Nat.digitChar (n / 16), Nat.digitChar (n % 16)]

/-- The written form of a character: quotes, backslashes and control characters are escaped. -/
def writeChar (c : Char) : List Char :=
  if c = '"' then ['\\', '"']
  else if c = '\\' then ['\\', '\\']
  else if c = '\x08' then ['\\', 'b']
  else if c = '\x0c' then ['\\', 'f']
  else if c = '\n' then ['\\', 'n']
  else if c = '\r' then ['\\', 'r']
  else if c = '\t' then ['\\', 't']
  else if c.toNat < 0x20 then numericEscape c.toNat
  else [c]

/-- A string in quotes. -/
def writeText (cs : List Char) : List Char := '"' :: cs.flatMap writeChar ++ ['"']

end GuestNic.Json
