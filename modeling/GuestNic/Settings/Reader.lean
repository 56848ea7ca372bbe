import GuestNic.Json.Number
import GuestNic.Json.Text
import GuestNic.Settings.Key

/-!
# Reading settings

Settings are a JSON object with the preference keys, each at most once and no others, or a JSON
array of the preferences in their order. Reading goes from left to right and stops at the first
fault.
-/

namespace GuestNic.Settings

open GuestNic.Json

/-! ## Values -/

def expectedPort : Expectation := ⟨"u16"⟩
def expectedFlag : Expectation := ⟨"a boolean"⟩
def expectedText : Expectation := ⟨"a string"⟩
def expectedSequence : Expectation := ⟨"a sequence"⟩
def expectedSettings : Expectation := ⟨"struct EtherConfig"⟩

/-- Read the rest of a word such as `null`. -/
def readWord (word : String) (cs : List Char) : Except Fault (List Char) :=
  go word.toList cs
where
  go : List Char → List Char → Except Fault (List Char)
    | [], cs => .ok cs
    | _ :: _, [] => .error .endInValue
    | w :: ws, c :: cs => if c = w then go ws cs else .error .expectedWord

/-- The fault of a value of the wrong kind. The value is read as far as its kind is in doubt. -/
def mismatch (expected : Expectation) (cs : List Char) : Fault :=
  let found : Except Fault Found :=
    match cs with
    | 'n' :: cs => (readWord "ull" cs).map fun _ => .null
    | 't' :: cs => (readWord "rue" cs).map fun _ => .boolean true
    | 'f' :: cs => (readWord "alse" cs).map fun _ => .boolean false
    | '"' :: cs => (readText cs).map fun p => .text (String.ofList p.1)
    | '[' :: _ => .ok .sequence
    | '\x7b' :: _ => .ok .map
    | '-' :: cs => (readNumber true cs).map fun p => p.1.found
    | c :: cs =>
      if Text.isDecimal c then (readNumber false (c :: cs)).map fun p => p.1.found
      else .error .expectedValue
    | [] => .error .expectedValue
  match found with
  | .ok found => .invalidType found expected
  | .error e => e

def readString (cs : List Char) : Except Fault (String × List Char) :=
  match skipSpace cs with
  | [] => .error .endInValue
  | '"' :: cs => (readText cs).map fun p => (String.ofList p.1, p.2)
  | cs => .error (mismatch expectedText cs)

def readOptional (cs : List Char) : Except Fault (Option String × List Char) :=
  match skipSpace cs with
  | 'n' :: cs => (readWord "ull" cs).map fun cs => (none, cs)
  | cs => (readString cs).map fun p => (some p.1, p.2)

def readFlag (cs : List Char) : Except Fault (Bool × List Char) :=
  match skipSpace cs with
  | [] => .error .endInValue
  | 't' :: cs => (readWord "rue" cs).map fun cs => (true, cs)
  | 'f' :: cs => (readWord "alse" cs).map fun cs => (false, cs)
  | cs => .error (mismatch expectedFlag cs)

/-- A number as a port. -/
def portOf : Number → Except Fault UInt16
  | .natural n =>
    if n < 65536 then .ok n.toUInt16 else .error (.invalidValue (.integer n) expectedPort)
  | .negative n => .error (.invalidValue (.integer n) expectedPort)
  | .float x => .error (.invalidType (.float x) expectedPort)

def readPort (cs : List Char) : Except Fault (UInt16 × List Char) :=
  let port := fun p : Number × List Char => (portOf p.1).map fun port => (port, p.2)
  match skipSpace cs with
  | [] => .error .endInValue
  | '-' :: cs => (readNumber true cs).bind port
  | c :: cs =>
    if Text.isDecimal c then (readNumber false (c :: cs)).bind port
    else .error (mismatch expectedPort (c :: cs))

/-! ## Lists -/

/-- Go to the next element of a list: `none` at the closing bracket, which is left, or the text of
the element. -/
def nextElement (isFirst : Bool) (cs : List Char) : Except Fault (Option (List Char)) :=
  match skipSpace cs with
  | [] => .error .endInList
  | ']' :: _ => .ok none
  | c :: cs =>
    if isFirst then .ok (some (c :: cs))
    else if c = ',' then
      match skipSpace cs with
      | [] => .error .endInValue
      | ']' :: _ => .error .trailingComma
      | cs => .ok (some cs)
    else .error .expectedCommaOrBracket

/-- Read the closing bracket of a list. -/
def closeList (cs : List Char) : Except Fault (List Char) :=
  match skipSpace cs with
  | [] => .error .endInList
  | ']' :: cs => .ok cs
  | ',' :: cs =>
    match skipSpace cs with
    | ']' :: _ => .error .trailingComma
    | _ => .error .trailingCharacters
  | _ => .error .trailingCharacters

theorem readString_length {cs rest : List Char} {s : String} (h : readString cs = .ok (s, rest)) :
    rest.length < cs.length := by
  unfold readString at h
  have hs := skipSpace_length_le cs
  split at h
  · cases h
  · rename_i heq
    obtain ⟨p, hp, h⟩ := exists_of_map_ok h
    injection h with _ h
    subst h
    have := readText_length hp
    rw [heq] at hs
    simp at hs; omega
  · cases h

theorem nextElement_length {isFirst : Bool} {cs next : List Char}
    (h : nextElement isFirst cs = .ok (some next)) : next.length ≤ cs.length := by
  unfold nextElement at h
  have hs := skipSpace_length_le cs
  split at h
  · cases h
  · cases h
  · rename_i tail _ heq
    rw [heq] at hs
    split at h
    · injection h with h
      injection h with h
      rw [← h]; exact hs
    · split at h
      · have hr := skipSpace_length_le tail
        split at h
        · cases h
        · cases h
        · injection h with h
          injection h with h
          rw [← h]
          simp at hs; omega
      · cases h

/-- Read the strings of a list up to its closing bracket. -/
def readStrings (isFirst : Bool) (cs : List Char) : Except Fault (List String × List Char) :=
  match hn : nextElement isFirst cs with
  | .error e => .error e
  | .ok none => .ok ([], cs)
  | .ok (some next) =>
    match hs : readString next with
    | .error e => .error e
    | .ok (s, rest) =>
      have : rest.length < cs.length :=
        Nat.lt_of_lt_of_le (readString_length hs) (nextElement_length hn)
      (readStrings false rest).map fun p => (s :: p.1, p.2)
termination_by cs.length

def readList (cs : List Char) : Except Fault (List String × List Char) :=
  match skipSpace cs with
  | [] => .error .endInValue
  | '[' :: cs =>
    (readStrings true cs).bind fun p => (closeList p.2).map fun rest => (p.1, rest)
  | cs => .error (mismatch expectedSequence cs)

/-! ## Objects and arrays -/

/-- Read the value of one preference into the settings. -/
def readValue (s : Settings) (key : Key) (cs : List Char) : Except Fault (Settings × List Char) :=
  match key with
  | .ether => (readOptional cs).map fun p => ({ s with link := p.1 }, p.2)
  | .redir => (readList cs).map fun p => ({ s with rules := p.1 }, p.2)
  | .udptunnel => (readFlag cs).map fun p => ({ s with tunnel := p.1 }, p.2)
  | .udpport => (readPort cs).map fun p => ({ s with tunnelPort := p.1 }, p.2)
  | .nonet => (readFlag cs).map fun p => ({ s with disabled := p.1 }, p.2)

/-- Go to the next member of an object: `none` at the closing brace, which is read, or the text
behind the opening quote of its key. -/
def nextMember (isFirst : Bool) (cs : List Char) :
    Except Fault (List Char ⊕ List Char) :=
  let key : List Char → Except Fault (List Char ⊕ List Char)
    | [] => .error .endInValue
    | '"' :: cs => .ok (.inr cs)
    | '\x7d' :: _ => .error .trailingComma
    | _ => .error .keyNotText
  match skipSpace cs with
  | [] => .error .endInObject
  | '\x7d' :: cs => .ok (.inl cs)
  | c :: cs =>
    if isFirst then key (c :: cs)
    else if c = ',' then key (skipSpace cs)
    else .error .expectedCommaOrBrace

/-- Read the colon behind a key. -/
def readColon (cs : List Char) : Except Fault (List Char) :=
  match skipSpace cs with
  | [] => .error .endInObject
  | ':' :: cs => .ok cs
  | _ => .error .expectedColon

/-- Read the key of a member, which must be one of those that are left. -/
def readKey (unread : List Key) (cs : List Char) :
    Except Fault ({ key : Key // key ∈ unread } × List Char) :=
  (readText cs).bind fun p =>
    let name := String.ofList p.1
    match Key.ofName? name with
    | none => .error (.unknownField name (Key.all.map Key.name))
    | some key =>
      if h : key ∈ unread then .ok (⟨key, h⟩, p.2) else .error (.duplicateField key.name)

/-- Read the members of an object up to its closing brace. -/
def readMembers (s : Settings) (unread : List Key) (isFirst : Bool) (cs : List Char) :
    Except Fault (Settings × List Char) :=
  match nextMember isFirst cs with
  | .error e => .error e
  | .ok (.inl rest) => .ok (s, rest)
  | .ok (.inr cs) =>
    match readKey unread cs with
    | .error e => .error e
    | .ok (⟨key, h⟩, cs) =>
      match (readColon cs).bind (readValue s key) with
      | .error e => .error e
      | .ok (s, rest) =>
        have : (unread.erase key).length < unread.length := by
          rw [List.length_erase_of_mem h]
          have := List.length_pos_of_mem h
          omega
        readMembers s (unread.erase key) false rest
termination_by unread.length

/-- Read preferences in their order, as many as there are. -/
def readElements (s : Settings) : List Key → Bool → List Char →
    Except Fault (Settings × List Char)
  | [], _, cs => .ok (s, cs)
  | key :: keys, isFirst, cs =>
    match nextElement isFirst cs with
    | .error e => .error e
    | .ok none => .ok (s, cs)
    | .ok (some next) =>
      match readValue s key next with
      | .error e => .error e
      | .ok (s, rest) => readElements s keys false rest

/-- Read settings. -/
def ofChars (cs : List Char) : Except Fault Settings :=
  let read : Except Fault (Settings × List Char) :=
    match skipSpace cs with
    | [] => .error .endInValue
    | '\x7b' :: cs => readMembers default Key.all true cs
    | '[' :: cs =>
      (readElements default Key.all true cs).bind fun p =>
        (closeList p.2).map fun rest => (p.1, rest)
    | cs => .error (mismatch expectedSettings cs)
  read.bind fun p =>
    if (skipSpace p.2).isEmpty then .ok p.1 else .error .trailingCharacters

end GuestNic.Settings
