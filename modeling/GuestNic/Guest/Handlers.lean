import GuestNic.Text.Hex

/-!
# Handler tables

Which routine of the guest handles frames of which protocol type. A type has at most one handler.
The null routine can be attached; frames for it are dropped.
-/

namespace GuestNic

/-- The guest address of a handler routine. -/
structure Routine where
  entry : UInt32
deriving DecidableEq, Repr

def Routine.isNull (r : Routine) : Bool := r.entry == 0

/-- Why a type was not attached or detached. -/
inductive HandlerFault where
  | alreadyAttached (type : UInt16)
  | notAttached (type : UInt16)
deriving DecidableEq, Repr

def HandlerFault.message : HandlerFault → String
  | .alreadyAttached t => s!"protocol type {Text.Hex.word16 t} already has a handler"
  | .notAttached t => s!"protocol type {Text.Hex.word16 t} has no handler"

/-- Handlers by protocol type. -/
structure HandlerTable where
  entries : List (UInt16 × Routine)
  nodup : (entries.map Prod.fst).Nodup

namespace HandlerTable

def empty : HandlerTable := ⟨[], List.nodup_nil⟩

def size (t : HandlerTable) : Nat := t.entries.length

def isEmpty (t : HandlerTable) : Bool := t.entries.isEmpty

/-- The handler attached to exactly this type. -/
def find? (t : HandlerTable) (type : UInt16) : Option Routine := t.entries.lookup type

theorem find?_eq_none_iff {t : HandlerTable} {type : UInt16} :
    t.find? type = none ↔ type ∉ t.entries.map Prod.fst := by
  unfold find?
  generalize t.entries = es
  induction es with
  | nil => simp
  | cons e es ih =>
    obtain ⟨k, v⟩ := e
    by_cases h : type = k
    · simp [h]
    · simp [List.lookup_cons, beq_false_of_ne h, ih, h]

/-- Give a type its handler. -/
def attach (t : HandlerTable) (type : UInt16) (routine : Routine) :
    Except HandlerFault HandlerTable :=
  if h : t.find? type = none then
    .ok ⟨(type, routine) :: t.entries, List.nodup_cons.2 ⟨find?_eq_none_iff.1 h, t.nodup⟩⟩
  else .error (.alreadyAttached type)

/-- Take a type's handler away. -/
def detach (t : HandlerTable) (type : UInt16) : Except HandlerFault HandlerTable :=
  if t.find? type = none then .error (.notAttached type)
  else .ok ⟨t.entries.filter fun e => e.1 != type, by
    exact t.nodup.sublist (List.filter_sublist.map _)⟩

end HandlerTable
end GuestNic
