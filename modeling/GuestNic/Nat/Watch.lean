import GuestNic.Host.Poll

/-!
# Watch sets

The descriptors that a network stack wants polled, in the order in which it registered them. A
registration is answered with a token, the place of the entry in the set; a token that points
nowhere reads as nothing being ready.
-/

namespace GuestNic

/-- A registered descriptor, the events asked for and those reported. -/
structure Watch where
  descriptor : Int
  interest : Host.Interest
  events : Host.PollEvents
deriving DecidableEq, Repr

/-- What a stack learns about one of its descriptors. -/
structure WatchReport where
  readable : Bool
  writable : Bool
  error : Bool
deriving DecidableEq, Repr

/-- The registered descriptors. -/
structure WatchSet where
  entries : List Watch
deriving DecidableEq, Repr

namespace WatchSet

def empty : WatchSet := ⟨[]⟩

def size (s : WatchSet) : Nat := s.entries.length

/-- Add a descriptor; the answer is its token. -/
def register (s : WatchSet) (descriptor : Int) (interest : Host.Interest) : WatchSet × Nat :=
  (⟨s.entries ++ [⟨descriptor, interest, .none⟩]⟩, s.size)

def readiness (s : WatchSet) (token : Nat) : WatchReport :=
  match s.entries[token]? with
  | none => ⟨false, false, false⟩
  | some w => ⟨w.events.input, w.events.output, w.events.isBroken⟩

/-- Enter what the host reports about each descriptor, as far as it was asked for. -/
def poll (s : WatchSet) (sense : Watch → Host.PollEvents) : WatchSet :=
  ⟨s.entries.map fun w => { w with events := w.interest.select (sense w) }⟩

theorem readiness_register (s : WatchSet) (descriptor : Int) (interest : Host.Interest) :
    (s.register descriptor interest).1.readiness (s.register descriptor interest).2 =
      ⟨false, false, false⟩ := by
  simp [register, readiness, size, Host.PollEvents.none, Host.PollEvents.isBroken]

end WatchSet
end GuestNic
