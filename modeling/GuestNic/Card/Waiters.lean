import GuestNic.Card.Doorbell

/-!
# Waiters

Threads that wait at a doorbell until the ring is acknowledged or the doorbell is closed. They are
numbered in the order in which they came, and after every operation each of them that can go on
does.
-/

namespace GuestNic

/-- A waiter that has gone, with what it found. -/
abbrev Release := Nat × Except DoorbellClosed Unit

/-- A doorbell and those who wait at it. -/
structure WaitingRoom where
  bell : Doorbell
  /-- The number of the next waiter. -/
  next : Nat
  /-- Who waits, the longest first. -/
  waiting : List Nat

namespace WaitingRoom

def empty : WaitingRoom := { bell := .idle, next := 0, waiting := [] }

/-- Let everyone go whose wait is over. -/
def settle (r : WaitingRoom) : WaitingRoom × List Release :=
  match r.bell.awaited with
  | none => (r, [])
  | some found => ({ r with waiting := [] }, r.waiting.map fun w => (w, found))

/-- An operation on the doorbell. -/
def update (r : WaitingRoom) (bell : Doorbell) : WaitingRoom × List Release :=
  settle { r with bell }

/-- Someone new comes to wait. -/
def enter (r : WaitingRoom) : WaitingRoom × List Release :=
  settle { r with next := r.next + 1, waiting := r.waiting ++ [r.next] }

end WaitingRoom
end GuestNic
