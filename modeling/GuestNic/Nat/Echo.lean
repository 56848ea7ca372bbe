import GuestNic.Nat.Stack

/-!
# The echo stack

A stack that sends every frame back unchanged and watches nothing.
-/

namespace GuestNic

/-- The rules installed so far and the number of frames sent back. -/
structure EchoStack where
  rules : List Forwarding.Rule
  frames : Nat
deriving DecidableEq, Repr

namespace EchoStack

def empty : EchoStack := { rules := [], frames := 0 }

/-- How many milliseconds the relay may sleep when nothing happens. -/
def idleWait : Nat := 10

def net : NetStack EchoStack where
  start s := .ok s
  addRule rule s := ({ s with rules := s.rules ++ [rule] }, .ok ())
  input frame s := ({ s with frames := s.frames + 1 }, [frame])
  watch set s := (s, set, idleWait)
  sense _ _ := .none
  complete _ s := (s, [])

end EchoStack
end GuestNic
