import GuestNic.Settings.Basic

/-!
# Preference keys

The names under which preferences are stored, in the order in which they are written.
-/

namespace GuestNic.Settings

inductive Key where
  | ether
  | redir
  | udptunnel
  | udpport
  | nonet
deriving DecidableEq, Repr

namespace Key

def name : Key → String
  | .ether => "ether"
  | .redir => "redir"
  | .udptunnel => "udptunnel"
  | .udpport => "udpport"
  | .nonet => "nonet"

def all : List Key := [.ether, .redir, .udptunnel, .udpport, .nonet]

def ofName? (name : String) : Option Key := all.find? fun k => k.name == name

theorem ofName?_name (k : Key) : ofName? k.name = some k := by cases k <;> rfl

end Key
end GuestNic.Settings
