import GuestNic.Host.Fault
import GuestNic.Settings.Reader

/-!
# Loading settings

Settings are loaded from a file of the host, which must be text.
-/

namespace GuestNic

/-- What the host finds under a path. -/
abbrev FileContent := Except Host.Fault Bytes

/-- Why settings could not be loaded. -/
inductive LoadFault where
  | read (path : String) (fault : Host.Fault)
  | parse (path : String) (fault : Json.Fault)

def LoadFault.message : LoadFault → String
  | .read path fault => s!"failed to read network config {path}: {fault.message}"
  | .parse path fault => s!"invalid network config {path}: {fault.message}"

/-- What lies behind a failure to load. -/
def LoadFault.cause : LoadFault → String
  | .read _ fault => fault.message
  | .parse _ fault => fault.message

/-- The text of a file. -/
def decodeText : FileContent → Except Host.Fault String
  | .ok bytes =>
    match String.fromUTF8? ⟨bytes.toArray⟩ with
    | some decoded => .ok decoded
    | none => .error .invalidText
  | .error fault => .error fault

/-- Load settings from the file at `path` with the given content. -/
def Settings.load (path : String) (content : FileContent) : Except LoadFault Settings :=
  match decodeText content with
  | .error fault => .error (.read path fault)
  | .ok text => (Settings.ofChars text.toList).mapError (LoadFault.parse path)

end GuestNic
