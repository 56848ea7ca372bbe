import GuestNic.Host.Fault

/-!
# Paths

How the host finds a file under a path, and why it may refuse. A name is at most 255 bytes long, a
path at most 4095, and neither holds a null character.
-/

namespace GuestNic.Host

def longestName : Nat := 255

def longestPath : Nat := 4095

/-- The pieces between slashes. -/
def pathPieces : List Char → List (List Char)
  | [] => [[]]
  | c :: cs =>
    if c = '/' then [] :: pathPieces cs
    else
      match pathPieces cs with
      | [] => [[c]]
      | piece :: rest => (c :: piece) :: rest

/-- Whether a piece stays where it is. -/
def staysPut (piece : List Char) : Bool := piece = [] || piece = ['.']

/-- What is wrong with a path before anything is looked up. -/
def pathFault? (path : String) : Option Fault :=
  if path.contains '\x00' then some .nullInPath
  else if longestPath < path.utf8ByteSize then some (.os .nameTooLong)
  else none

/-- Why a name cannot be found. -/
def absentFault (name : String) : Fault :=
  if longestName < name.utf8ByteSize then .os .nameTooLong else .os .noSuchFile

/-- Find the file under `path` from a folder that holds files only; `inside` is the part of the path
behind the folder. -/
def openIn {α : Type} (file? : String → Option α) (path : String) (inside : List Char) :
    Except Fault α :=
  match pathFault? path with
  | some fault => .error fault
  | none =>
    let pieces := pathPieces inside
    match pieces.filter (!staysPut ·) with
    | [] => .error (.os .isDirectory)
    | name :: rest =>
      let name := String.ofList name
      match file? name with
      | none => .error (absentFault name)
      | some file =>
        if rest.isEmpty && !pieces.getLast?.any staysPut then .ok file
        else .error (.os .notDirectory)

end GuestNic.Host
