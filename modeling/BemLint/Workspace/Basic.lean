import BemLint.Path
import BemLint.Text.Quoted
import BemLint.Text.Utf8

/-!
# Workspaces

A tree of directories, files and symbolic links, with the directory in which the linter runs.
Looking up a path follows links and fails in the order in which the names of the path are met:
a name that is not there, a file in the place of a directory, a name that is too long, too many
links.
-/
namespace BemLint

/-- A place in the tree: the names from the root of all paths. -/
abbrev Location := List Text

inductive Node where
  | directory
  | file (bytes : List UInt8)
  | link (target : Text)
deriving DecidableEq, Repr

inductive FileFault where
  | noEntry
  | occupied
  | notADirectory
  | isADirectory
  | nameTooLong
  | manyLinks
  | embeddedNull
deriving DecidableEq, Repr

structure FileError where
  fault : FileFault
  path : Text
deriving DecidableEq, Repr

namespace FileFault

/-- The number and the wording of a fault of the file system. -/
def describe : FileFault → Text
  | .noEntry => "[Errno 2] No such file or directory".toList
  | .occupied => "[Errno 17] File exists".toList
  | .notADirectory => "[Errno 20] Not a directory".toList
  | .isADirectory => "[Errno 21] Is a directory".toList
  | .nameTooLong => "[Errno 36] File name too long".toList
  | .manyLinks => "[Errno 40] Too many levels of symbolic links".toList
  | .embeddedNull => "embedded null byte".toList

end FileFault

/-- Whether a failure comes from the file system; a path with a null character never gets there. -/
def FileError.isOfSystem (e : FileError) : Bool := e.fault ≠ .embeddedNull

def FileError.message (e : FileError) : Text :=
  match e.fault with
  | .embeddedNull => e.fault.describe
  | fault => fault.describe ++ [':', ' '] ++ Text.quoted e.path

/-- A tree and the directory in which the linter runs. -/
structure Workspace where
  home : Location
  entries : List (Location × Node)
deriving Repr

namespace Workspace

/-- The most links that one look-up follows. -/
def linkLimit : Nat := 40

def nameLimit : Nat := 255

/-- A path has fewer bytes than this. -/
def pathLimit : Nat := 4096

def byteLength (s : Text) : Nat := (Text.Utf8.encode s).length

def homePath (w : Workspace) : Path := ⟨.slash, w.home⟩

/-- A path made absolute from the running directory; nothing is looked up. -/
def absolute (w : Workspace) (p : Path) : Path := w.homePath.append p

/-- What is at a place. The root of all paths is always a directory. -/
def node? (w : Workspace) (at_ : Location) : Option Node :=
  if at_ = [] then some .directory else (w.entries.find? fun e => e.1 = at_).map (·.2)

/-- The names in a directory, with what is at each. -/
def list (w : Workspace) (directory : Location) : List (Text × Node) :=
  w.entries.filterMap fun e =>
    match Path.namesAfter? e.1 directory with
    | some [name] => some (name, e.2)
    | _ => none

/-- Whether a place lies above the running directory. A look-up can pass such a place even when
nothing is known to be there. -/
def isAboveHome (w : Workspace) (at_ : Location) : Bool :=
  at_ ≠ w.home && (Path.namesAfter? w.home at_).isSome

/-- The steps of a written path: its names with dots kept, and a dot for slashes at the end. -/
def steps (s : Text) : List Text :=
  let names := (Text.splitAt '/' s).filter fun name => !name.isEmpty
  match s.getLast? with
  | some '/' => names ++ [['.']]
  | _ => names

/-- How far a look-up gets before it fails, ends or meets a link that it has to follow. -/
inductive Progress where
  /-- The look-up ends at a place, at what is there or at nothing in a directory. -/
  | arrived (at_ : Location) (node : Option Node)
  /-- A link in a directory, with its target and the steps after it. -/
  | link (directory : Location) (target : Text) (rest : List Text)
  | failed (fault : FileFault)
deriving Repr

/-- Take steps from a directory up to the first link. A link at the last step is followed only on
demand. A place that is left by dots is a directory, also where nothing is known of it. -/
def advance (w : Workspace) (follow : Bool) : (at_ : Location) → List Text → Progress
  | at_, [] => .arrived at_ (some .directory)
  | at_, name :: rest =>
    if name = ['.'] then advance w follow at_ rest
    else if name = ['.', '.'] then advance w follow at_.dropLast rest
    else if nameLimit < byteLength name then .failed .nameTooLong
    else
      let next := at_ ++ [name]
      match w.node? next with
      | some (.link target) =>
        if rest.isEmpty && !follow then .arrived next (some (.link target))
        else .link at_ target rest
      | some .directory => advance w follow next rest
      | some (.file bytes) =>
        if rest.isEmpty then .arrived next (some (.file bytes)) else .failed .notADirectory
      | none =>
        if rest.isEmpty then .arrived next none
        else if w.isAboveHome next then advance w follow next rest
        else .failed .noEntry

/-- Take steps from a directory, with a number of links that may still be followed. -/
def walk (w : Workspace) (follow : Bool) : (links : Nat) → Location → List Text →
    Except FileFault (Location × Option Node)
  | links, at_, todo =>
    match w.advance follow at_ todo with
    | .arrived place node => .ok (place, node)
    | .failed fault => .error fault
    | .link directory target rest =>
      match links with
      | 0 => .error .manyLinks
      | links + 1 =>
        let start := if PathRoot.ofText target = .none then directory else []
        walk w follow links start (steps target ++ rest)

/-- The place that a written path means, and what is there. -/
def locate (w : Workspace) (follow : Bool) (path : Text) :
    Except FileFault (Location × Option Node) :=
  if path.any (· = Char.ofNat 0) then .error .embeddedNull
  else if pathLimit ≤ byteLength path then .error .nameTooLong
  else if path.isEmpty then .error .noEntry
  else
    w.walk follow linkLimit (if PathRoot.ofText path = .none then w.home else []) (steps path)

def stat (w : Workspace) (follow : Bool) (p : Path) : Except FileFault (Location × Node) := do
  match ← w.locate follow p.text with
  | (place, some node) => return (place, node)
  | (_, none) => throw .noEntry

/-- Whether a fault of a look-up means no more than that there is nothing. -/
def isAbsence : FileFault → Bool
  | .noEntry | .notADirectory | .manyLinks | .embeddedNull => true
  | _ => false

/-- What is at a path, if there is anything; other faults than its absence remain. -/
def peek (w : Workspace) (p : Path) : Except FileError (Option (Location × Node)) :=
  match w.stat true p with
  | .ok found => .ok (some found)
  | .error fault => if isAbsence fault then .ok none else .error ⟨fault, p.text⟩

def hasEntry (w : Workspace) (p : Path) : Except FileError Bool := do
  return (← w.peek p).isSome

def hasDirectory (w : Workspace) (p : Path) : Except FileError Bool := do
  match ← w.peek p with
  | some (_, .directory) => return true
  | _ => return false

def readBytes (w : Workspace) (p : Path) : Except FileError (List UInt8) :=
  match w.stat true p with
  | .error fault => .error ⟨fault, p.text⟩
  | .ok (_, .file bytes) => .ok bytes
  | .ok _ => .error ⟨.isADirectory, p.text⟩

end Workspace
end BemLint
