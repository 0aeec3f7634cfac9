import BemLint.Workspace.Basic

/-!
# Changing a workspace

Making directories and writing files. An operation that fails keeps what it has changed before.
-/
namespace BemLint

abbrev Change (α : Type) := ExceptT FileError (StateM Workspace) α

namespace Workspace

/-- Put a node at a place, instead of what is there. -/
def place (w : Workspace) (at_ : Location) (node : Node) : Workspace :=
  { w with entries := w.entries.filter (fun e => e.1 ≠ at_) ++ [(at_, node)] }

/-- Make a directory. Whatever is at its place already prevents it. -/
def makeDirectory (p : Path) : Change Unit := do
  let w ← get
  match w.locate false p.text with
  | .error fault => throw ⟨fault, p.text⟩
  | .ok (_, some _) => throw ⟨.occupied, p.text⟩
  | .ok (at_, none) => set (w.place at_ .directory)

/-- Accept a failure to make a directory when there is one. -/
def unlessDirectory (p : Path) (e : FileError) : Change Unit := do
  match (← get).hasDirectory p with
  | .error other => throw other
  | .ok true => return ()
  | .ok false => throw e

/-- Make a directory in an existing one, unless it is there. -/
def ensureDirectory (p : Path) : Change Unit :=
  tryCatch (makeDirectory p) fun e =>
    if e.fault = .noEntry then throw e else unlessDirectory p e

/-- Make a directory, and up to `depth` of those on the way to it, unless they are there. -/
def ensureDirectoriesFrom : (depth : Nat) → Path → Change Unit
  | 0, p => ensureDirectory p
  | depth + 1, p =>
    tryCatch (makeDirectory p) fun e =>
      if e.fault ≠ .noEntry then unlessDirectory p e
      else if p.parent = p then throw e
      else do
        ensureDirectoriesFrom depth p.parent
        ensureDirectory p

def ensureDirectories (p : Path) : Change Unit := ensureDirectoriesFrom p.parts.length p

/-- Write a file, instead of the one that is there. Links are followed. -/
def writeFile (p : Path) (bytes : List UInt8) : Change Unit := do
  let w ← get
  match w.locate true p.text with
  | .error fault => throw ⟨fault, p.text⟩
  | .ok (_, some .directory) => throw ⟨.isADirectory, p.text⟩
  | .ok (at_, _) => set (w.place at_ (.file bytes))

def empty (home : Location) : Workspace := ⟨home, [(home, .directory)]⟩

end Workspace
end BemLint
