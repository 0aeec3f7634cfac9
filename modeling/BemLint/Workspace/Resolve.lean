import BemLint.Workspace.Basic

/-!
# Resolving paths

The absolute path without links and dots that a path leads to. Names that are not there are taken
as they are, and so are links behind paths that are too long to be looked up. Where a link leads
back to itself the rest of the path stays as it is written; such a path cannot be used, and its
resolution says so.
-/
namespace BemLint

/-- From where the names of a path lead on. -/
def Path.origin (p : Path) : Path := if p.isAbsolute then ⟨.slash, []⟩ else ⟨.none, []⟩

/-- The path above one that goes through no link. From the running directory dots lead up. -/
def Path.above (p : Path) : Path :=
  if !p.isAbsolute && (p.parts.isEmpty || p.name = ['.', '.']) then p.child ['.', '.'] else p.parent

/-- Drop dots from the names of an absolute path by what is written alone. -/
def Path.dropDots (names : List Text) : Location :=
  names.foldl (fun at_ name =>
    if name = ['.'] then at_ else if name = ['.', '.'] then at_.dropLast else at_ ++ [name]) []

inductive ResolveFault where
  | embeddedNull
  | loop (path : Text)
deriving DecidableEq, Repr

def ResolveFault.message : ResolveFault → Text
  | .embeddedNull => FileFault.embeddedNull.describe
  | .loop path => "Symlink loop from ".toList ++ Text.quoted path

namespace Workspace

/-- A path that goes through no link, or the path of a link that leads back to itself with the
unresolved rest of the way. -/
inductive Trace where
  | reached (p : Path)
  | stuck (p : Path)
deriving DecidableEq, Repr

/-- The target of the link at a path. What cannot be looked up is no link. -/
def linkAt? (w : Workspace) (p : Path) : Option Text :=
  match w.locate false p.text with
  | .ok (_, some (.link target)) => some target
  | _ => none

/-- Take steps from a path, where `follow` says where the link at a path leads. -/
def traceSteps (w : Workspace) (follow : Path → Text → Trace) : Path → List Text → Trace
  | p, [] => .reached p
  | p, name :: rest =>
    if name.isEmpty || name = ['.'] then traceSteps w follow p rest
    else if name = ['.', '.'] then traceSteps w follow p.above rest
    else
      match w.linkAt? (p.child name) with
      | none => traceSteps w follow (p.child name) rest
      | some target =>
        match follow (p.child name) target with
        | .reached q => traceSteps w follow q rest
        | .stuck q => .stuck (q.append (Path.ofText (Text.join ['/'] rest)))

/-- From where the target of the link at a path leads on. -/
def targetOrigin (link : Path) (target : Text) : Path :=
  if PathRoot.ofText target = .none then link.parent else ⟨.slash, []⟩

/-- Follow the link at a path. Those in `active` are being followed already; `depth` bounds how many
more may be at the same time. -/
def followLink (w : Workspace) :
    (depth : Nat) → (active : List Path) → (link : Path) → (target : Text) → Trace
  | 0, _, link, _ => .stuck link
  | depth + 1, active, link, target =>
    if active.contains link then .stuck link
    else
      w.traceSteps (followLink w depth (link :: active)) (targetOrigin link target)
        (Text.splitAt '/' target)

/-- How many links can be followed at the same time: a link can be written in several ways, with
more or fewer dots at the front, but not in more than a path has bytes. -/
def followDepth (w : Workspace) : Nat := w.entries.length * pathLimit

def realPath (w : Workspace) (p : Path) : Path :=
  match w.traceSteps (w.followLink w.followDepth []) p.origin p.parts with
  | .reached q | .stuck q => ⟨(w.absolute q).root, Path.dropDots (w.absolute q).parts⟩

/-- The absolute path without links that a path leads to, unless there is none. -/
def resolve (w : Workspace) (p : Path) : Except ResolveFault Path :=
  if p.text.any (· = Char.ofNat 0) then .error .embeddedNull
  else
    let real := w.realPath p
    match w.stat true real with
    | .error .manyLinks => .error (.loop real.text)
    | _ => .ok real

/-- How a file is shown: by its way from a root directory when it lies below that, else by its
absolute path as given. -/
def displayPath (w : Workspace) (p root : Path) : Text :=
  match w.resolve p, w.resolve root with
  | .ok file, .ok directory =>
    match file.relativeTo? directory with
    | some way => way.text
    | none => (w.absolute p).text
  | _, _ => (w.absolute p).text

end Workspace
end BemLint
