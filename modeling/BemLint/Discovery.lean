import BemLint.Text.Case
import BemLint.Workspace.Basic

/-!
# Discovering files

The files that a run looks at. A path to a file means that file, whatever its name. A path to a
directory means the files below it with one of the wanted extensions, in the order of their paths,
but nothing hidden and nothing in an excluded directory; links to directories are not entered.

The directories are walked from the top, each by the path that leads to it. A directory that cannot
be opened by that path is passed over. Every directory on the way takes room on the stack, so there
is a depth beyond which the walk fails.
-/
namespace BemLint.Discovery

inductive Fault where
  | file (error : FileError)
  /-- Directories lie deeper in each other than a walk can go. -/
  | tooDeep
deriving DecidableEq, Repr

def Fault.message : Fault → Text
  | .file error => error.message
  | .tooDeep => "maximum recursion depth exceeded".toList

/-- How many directories a walk enters one in another. The stack that limits the depth is shared
with the callers of the walk, so the number depends on them; this one leaves room for a command. -/
def depthLimit : Nat := 980

structure Filter where
  extensions : List Text
  excludedDirectories : List Text
deriving DecidableEq, Repr

def isHidden (name : Text) : Bool := Text.startsWith name ['.']

def Filter.enters (f : Filter) (name : Text) : Bool :=
  !f.excludedDirectories.contains name && !isHidden name

/-- Whether a file of a name is wanted. Letter case in extensions does not matter. -/
def Filter.wants (f : Filter) (name : Text) : Bool :=
  !isHidden name && (f.extensions.map Text.toLower).contains (Text.toLower (Path.suffixOf name))

/-- The path of an entry as the walk writes it, after that of its directory. -/
def entryPath (directory name : Text) : Text :=
  if directory.getLast? = some '/' then directory ++ name else directory ++ '/' :: name

/-- Whether an entry at a path is a directory or a link to one. A link whose target cannot be looked
up by that path is none. -/
def leadsToDirectory (w : Workspace) (path : Text) : Node → Bool
  | .directory => true
  | .file _ => false
  | .link _ =>
    match w.locate true path with
    | .ok (_, some .directory) => true
    | _ => false

def wantedNames (w : Workspace) (f : Filter) (path : Text) (entries : List (Text × Node)) :
    List Text :=
  (entries.filter fun e =>
    !leadsToDirectory w (entryPath path e.1) e.2 && f.wants e.1).map (·.1)

/-- The entries of the directory at a path from which the walk would go on, links among them. -/
def onwardEntries (w : Workspace) (f : Filter) (path : Text) (entries : List (Text × Node)) :
    List (Text × Node) :=
  entries.filter fun e => leadsToDirectory w (entryPath path e.1) e.2 && f.enters e.1

/-- Walk the directory at a path and those below it, down to a depth: the names that lead to the
wanted files, those in the directory itself before those further down. `way` are the names passed
so far. At the depth itself the walk fails as soon as it would go on, even from a link, which it
would then not enter. -/
def walk (w : Workspace) (f : Filter) (depth : Nat) (path : Text) (way : List Text) :
    Except Fault (List (List Text)) :=
  match w.locate true path with
  | .ok (at_, some .directory) =>
    let here := (wantedNames w f path (w.list at_)).map fun name => way ++ [name]
    let onward := onwardEntries w f path (w.list at_)
    match depth with
    | 0 => if onward.isEmpty then .ok here else .error .tooDeep
    | depth + 1 => do
      let below ← (onward.filter fun e => e.2 = .directory).mapM fun e =>
        walk w f depth (entryPath path e.1) (way ++ [e.1])
      return here ++ below.flatten
  | _ => .ok []

/-- The names that lead to the wanted files below the directory at a path, each once and in
order. -/
def namesBelow (w : Workspace) (f : Filter) (path : Text) (depth : Nat) :
    Except Fault (List (List Text)) := do
  return (← walk w f depth path []).eraseDups.mergeSort Path.namesLe

def files (w : Workspace) (f : Filter) (p : Path) (depth : Nat := depthLimit) :
    Except Fault (List Path) :=
  match w.peek p with
  | .error error => .error (.file error)
  | .ok (some (_, .file _)) => .ok [p]
  | .ok (some (_, .directory)) => do
    return (← namesBelow w f p.text depth).map fun names => ⟨p.root, p.parts ++ names⟩
  | .ok _ => .ok []

end BemLint.Discovery
