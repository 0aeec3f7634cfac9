import BemLint.Command.Run
import Std.Time.Zoned

/-!
# The program

The command line program around the library. It takes a picture of the files below the running
directory and of those that the command line names, carries the command line out on that picture,
writes the files that are new or different, and prints what there is to print. Hidden directories
are left out of the picture unless the command line names them.
-/
namespace BemLint.Program

def systemPath (at_ : Location) : String := String.ofList (Path.mk .slash at_).text

/-- Add to a workspace what a directory holds. -/
partial def addEntries (w : Workspace) (at_ : Location) (entries : Array IO.FS.DirEntry) :
    IO Workspace := do
  let mut w := w
  for entry in entries do
    let next := at_ ++ [entry.fileName.toList]
    match (← entry.path.symlinkMetadata).type with
    | .dir =>
      w := w.place next .directory
      if !Discovery.isHidden entry.fileName.toList then
        w ← addEntries w next (← entry.path.readDir)
    | .symlink =>
      let target ← IO.FS.realPath entry.path
      w := w.place next (.link target.toString.toList)
    | .file =>
      let bytes ← IO.FS.readBinFile entry.path
      w := w.place next (.file bytes.toList)
    | .other => pure ()
  return w

/-- Add the places on the way to another. -/
def addAncestors (w : Workspace) (at_ : Location) : Workspace :=
  (List.range at_.length).foldl (fun w n => w.place (at_.take (n + 1)) .directory) w

/-- Add to a workspace the file or directory that a word of the command line names, if it does. -/
def addNamed (w : Workspace) (argument : String) : IO Workspace := do
  let given := (← IO.currentDir) / argument
  if !(← given.pathExists) then return w
  let real ← IO.FS.realPath given
  let at_ := Path.names real.toString.toList
  if (w.node? at_).isSome then return w
  if ← real.isDir then addEntries (addAncestors w at_) at_ (← real.readDir)
  else
    let bytes ← IO.FS.readBinFile real
    return (addAncestors w at_.dropLast).place at_ (.file bytes.toList)

/-- The picture of the files that a command line can be about. -/
def picture (arguments : List String) : IO Workspace := do
  let here ← IO.currentDir
  let home := Path.names here.toString.toList
  let w ← addEntries (addAncestors (Workspace.empty home) home) home (← here.readDir)
  arguments.foldlM addNamed w

/-- All bytes of the standard input. -/
partial def readInput (stream : IO.FS.Stream) (before : ByteArray) : IO ByteArray := do
  let block ← stream.read 65536
  if block.isEmpty then return before else readInput stream (before ++ block)

def presentMoment : IO Moment := do
  let now ← Std.Time.PlainDateTime.now
  return ⟨now.year.toInt.toNat, now.month.toNat, now.day.toNat, now.hour.val.toNat,
    now.minute.val.toNat, now.second.val.toNat⟩

/-- Write what is new or different in a workspace. -/
def writeBack (before after : Workspace) : IO Unit :=
  after.entries.forM fun (at_, node) => do
    if before.node? at_ = some node then return
    match node with
    | .directory => IO.FS.createDirAll (systemPath at_)
    | .file bytes => IO.FS.writeBinFile (systemPath at_) ⟨bytes.toArray⟩
    | .link _ => return

/-- The status of a run that an error broke off. -/
def statusOf : CommandError → UInt32
  | .usage _ => 2
  | _ => 1

def exitStatus : Except CommandError Nat → UInt32
  | .ok code => code.toUInt32
  | .error e => statusOf e

/-- Carry out a command line, print what there is to print, and give its status. -/
def run (arguments : List String) : IO UInt32 := do
  let before ← picture arguments
  let input ←
    if arguments.any fun a => Text.trim a.toList = ['-'] then
      readInput (← IO.getStdin) .empty
    else pure .empty
  let around : Command.Surroundings := { input := input.toList, now := ← presentMoment }
  let (ending, state) := Command.run around before (arguments.map String.toList)
  writeBack before state.workspace
  IO.print (String.ofList state.output)
  IO.eprint (String.ofList state.errors)
  if let .error e := ending then
    IO.eprintln (String.ofList ("Error: ".toList ++ e.message))
  return exitStatus ending

end BemLint.Program

/-- The program: its arguments are the words of the command line. -/
def main (arguments : List String) : IO UInt32 := BemLint.Program.run arguments
