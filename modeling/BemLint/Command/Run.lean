import BemLint.Audit
import BemLint.Command.Options
import BemLint.Report.File
import BemLint.Report.Page
import BemLint.Report.WorkflowCommand
import BemLint.Rule.Guide
import BemLint.Terminal.Escape

/-!
# Commands

The command line of the linter: a group of options, then one of three commands. Checking lints a
snippet or files, prints the result and writes a report file; listing shows the rules; explaining
shows one of them. A run changes nothing but the workspace, and what it prints is kept as text.
-/
namespace BemLint.Command

def version : Text := "0.3.0".toList

/-- The cells of a line of output. -/
def pageWidth : Nat := 200

inductive GroupOption where
  | version
  | verbose
  | quiet
  | progress (shown : Bool)
deriving DecidableEq, Repr

def groupSpecs : List (OptionSpec GroupOption) :=
  [.flag ["--version".toList] .version, .flag ["--verbose".toList, "-v".toList] .verbose,
    .flag ["--quiet".toList, "-q".toList] .quiet,
    .flag ["--progress".toList] (.progress true),
    .flag ["--no-progress".toList] (.progress false)]

inductive CheckOption where
  | format (name : Text)
  | json
  | projectRoot (path : Text)
  | ignore (pattern : Text)
  | writeReport (wanted : Bool)
  | failOnViolations
deriving DecidableEq, Repr

def checkSpecs : List (OptionSpec CheckOption) :=
  [.valued ["--format".toList] .format, .flag ["--json".toList] .json,
    .valued ["--project-root".toList] .projectRoot, .valued ["--ignore".toList] .ignore,
    .flag ["--write-report".toList] (.writeReport true),
    .flag ["--no-write-report".toList] (.writeReport false),
    .flag ["--fail-on-violations".toList] .failOnViolations]

/-- The one option of the other commands, with its name: the format of the output. -/
def formatSpecs : List (OptionSpec Text) := [.valued ["--format".toList] id]

structure Verbosity where
  verbose : Bool
  quiet : Bool
  progress : Bool
deriving DecidableEq, Repr

def verbosityOf (options : List GroupOption) : Verbosity where
  verbose := options.contains .verbose
  quiet := options.contains .quiet
  progress := (options.filterMap fun o => match o with
    | .progress shown => some shown
    | _ => none).getLastD true

/-- What a run is given beside its command line: the bytes of the standard input, the time, the
table of characters by name, and how deep it can walk into directories. -/
structure Surroundings where
  input : List UInt8
  now : Moment
  table : CharacterNames := .ascii
  depth : Nat := Discovery.depthLimit

/-- What a run has printed, and the workspace as it leaves it. -/
structure RunState where
  workspace : Workspace
  output : Text
  errors : Text
deriving Repr

/-- Why a run stops before its end: with a status for the caller, or by an error. -/
inductive Stop where
  | status (code : Nat)
  | error (e : CommandError)
deriving Repr

abbrev Run (α : Type) := ExceptT Stop (StateM RunState) α

def print (s : Text) : Run Unit := modify fun r => { r with output := r.output ++ s }

def printError (s : Text) : Run Unit := modify fun r => { r with errors := r.errors ++ s }

/-- Print a text that is not meant for a terminal, with a line feed after it. -/
def printPlain (s : Text) : Run Unit := print (Terminal.dropSequences s ++ ['\n'])

def showLog (v : Verbosity) (records : List LogRecord) : Run Unit :=
  printError (logText v.verbose v.quiet records)

def fail {α : Type} (e : CommandError) : Run α := throw (.error e)

def misuse {α : Type} (e : UsageError) : Run α := fail (.usage e)

/-- Go on with a result, or stop by the error that it is. -/
def orFail {ε α : Type} (wrap : ε → CommandError) : Except ε α → Run α
  | .ok a => pure a
  | .error e => fail (wrap e)

structure CheckRequest where
  path : Text
  root : Path
  format : Text
  ignore : List Text
  writeReport : Bool
  failOnViolations : Bool
deriving DecidableEq, Repr

namespace CheckRequest

def isOfInput (request : CheckRequest) : Bool := Text.trim request.path = ['-']

/-- The settings of a project with the patterns that are asked for. -/
def settings (request : CheckRequest) (found : Settings) : Settings :=
  { found with ignoreList := found.ignoreList ++ request.ignore }

end CheckRequest

/-- The directory that an option names, resolved. -/
def projectRootAt (w : Workspace) (given : Text) : Except CommandError Path :=
  match w.resolve (Path.ofText given) with
  | .error fault => .error (.resolve fault)
  | .ok root =>
    match w.stat true root with
    | .error _ => .error (.usage (.noDirectory "--project-root".toList given))
    | .ok (_, .file _) => .error (.usage (.notADirectory "--project-root".toList given))
    | .ok _ => .ok root

/-- What the options ask for, and what holds without them. A directory that was given is looked at
before the path is missed, and arguments beyond the path are the last thing to be noticed. -/
def checkRequest (w : Workspace) (a : Arguments CheckOption) :
    Except CommandError CheckRequest := do
  let given := a.options.filterMap fun o => match o with
    | .projectRoot path => some path
    | _ => none
  let root ← projectRootAt w (given.getLastD ['.'])
  match a.words with
  | [] => throw (.usage (.missingArgument "PATH".toList))
  | path :: extra =>
    if !extra.isEmpty then throw (.usage (.extraArguments extra))
    let formats := a.options.filterMap fun o => match o with
      | .format name => some name
      | _ => none
    let wanted := a.options.filterMap fun o => match o with
      | .writeReport wanted => some wanted
      | _ => none
    let patterns := a.options.filterMap fun o => match o with
      | .ignore pattern => some pattern
      | _ => none
    return {
      path := path
      root := root
      format := if a.options.contains .json then "json".toList
        else formats.getLastD "terminal".toList
      ignore := patterns
      writeReport := wanted.getLastD true
      failOnViolations := a.options.contains .failOnViolations }

inductive CheckFormat where
  | terminal
  | json
  | workflow
deriving DecidableEq, Repr

namespace CheckFormat

def name : CheckFormat → Text
  | .terminal => "terminal".toList
  | .json => "json".toList
  | .workflow => "github".toList

def all : List CheckFormat := [.terminal, .json, .workflow]

end CheckFormat

/-- The name of a format as it is compared. -/
def formatName (given : Text) : Text := Text.toLower (Text.trim given)

def checkFormat (given : Text) : Except CommandError CheckFormat :=
  match CheckFormat.all.find? fun f => f.name = formatName given with
  | some f => .ok f
  | none => .error (.usage (.badFormat (CheckFormat.all.map CheckFormat.name)))

/-- The lines of the file that a report shows under a path. A relative path counts from a root, and
without one such a file has no lines; neither has a snippet or a file that is not there. -/
def sourceLines (w : Workspace) (root : Option Path) (shown : Text) :
    Except FileError (List Text) :=
  if shown = Lint.snippetPath then .ok []
  else
    let p := Path.ofText shown
    let place := if p.isAbsolute then some p else root.map (·.append p)
    match place with
    | none => .ok []
    | some place =>
      match Audit.readSource w place with
      | .ok source => .ok (Text.pageLines source)
      | .error e => if e.isOfSystem then .ok [] else .error e

def loadSettings (v : Verbosity) (root : Path) : Run Settings := do
  let (result, records) := (Settings.loadOrDefault (← get).workspace root).run.run []
  showLog v records
  let settings ← orFail .load result
  match settings.source with
  | some p => showLog v [⟨.debug, .cli, "using config ".toList ++ p.text⟩]
  | none => pure ()
  return settings

def lintInput (table : CharacterNames) (input : List UInt8) (patterns : List Text) : Run Report :=
  orFail .pattern (Lint.analyze table (Text.Utf8.decodeLossy input) Lint.snippetPath patterns)

/-- Say that there is nothing to check, and stop. -/
def stopWithoutFiles {α : Type} (path : Text) : Run α := do
  let message ← orFail .markup
    (Terminal.renderMarkup ("No files found to check at: ".toList ++ path))
  printError (Terminal.paragraph pageWidth message)
  throw (.status 1)

/-- Lint the files that a path means. A display of the progress leaves an empty line behind. -/
def lintFiles (around : Surroundings) (v : Verbosity) (request : CheckRequest)
    (settings : Settings) (format : CheckFormat) : Run Report := do
  let p := Path.ofText request.path
  let leaveProgress : Run Unit :=
    if v.progress && !v.quiet && format = .terminal then printError ['\n'] else pure ()
  match Audit.ofPath around.table (← get).workspace settings request.root p around.depth with
  | .error fault => do
    leaveProgress
    fail (.discovery fault)
  | .ok audit => do
    showLog v (audit.discoveryRecord p :: audit.records)
    leaveProgress
    if audit.files.isEmpty then stopWithoutFiles request.path
    return audit.report

/-- Print a report. On a page stand the four pictures of `Terminal.knownPictures`; codes of others are
printed as they are written. -/
def printReport (v : Verbosity) (root : Path) (format : CheckFormat) (r : Report) : Run Unit := do
  match format with
  | .json => if r.hasLongNumber then fail (.report .longNumber) else printPlain r.jsonText
  | .workflow => printPlain r.commandText
  | .terminal =>
    print (← orFail .file (r.page pageWidth (!v.quiet) (sourceLines (← get).workspace (some root))))

def saveReport (v : Verbosity) (settings : Settings) (root : Path) (now : Moment) (r : Report) :
    Run Unit := do
  let state ← get
  let saved := r.save settings.output root now state.workspace
  set { state with workspace := saved.workspace }
  showLog v saved.records
  match ← orFail .report saved.outcome with
  | some p => showLog v [⟨.info, .cli, "wrote report to ".toList ++ p.text⟩]
  | none => return ()

def findReport (around : Surroundings) (v : Verbosity) (request : CheckRequest)
    (settings : Settings) (format : CheckFormat) : Run Report :=
  if request.isOfInput then lintInput around.table around.input settings.ignoreList
  else lintFiles around v request settings format

/-- Print what a check has found and save it if that is wanted. Violations are a failure only on
request. -/
def deliver (around : Surroundings) (v : Verbosity) (request : CheckRequest) (settings : Settings)
    (format : CheckFormat) (r : Report) : Run Unit := do
  printReport v request.root format r
  if request.writeReport then saveReport v settings request.root around.now r
  if request.failOnViolations && 0 < r.violationCount.value then throw (.status 1)

def check (around : Surroundings) (v : Verbosity) (words : List Text) : Run Unit := do
  let parsed ← orFail .usage (Arguments.parse checkSpecs true words)
  let request ← orFail id (checkRequest (← get).workspace parsed)
  let format ← orFail id (checkFormat request.format)
  let settings := request.settings (← loadSettings v request.root)
  deliver around v request settings format (← findReport around v request settings format)

def wantsJson (options : List Text) : Except CommandError Bool :=
  let name := formatName (options.getLastD "terminal".toList)
  if name = "json".toList then .ok true
  else if name = "terminal".toList then .ok false
  else .error (.usage (.badFormat ["terminal".toList, "json".toList]))

def listRules (words : List Text) : Run Unit := do
  let parsed ← orFail .usage (Arguments.parse formatSpecs true words)
  if !parsed.words.isEmpty then misuse (.extraArguments parsed.words)
  if ← orFail id (wantsJson parsed.options) then printPlain Rule.listText else print Rule.table

def explain (words : List Text) : Run Unit := do
  let parsed ← orFail .usage (Arguments.parse formatSpecs true words)
  match parsed.words with
  | [] => misuse (.missingArgument "RULE_ID".toList)
  | name :: extra =>
    if !extra.isEmpty then misuse (.extraArguments extra)
    match Rule.find? name with
    | none => misuse (.unknownRule name)
    | some rule =>
      if ← orFail id (wantsJson parsed.options) then printPlain rule.explanationText
      else print (rule.explanation pageWidth)

def command? (around : Surroundings) (v : Verbosity) (name : Text) :
    Option (List Text → Run Unit) :=
  if name = "check".toList then some (check around v)
  else if name = "rules".toList then some listRules
  else if name = "explain".toList then some explain
  else none

def carryOut (around : Surroundings) (words : List Text) : Run Unit := do
  let group ← orFail .usage (Arguments.parse groupSpecs false words)
  if group.options.contains .version then printPlain version
  else
    match group.words with
    | [] => misuse .missingCommand
    | name :: rest =>
      let v := verbosityOf group.options
      match command? around v name with
      | none => misuse (.unknownCommand name)
      | some command =>
        if v.verbose && v.quiet then misuse .loudAndQuiet
        command rest

/-- What a run comes to: its status or the error that broke it off, and the state it leaves. -/
def run (around : Surroundings) (w : Workspace) (words : List Text) :
    Except CommandError Nat × RunState :=
  match (carryOut around words).run.run ⟨w, [], []⟩ with
  | (.ok (), state) => (.ok 0, state)
  | (.error (.status code), state) => (.ok code, state)
  | (.error (.error e), state) => (.error e, state)

end BemLint.Command
