import BemLint.Json.Parser
import BemLint.Log
import BemLint.Settings.Basic
import BemLint.Toml.Parser
import BemLint.Workspace.Basic

/-!
# Loading settings

A project keeps its settings in a file of its own or in a table of its project file; the former
wins. What is wrong with such a file is a fault of the settings, which a run can do without. Three
things are not: a file system that does not answer, an integer with too many digits, and values
nested too deeply.
-/
namespace BemLint

inductive ReadFault where
  | file (error : FileError)
  | encoding (broken : Text.Utf8.Broken)
deriving DecidableEq, Repr

namespace ReadFault

def placeText (b : Text.Utf8.Broken) : Text :=
  if b.length = 1 then
    "byte 0x".toList ++ Text.hexDigits 2 b.first.toNat ++ " in position ".toList ++
      Text.ofNat b.position
  else
    "bytes in position ".toList ++ Text.ofNat b.position ++ ['-'] ++
      Text.ofNat (b.position + b.length - 1)

/-- What is wrong with ill-formed bytes. -/
def reasonText : Text.Utf8.Fault → Text
  | .badStart => "invalid start byte".toList
  | .badContinuation => "invalid continuation byte".toList
  | .unexpectedEnd => "unexpected end of data".toList

def message : ReadFault → Text
  | .file error => error.message
  | .encoding b =>
    "'utf-8' codec can't decode ".toList ++ placeText b ++ ": ".toList ++ reasonText b.fault

end ReadFault

inductive SettingsError where
  | unreadable (path : Path) (fault : ReadFault)
  | badJson (path : Path) (source : Text) (fault : Json.Fault) (offset : Nat)
  | badToml (path : Path) (source : Text) (fault : Toml.Fault) (offset : Nat)
  | notAnObject (path : Path)
  | badSetting (fault : SettingFault)
deriving Repr

def SettingsError.message : SettingsError → Text
  | .unreadable path fault =>
    "Failed to read ".toList ++ path.text ++ ": ".toList ++ fault.message
  | .badJson path source fault offset =>
    "Invalid JSON in ".toList ++ path.text ++ ": ".toList ++
      Json.malformedMessage source fault offset
  | .badToml path source fault offset =>
    "Invalid TOML in ".toList ++ path.text ++ ": ".toList ++
      (Toml.Refusal.malformed fault offset).message source
  | .notAnObject path => path.text ++ " must contain a JSON object.".toList
  | .badSetting fault => fault.message

inductive LoadFault where
  | settings (error : SettingsError)
  | file (error : FileError)
  | longInteger (digits : Nat)
  | deepJson (container : Json.Container)
  | deepToml
deriving Repr

def LoadFault.message : LoadFault → Text
  | .settings error => error.message
  | .file error => error.message
  | .longInteger digits => Decimal.longIntegerMessage digits
  | .deepJson container => (Json.Refusal.tooDeep container).message []
  | .deepToml => Toml.Refusal.tooDeep.message []

/-- A computation that keeps a log and may not load settings. -/
abbrev Loading (α : Type) := ExceptT LoadFault (StateM (List LogRecord)) α

namespace Settings

def reject {α : Type} (error : SettingsError) : Loading α := throw (.settings error)

/-- The text of a file whose bytes are all UTF-8, with every line end a line feed. -/
def readStrict (w : Workspace) (p : Path) : Except ReadFault Text :=
  match w.readBytes p with
  | .error error => .error (.file error)
  | .ok bytes =>
    match Text.Utf8.decode bytes with
    | .error broken => .error (.encoding broken)
    | .ok s => .ok (Text.unifyNewlines s)

def readSource (w : Workspace) (p : Path) : Loading Text :=
  match readStrict w p with
  | .ok source => pure source
  | .error fault => reject (.unreadable p fault)

def ownFileName : Text := ".bem-checker-rc.json".toList

def projectFileName : Text := "pyproject.toml".toList

def tableName : Text := "bem-checker".toList

def ownFileNames : SettingNames where
  scope := []
  ignoreList := ["ignoreList".toList]
  extensions := ["extensions".toList]
  excludedDirectories := ["excludeDirs".toList]
  output := "output".toList
  path := ["path".toList]
  filenamePattern := ["filenamePattern".toList]

def projectFileNames : SettingNames where
  scope := "tool.".toList ++ tableName ++ ['.']
  ignoreList := ["ignore-list".toList, "ignore_list".toList]
  extensions := ["extensions".toList]
  excludedDirectories := ["exclude-dirs".toList, "exclude_dirs".toList]
  output := "output".toList
  path := ["path".toList]
  filenamePattern := ["filename-pattern".toList, "filename_pattern".toList]

/-- The settings in a table, which is logged before it is looked at. -/
def readTable (names : SettingNames) (p : Path) (fields : List (Text × SettingValue)) :
    Loading Settings := do
  modify (· ++ [⟨.debug, .config, "loaded config from ".toList ++ p.text⟩])
  match ofFields names p fields with
  | .ok settings => return settings
  | .error fault => reject (.badSetting fault)

def loadOwnFile (w : Workspace) (p : Path) : Loading Settings := do
  let source ← readSource w p
  match Json.parse source with
  | .error (.malformed fault offset) => reject (.badJson p source fault offset)
  | .error (.longInteger digits) => throw (.longInteger digits)
  | .error (.tooDeep container) => throw (.deepJson container)
  | .ok (.obj fields) => readTable ownFileNames p (SettingValue.ofJsonFields fields)
  | .ok _ => reject (.notAnObject p)

/-- The fields of the table of settings in a project file. An empty table is as good as none. -/
def tableFields? (document : Toml.Fields) : Option Toml.Fields :=
  match Toml.field? "tool".toList document with
  | some (.table tools) =>
    match Toml.field? tableName tools with
    | some (.table (field :: fields)) => some (field :: fields)
    | _ => none
  | _ => none

/-- The settings in a project file, if it has any. -/
def loadProjectFile (w : Workspace) (p : Path) : Loading (Option Settings) := do
  let source ← readSource w p
  match Toml.parse source with
  | .error (.malformed fault offset) => reject (.badToml p source fault offset)
  | .error (.longInteger digits) => throw (.longInteger digits)
  | .error .tooDeep => throw .deepToml
  | .ok document =>
    match tableFields? document with
    | none => return none
    | some fields =>
      return some (← readTable projectFileNames p (SettingValue.ofTomlFields fields))

def isThere (w : Workspace) (p : Path) : Loading Bool :=
  match w.hasEntry p with
  | .ok found => pure found
  | .error error => throw (.file error)

/-- The settings of the project in a directory, the defaults if it has none. -/
def load (w : Workspace) (directory : Path) : Loading Settings := do
  let own := directory.child ownFileName
  if ← isThere w own then loadOwnFile w own
  else
    let project := directory.child projectFileName
    if ← isThere w project then
      match ← loadProjectFile w project with
      | some settings => return settings
      | none => return {}
    else return {}

/-- The settings of the project in a directory; wrong settings are logged and the defaults hold. -/
def loadOrDefault (w : Workspace) (directory : Path) : Loading Settings :=
  tryCatch (load w directory) fun fault =>
    match fault with
    | .settings error => do
      modify (· ++ [⟨.warning, .config, error.message ++ "; falling back to defaults".toList⟩])
      return {}
    | other => throw other

end Settings
end BemLint
