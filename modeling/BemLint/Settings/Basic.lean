import BemLint.Json.Value
import BemLint.Path
import BemLint.Text.Blank
import BemLint.Text.Case
import BemLint.Toml.Value

/-!
# Settings

What a project can set: class names to ignore, the files to look at, directories to pass over, and
where reports go. Two formats carry the same settings under names of their own; both are brought
into one form, which is then checked in a fixed order, so that the first wrong setting is reported.
-/
namespace BemLint

/-- Where reports go. Only both together have an effect. -/
structure ReportTarget where
  path : Option Text := none
  filenamePattern : Option Text := none
deriving DecidableEq, Repr

def defaultExtensions : List Text :=
  [".html".toList, ".htm".toList, ".js".toList, ".jsx".toList, ".ts".toList, ".tsx".toList,
    ".vue".toList]

def defaultExcludedDirectories : List Text :=
  ["node_modules".toList, ".git".toList, "dist".toList, "reports".toList, "bem-reports".toList]

structure Settings where
  ignoreList : List Text := []
  output : ReportTarget := {}
  extensions : List Text := defaultExtensions
  excludedDirectories : List Text := defaultExcludedDirectories
  source : Option Path := none
deriving DecidableEq, Repr

/-- A value that a settings file gives, as far as settings tell values apart. -/
inductive SettingValue where
  | nothing
  | text (value : Text)
  | list (items : List SettingValue)
  | table (fields : List (Text × SettingValue))
  | other
deriving Repr, Inhabited

inductive SettingFault where
  | notTexts (name : Text)
  | notATable (name : Text)
  | notAPath (name : Text)
  | notAText (name : Text)
deriving DecidableEq, Repr

def SettingFault.message : SettingFault → Text
  | .notTexts name => "`".toList ++ name ++ "` must be a list of strings.".toList
  | .notATable name => "`".toList ++ name ++ "` must be an object/table.".toList
  | .notAPath name => "`".toList ++ name ++ "` must be a string path.".toList
  | .notAText name => "`".toList ++ name ++ "` must be a string.".toList

/-- The names of the settings in a format. Where a setting has several names the first one present
counts. Messages put `scope` before a name. -/
structure SettingNames where
  scope : Text
  ignoreList : List Text
  extensions : List Text
  excludedDirectories : List Text
  output : Text
  path : List Text
  filenamePattern : List Text
deriving DecidableEq, Repr

namespace SettingValue

mutual

def ofJson : Json → SettingValue
  | .null => .nothing
  | .str s => .text s
  | .arr items => .list (ofJsonItems items)
  | .obj fields => .table (ofJsonFields fields)
  | _ => .other

def ofJsonItems : List Json → List SettingValue
  | [] => []
  | item :: items => ofJson item :: ofJsonItems items

def ofJsonFields : List (Text × Json) → List (Text × SettingValue)
  | [] => []
  | (name, value) :: fields => (name, ofJson value) :: ofJsonFields fields

end

mutual

def ofToml : Toml → SettingValue
  | .str s => .text s
  | .arr items => .list (ofTomlItems items)
  | .table fields => .table (ofTomlFields fields)
  | _ => .other

def ofTomlItems : List Toml → List SettingValue
  | [] => []
  | item :: items => ofToml item :: ofTomlItems items

def ofTomlFields : List (Text × Toml) → List (Text × SettingValue)
  | [] => []
  | (name, value) :: fields => (name, ofToml value) :: ofTomlFields fields

end

def field? (name : Text) : List (Text × SettingValue) → Option SettingValue
  | [] => none
  | (key, value) :: rest => if key = name then some value else field? name rest

/-- The setting with one of several names: the first name that is present, or the first of all with
nothing. -/
def firstPresent (names : List Text) (fields : List (Text × SettingValue)) :
    Text × SettingValue :=
  let present := names.filterMap fun name => (field? name fields).map fun value => (name, value)
  present.headD (names.headD [], .nothing)

def asText? : SettingValue → Option Text
  | .text s => some s
  | _ => none

/-- The texts that a value lists. Nothing lists none. -/
def asTexts? : SettingValue → Option (List Text)
  | .nothing => some []
  | .list items => items.mapM asText?
  | _ => none

def isNothing : SettingValue → Bool
  | .nothing => true
  | _ => false

end SettingValue

namespace Settings

/-- An extension in its usual form: in lower case, without white space around it, and with a dot at
its front unless it is empty. -/
def normalExtension (given : Text) : Text :=
  match Text.toLower (Text.trim given) with
  | [] => []
  | c :: rest => if c = '.' then c :: rest else '.' :: c :: rest

/-- A text without white space around it, or none when nothing is left. -/
def nonBlank? (given : Text) : Option Text :=
  match Text.trim given with
  | [] => none
  | c :: rest => some (c :: rest)

def readTexts (scope : Text) (setting : Text × SettingValue) : Except SettingFault (List Text) :=
  match setting.2.asTexts? with
  | some texts => .ok texts
  | none => .error (.notTexts (scope ++ setting.1))

/-- A setting that lists texts, or its default when nothing is set. -/
def readTextsOr (default : List Text) (scope : Text) (setting : Text × SettingValue) :
    Except SettingFault (List Text) :=
  if setting.2.isNothing then .ok default else readTexts scope setting

/-- A text inside the setting for reports; `fault` is what to report for another kind of value. -/
def readOutputText (scope : Text) (fault : Text → SettingFault) (setting : Text × SettingValue) :
    Except SettingFault (Option Text) :=
  match setting.2 with
  | .nothing => .ok none
  | .text s => .ok (nonBlank? s)
  | _ => .error (fault (scope ++ ['.'] ++ setting.1))

def readOutput (names : SettingNames) : SettingValue → Except SettingFault ReportTarget
  | .nothing => .ok {}
  | .table fields => do
    let scope := names.scope ++ names.output
    let path ← readOutputText scope .notAPath (SettingValue.firstPresent names.path fields)
    let filenamePattern ←
      readOutputText scope .notAText (SettingValue.firstPresent names.filenamePattern fields)
    return ⟨path, filenamePattern⟩
  | _ => .error (.notATable (names.scope ++ names.output))

def ofFields (names : SettingNames) (source : Path) (fields : List (Text × SettingValue)) :
    Except SettingFault Settings := do
  let ignoreList ← readTexts names.scope (SettingValue.firstPresent names.ignoreList fields)
  let extensions ←
    match SettingValue.firstPresent names.extensions fields with
    | (_, .nothing) => pure defaultExtensions
    | setting => (·.map normalExtension) <$> readTexts names.scope setting
  let excludedDirectories ← readTextsOr defaultExcludedDirectories names.scope
    (SettingValue.firstPresent names.excludedDirectories fields)
  let output ← readOutput names ((SettingValue.field? names.output fields).getD .nothing)
  return ⟨ignoreList, output, extensions, excludedDirectories, some source⟩

end Settings
end BemLint
