import BemLint.Settings.Load
import Mathlib.Data.List.Forall2

/-!
# Tables of settings

A table of settings, whatever format it is written in, with the values that both formats can write and
what the settings come to. A format says such a table by its fields, under names of its own, and is
brought into the common form in which settings are checked.
-/
namespace BemLint

/-- A value that both formats can write. -/
inductive SharedValue where
  | bool (value : Bool)
  | int (value : Int)
  | float (value : Decimal.Binary64)
  | text (value : Text)
  | list (items : List SharedValue)
  | table (fields : List (Text × SharedValue))

namespace SharedValue

mutual

def toJson : SharedValue → Json
  | .bool b => .bool b
  | .int n => .int n
  | .float x => .float x
  | .text s => .str s
  | .list items => .arr (toJsonItems items)
  | .table fields => .obj (toJsonFields fields)

def toJsonItems : List SharedValue → List Json
  | [] => []
  | item :: items => toJson item :: toJsonItems items

def toJsonFields : List (Text × SharedValue) → List (Text × Json)
  | [] => []
  | (name, value) :: fields => (name, toJson value) :: toJsonFields fields

end

mutual

def toToml : SharedValue → Toml
  | .bool b => .bool b
  | .int n => .int n
  | .float x => .float x
  | .text s => .str s
  | .list items => .arr (toTomlItems items)
  | .table fields => .table (toTomlFields fields)

def toTomlItems : List SharedValue → List Toml
  | [] => []
  | item :: items => toToml item :: toTomlItems items

def toTomlFields : List (Text × SharedValue) → List (Text × Toml)
  | [] => []
  | (name, value) :: fields => (name, toToml value) :: toTomlFields fields

end

/-- A value as settings tell values apart. -/
def asSetting (v : SharedValue) : SettingValue := .ofJson v.toJson

mutual

/-- Settings do not tell the two formats of a value apart. -/
theorem ofToml_toToml (v : SharedValue) : SettingValue.ofToml v.toToml = v.asSetting := by
  cases v with
  | bool | int | float | text => rfl
  | list items =>
    rw [toToml, SettingValue.ofToml, ofTomlItems_toTomlItems items]
    rfl
  | table fields =>
    rw [toToml, SettingValue.ofToml, ofTomlFields_toTomlFields fields]
    rfl

theorem ofTomlItems_toTomlItems (items : List SharedValue) :
    SettingValue.ofTomlItems (toTomlItems items) = SettingValue.ofJsonItems (toJsonItems items) := by
  cases items with
  | nil => rfl
  | cons item items =>
    rw [toTomlItems, SettingValue.ofTomlItems, ofToml_toToml item, ofTomlItems_toTomlItems items]
    rfl

theorem ofTomlFields_toTomlFields (fields : List (Text × SharedValue)) :
    SettingValue.ofTomlFields (toTomlFields fields) =
      SettingValue.ofJsonFields (toJsonFields fields) := by
  cases fields with
  | nil => rfl
  | cons field fields =>
    obtain ⟨name, value⟩ := field
    rw [toTomlFields, SettingValue.ofTomlFields, ofToml_toToml value,
      ofTomlFields_toTomlFields fields]
    rfl

end

theorem asSetting_list (items : List SharedValue) :
    (list items).asSetting = .list (items.map asSetting) := by
  have each : SettingValue.ofJsonItems (toJsonItems items) = items.map asSetting := by
    induction items with
    | nil => rfl
    | cons item items ih =>
      rw [toJsonItems, SettingValue.ofJsonItems, ih]
      rfl
  rw [asSetting, toJson, SettingValue.ofJson, each]

theorem isNothing_asSetting (v : SharedValue) : v.asSetting.isNothing = false := by
  cases v <;> rfl

theorem asText?_iff (v : SharedValue) (s : Text) :
    v.asSetting.asText? = some s ↔ v = .text s := by
  cases v <;> simp [asSetting, toJson, SettingValue.ofJson, SettingValue.asText?]

theorem mapM_asText?_iff (items : List SharedValue) (texts : List Text) :
    (items.map asSetting).mapM SettingValue.asText? = some texts ↔ items = texts.map .text := by
  induction items generalizing texts with
  | nil => cases texts <;> simp
  | cons item items ih =>
    cases texts with
    | nil => simp [Option.bind_eq_some_iff]
    | cons s texts => simp [Option.bind_eq_some_iff, asText?_iff, ih, -List.mapM_map]

theorem asTexts?_iff (v : SharedValue) (texts : List Text) :
    v.asSetting.asTexts? = some texts ↔ v = .list (texts.map .text) := by
  cases v with
  | list items =>
    rw [asSetting_list, SettingValue.asTexts?, mapM_asText?_iff, SharedValue.list.injEq]
  | bool | int | float | text | table =>
    simp [asSetting, toJson, SettingValue.ofJson, SettingValue.asTexts?]

end SharedValue

/-! ## Tables of settings -/

/-- The setting for reports: a table, or another value. -/
inductive SharedOutput where
  | table (path filenamePattern : Option SharedValue)
  | other (value : SharedValue) (noTable : ∀ fields, value ≠ .table fields)

structure SharedSettings where
  ignoreList : Option SharedValue := none
  extensions : Option SharedValue := none
  excludedDirectories : Option SharedValue := none
  output : Option SharedOutput := none

inductive SettingKey where
  | ignoreList
  | extensions
  | excludedDirectories
  | output
  | path
  | filenamePattern

namespace SharedSettings

def path? (T : SharedSettings) : Option SharedValue :=
  match T.output with
  | some (.table path _) => path
  | _ => none

def filenamePattern? (T : SharedSettings) : Option SharedValue :=
  match T.output with
  | some (.table _ filenamePattern) => filenamePattern
  | _ => none

/-- Whether a setting has the right kind of value, or none. -/
def Accepts (T : SharedSettings) : SettingKey → Prop
  | .ignoreList => ∀ v, T.ignoreList = some v → ∃ texts : List Text, v = .list (texts.map .text)
  | .extensions => ∀ v, T.extensions = some v → ∃ texts : List Text, v = .list (texts.map .text)
  | .excludedDirectories =>
    ∀ v, T.excludedDirectories = some v → ∃ texts : List Text, v = .list (texts.map .text)
  | .output => ∀ v noTable, T.output ≠ some (.other v noTable)
  | .path => ∀ v, T.path? = some v → ∃ s, v = .text s
  | .filenamePattern => ∀ v, T.filenamePattern? = some v → ∃ s, v = .text s

/-- What a list setting comes to. -/
inductive Lists (default : List Text) : Option SharedValue → List Text → Prop where
  | absent : Lists default none default
  | listed (texts : List Text) : Lists default (some (.list (texts.map .text))) texts

inductive UsualForm (given : Text) : Text → Prop where
  | empty (bare : Text.toLower (Text.trim given) = []) : UsualForm given []
  | dotted {rest : Text} (bare : Text.toLower (Text.trim given) = '.' :: rest) :
      UsualForm given ('.' :: rest)
  | undotted {c : Char} {rest : Text} (other : c ≠ '.')
      (bare : Text.toLower (Text.trim given) = c :: rest) : UsualForm given ('.' :: c :: rest)

inductive Trims : Option SharedValue → Option Text → Prop where
  | absent : Trims none none
  | blank {s : Text} (empty : Text.trim s = []) : Trims (some (.text s)) none
  | filled {s : Text} (solid : Text.trim s ≠ []) : Trims (some (.text s)) (some (Text.trim s))

def ExtensionsOf (value : Option SharedValue) (extensions : List Text) : Prop :=
  value = none ∧ extensions = defaultExtensions ∨
    ∃ texts : List Text, value = some (.list (texts.map .text)) ∧
      List.Forall₂ UsualForm texts extensions

structure OutputOf (T : SharedSettings) (target : ReportTarget) : Prop where
  isTable : ∀ v noTable, T.output ≠ some (.other v noTable)
  path : Trims T.path? target.path
  filenamePattern : Trims T.filenamePattern? target.filenamePattern

/-- What a table of settings comes to, but for where it stands. -/
structure Gives (T : SharedSettings) (settings : Settings) : Prop where
  ignoreList : Lists [] T.ignoreList settings.ignoreList
  extensions : ExtensionsOf T.extensions settings.extensions
  excludedDirectories :
    Lists defaultExcludedDirectories T.excludedDirectories settings.excludedDirectories
  output : OutputOf T settings.output

theorem Lists.accepted {default texts : List Text} {value : Option SharedValue}
    (lists : Lists default value texts) (v : SharedValue) (given : value = some v) :
    ∃ texts : List Text, v = .list (texts.map .text) := by
  cases lists with
  | absent => cases given
  | listed =>
    cases given
    exact ⟨_, rfl⟩

theorem Trims.accepted {value : Option SharedValue} {result : Option Text}
    (trims : Trims value result) (v : SharedValue) (given : value = some v) :
    ∃ s, v = .text s := by
  cases trims with
  | absent => cases given
  | blank | filled =>
    cases given
    exact ⟨_, rfl⟩

/-- A table that comes to settings has no wrong one. -/
theorem Gives.accepts {T : SharedSettings} {settings : Settings} (gives : T.Gives settings)
    (key : SettingKey) : T.Accepts key := by
  cases key with
  | ignoreList => exact gives.ignoreList.accepted
  | extensions =>
    intro v given
    rcases gives.extensions with ⟨absent, -⟩ | ⟨texts, listed, -⟩
    · rw [absent] at given
      cases given
    · exact ⟨texts, Option.some.inj (given.symm.trans listed)⟩
  | excludedDirectories => exact gives.excludedDirectories.accepted
  | output => exact gives.output.isTable
  | path => exact gives.output.path.accepted
  | filenamePattern => exact gives.output.filenamePattern.accepted

end SharedSettings

/-! ## Formats -/

/-- A format with values of a type: how fields are found and values are written, what stands before
the names in messages, and the names of each setting, of which the first present counts. -/
structure SettingFormat (V : Type) where
  field? : Text → List (Text × V) → Option V
  write : SharedValue → V
  table : List (Text × V) → V
  scope : Text
  keys : SettingKey → List Text

namespace SettingFormat

def json : SettingFormat Json where
  field? := Json.field?
  write := SharedValue.toJson
  table := .obj
  scope := []
  keys
    | .ignoreList => ["ignoreList".toList]
    | .extensions => ["extensions".toList]
    | .excludedDirectories => ["excludeDirs".toList]
    | .output => ["output".toList]
    | .path => ["path".toList]
    | .filenamePattern => ["filenamePattern".toList]

def toml : SettingFormat Toml where
  field? := Toml.field?
  write := SharedValue.toToml
  table := .table
  scope := "tool.bem-checker.".toList
  keys
    | .ignoreList => ["ignore-list".toList, "ignore_list".toList]
    | .extensions => ["extensions".toList]
    | .excludedDirectories => ["exclude-dirs".toList, "exclude_dirs".toList]
    | .output => ["output".toList]
    | .path => ["path".toList]
    | .filenamePattern => ["filename-pattern".toList, "filename_pattern".toList]

section

variable {V : Type} (F : SettingFormat V)

/-- The value of a setting: that of the first of its names that is present. -/
def first? (key : SettingKey) (fields : List (Text × V)) : Option V :=
  (F.keys key).findSome? fun name => F.field? name fields

/-- The fields of a format say what the setting for reports is. -/
inductive SaysOutput (fields : List (Text × V)) : Option SharedOutput → Prop where
  | absent (missing : F.first? .output fields = none) : SaysOutput fields none
  | other {v : SharedValue} {noTable : ∀ fields, v ≠ .table fields}
      (given : F.first? .output fields = some (F.write v)) :
      SaysOutput fields (some (.other v noTable))
  | table {inner : List (Text × V)} {path filenamePattern : Option SharedValue}
      (given : F.first? .output fields = some (F.table inner))
      (pathGiven : F.first? .path inner = path.map F.write)
      (filenamePatternGiven : F.first? .filenamePattern inner = filenamePattern.map F.write) :
      SaysOutput fields (some (.table path filenamePattern))

/-- The fields of a format say what each setting is. -/
structure Says (T : SharedSettings) (fields : List (Text × V)) : Prop where
  ignoreList : F.first? .ignoreList fields = T.ignoreList.map F.write
  extensions : F.first? .extensions fields = T.extensions.map F.write
  excludedDirectories : F.first? .excludedDirectories fields = T.excludedDirectories.map F.write
  output : F.SaysOutput fields T.output

/-- A fault of a setting, under one of its names in a format. -/
inductive Blames : SettingKey → SettingFault → Prop where
  | ignoreList {name : Text} (known : name ∈ F.keys .ignoreList) :
      Blames .ignoreList (.notTexts (F.scope ++ name))
  | extensions {name : Text} (known : name ∈ F.keys .extensions) :
      Blames .extensions (.notTexts (F.scope ++ name))
  | excludedDirectories {name : Text} (known : name ∈ F.keys .excludedDirectories) :
      Blames .excludedDirectories (.notTexts (F.scope ++ name))
  | output {name : Text} (known : name ∈ F.keys .output) :
      Blames .output (.notATable (F.scope ++ name))
  | path {outer name : Text} (within : outer ∈ F.keys .output) (known : name ∈ F.keys .path) :
      Blames .path (.notAPath (F.scope ++ outer ++ ['.'] ++ name))
  | filenamePattern {outer name : Text} (within : outer ∈ F.keys .output)
      (known : name ∈ F.keys .filenamePattern) :
      Blames .filenamePattern (.notAText (F.scope ++ outer ++ ['.'] ++ name))

/-- A format is brought into the common form, value by value, with its names. -/
structure Reads (names : SettingNames) (read : V → SettingValue)
    (readFields : List (Text × V) → List (Text × SettingValue)) : Prop where
  scope : names.scope = F.scope
  ignoreList : names.ignoreList = F.keys .ignoreList
  extensions : names.extensions = F.keys .extensions
  excludedDirectories : names.excludedDirectories = F.keys .excludedDirectories
  output : [names.output] = F.keys .output
  path : names.path = F.keys .path
  filenamePattern : names.filenamePattern = F.keys .filenamePattern
  named : ∀ key, F.keys key ≠ []
  field : ∀ name fields,
    SettingValue.field? name (readFields fields) = (F.field? name fields).map read
  write : ∀ v, read (F.write v) = v.asSetting
  table : ∀ fields, read (F.table fields) = .table (readFields fields)

end

theorem json_reads :
    json.Reads Settings.ownFileNames SettingValue.ofJson SettingValue.ofJsonFields where
  scope := rfl
  ignoreList := rfl
  extensions := rfl
  excludedDirectories := rfl
  output := rfl
  path := rfl
  filenamePattern := rfl
  named key := by cases key <;> exact List.cons_ne_nil _ _
  field name fields := by
    induction fields with
    | nil => rfl
    | cons field fields ih =>
      obtain ⟨key, value⟩ := field
      rw [SettingValue.ofJsonFields, SettingValue.field?, ih]
      change _ = (Json.field? name _).map _
      rw [Json.field?]
      split <;> rfl
  write _ := rfl
  table _ := rfl

theorem toml_reads :
    toml.Reads Settings.projectFileNames SettingValue.ofToml SettingValue.ofTomlFields where
  scope := rfl
  ignoreList := rfl
  extensions := rfl
  excludedDirectories := rfl
  output := rfl
  path := rfl
  filenamePattern := rfl
  named key := by cases key <;> exact List.cons_ne_nil _ _
  field name fields := by
    induction fields with
    | nil => rfl
    | cons field fields ih =>
      obtain ⟨key, value⟩ := field
      rw [SettingValue.ofTomlFields, SettingValue.field?, ih]
      change _ = (Toml.field? name _).map _
      rw [Toml.field?]
      split <;> rfl
  write := SharedValue.ofToml_toToml
  table _ := rfl

/-- A setting in the common form, nothing when it is absent. -/
def settingOf (value : Option SharedValue) : SettingValue :=
  (value.map SharedValue.asSetting).getD .nothing

theorem firstPresent_eq (names : List Text) (fields : List (Text × SettingValue))
    (named : names ≠ []) : ∃ name ∈ names, SettingValue.firstPresent names fields =
      (name, (names.findSome? fun name => SettingValue.field? name fields).getD .nothing) := by
  have values : (names.findSome? fun name => SettingValue.field? name fields) =
      (names.findSome? fun name => (SettingValue.field? name fields).map (name, ·)).map (·.2) := by
    rw [List.map_findSome?]
    simp [Function.comp_def]
  have first : SettingValue.firstPresent names fields =
      (names.findSome? fun name => (SettingValue.field? name fields).map (name, ·)).getD
        (names.headD [], .nothing) := by
    rw [SettingValue.firstPresent, List.headD_eq_head?_getD, List.head?_filterMap]
  rw [first, values]
  cases found : names.findSome? fun name => (SettingValue.field? name fields).map (name, ·) with
  | none =>
    obtain ⟨name, rest, rfl⟩ := List.exists_cons_of_ne_nil named
    exact ⟨name, by simp, rfl⟩
  | some present =>
    obtain ⟨name, known, given⟩ := List.exists_of_findSome?_eq_some found
    obtain ⟨value, -, rfl⟩ := Option.map_eq_some_iff.mp given
    exact ⟨name, known, rfl⟩

/-- What a format says of a setting is found under one of its names. -/
theorem Reads.firstPresent {V : Type} {F : SettingFormat V} {names : SettingNames}
    {read : V → SettingValue} {readFields : List (Text × V) → List (Text × SettingValue)}
    (reads : F.Reads names read readFields) {key : SettingKey} {fields : List (Text × V)}
    {value : Option SharedValue} (given : F.first? key fields = value.map F.write) :
    ∃ name ∈ F.keys key, SettingValue.firstPresent (F.keys key) (readFields fields) =
      (name, settingOf value) := by
  obtain ⟨name, known, first⟩ :=
    firstPresent_eq (F.keys key) (readFields fields) (reads.named key)
  refine ⟨name, known, first.trans ?_⟩
  have found : ((F.keys key).findSome? fun name => SettingValue.field? name (readFields fields)) =
      (F.first? key fields).map read := by
    simp only [reads.field, first?]
    exact List.map_findSome?.symm
  have same : (value.map F.write).map read = value.map SharedValue.asSetting := by
    rw [Option.map_map]
    exact congrArg (value.map ·) (funext reads.write)
  rw [found, given, same]
  rfl

end SettingFormat

end BemLint
