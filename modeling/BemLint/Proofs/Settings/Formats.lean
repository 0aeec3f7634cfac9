import BemLint.Proofs.Settings.Fallback
import BemLint.Proofs.Settings.Schema

/-!
# One schema in two formats

A table of settings can stand in a file of its own or in the project file. Reading goes through the
same steps in both, so the two readings are followed side by side: after every step they have come to
the same, or have stopped at the same setting. Only the file that the settings are said to come from
differs, and the names in what is said to be wrong.
-/
namespace BemLint

open SettingFormat (settingOf)

variable {V V' α β : Type} {T : SharedSettings} {F : SettingFormat V} {G : SettingFormat V'}

/-- Two readings of a table come to related results, or both blame one wrong setting. -/
inductive Agree (T : SharedSettings) (F : SettingFormat V) (G : SettingFormat V')
    (post : α → α → Prop) : Except SettingFault α → Except SettingFault α → Prop where
  | same {a b : α} (holds : post a b) : Agree T F G post (.ok a) (.ok b)
  | wrong {key : SettingKey} {fault fault' : SettingFault} (refused : ¬T.Accepts key)
      (blamed : F.Blames key fault) (blamed' : G.Blames key fault') :
      Agree T F G post (.error fault) (.error fault')

theorem Agree.bind {x y : Except SettingFault α} {f g : α → Except SettingFault β}
    {mid : α → α → Prop} {post : β → β → Prop} (first : Agree T F G mid x y)
    (next : ∀ a b, mid a b → Agree T F G post (f a) (g b)) :
    Agree T F G post (x >>= f) (y >>= g) := by
  cases first with
  | same holds => exact next _ _ holds
  | wrong refused blamed blamed' => exact .wrong refused blamed blamed'

theorem Agree.map {x y : Except SettingFault α} {f : α → β} {mid : α → α → Prop}
    {post : β → β → Prop} (first : Agree T F G mid x y) (next : ∀ a b, mid a b → post (f a) (f b)) :
    Agree T F G post (f <$> x) (f <$> y) := by
  cases first with
  | same holds => exact .same (next _ _ holds)
  | wrong refused blamed blamed' => exact .wrong refused blamed blamed'

namespace Settings

open SharedSettings

/-! ## Single settings -/

/-- A list setting is read as its texts, or refused under the name it has. -/
theorem readTextsOr_cases (default : List Text) (value : Option SharedValue) :
    (∃ texts, Lists default value texts ∧
        ∀ scope name, readTextsOr default scope (name, settingOf value) = .ok texts) ∨
      (¬∀ v, value = some v → ∃ texts : List Text, v = .list (texts.map .text)) ∧ ∀ scope name,
        readTextsOr default scope (name, settingOf value) = .error (.notTexts (scope ++ name)) := by
  cases value with
  | none => exact .inl ⟨default, .absent, fun _ _ => rfl⟩
  | some v =>
    have present : ∀ scope name, readTextsOr default scope (name, settingOf (some v)) =
        readTexts scope (name, v.asSetting) := fun scope name =>
      if_neg (by simp [settingOf, v.isNothing_asSetting])
    cases listed : v.asSetting.asTexts? with
    | some texts =>
      obtain rfl := (v.asTexts?_iff texts).mp listed
      refine .inl ⟨texts, .listed texts, fun scope name => ?_⟩
      rw [present, readTexts, listed]
    | none =>
      refine .inr ⟨fun all => ?_, fun scope name => ?_⟩
      · obtain ⟨texts, rfl⟩ := all v rfl
        rw [((SharedValue.list _).asTexts?_iff texts).mpr rfl] at listed
        cases listed
      · rw [present, readTexts, listed]

theorem readTexts_eq (scope name : Text) (value : Option SharedValue) :
    readTexts scope (name, settingOf value) = readTextsOr [] scope (name, settingOf value) := by
  cases value with
  | none => rfl
  | some v => exact (if_neg (by simp [settingOf, v.isNothing_asSetting])).symm

/-- The two readings of a list setting agree. -/
theorem texts_agree {key : SettingKey} {value : Option SharedValue} (default : List Text)
    (accepts : T.Accepts key = ∀ v, value = some v → ∃ texts : List Text, v = .list (texts.map .text))
    {scope scope' name name' : Text} (blames : F.Blames key (.notTexts (scope ++ name)))
    (blames' : G.Blames key (.notTexts (scope' ++ name'))) :
    Agree T F G (fun a b => a = b ∧ Lists default value a)
      (readTextsOr default scope (name, settingOf value))
      (readTextsOr default scope' (name', settingOf value)) := by
  rcases readTextsOr_cases default value with ⟨texts, lists, read⟩ | ⟨wrong, read⟩
  · rw [read, read]
    exact .same ⟨rfl, lists⟩
  · rw [read, read]
    exact .wrong (accepts ▸ wrong) blames blames'

theorem usualForm_normalExtension (given : Text) : UsualForm given (normalExtension given) := by
  rw [normalExtension]
  split
  next bare => exact .empty bare
  next c rest bare =>
    split
    next dot => exact dot ▸ .dotted (dot ▸ bare)
    next other => exact .undotted other bare

theorem extensionsOf_map {v : SharedValue} {texts : List Text} (lists : Lists [] (some v) texts) :
    ExtensionsOf (some v) (texts.map normalExtension) := by
  cases lists
  refine .inr ⟨texts, rfl, ?_⟩
  rw [List.forall₂_map_right_iff]
  exact List.forall₂_same.mpr fun given _ => usualForm_normalExtension given

/-- The two readings of a setting for extensions agree. -/
theorem extensions_agree {v : SharedValue}
    (accepts : T.Accepts .extensions =
      ∀ w, some v = some w → ∃ texts : List Text, w = .list (texts.map .text))
    {scope scope' name name' : Text} (blames : F.Blames .extensions (.notTexts (scope ++ name)))
    (blames' : G.Blames .extensions (.notTexts (scope' ++ name'))) :
    Agree T F G (fun a b => a = b ∧ ExtensionsOf (some v) a)
      ((·.map normalExtension) <$> readTexts scope (name, settingOf (some v)))
      ((·.map normalExtension) <$> readTexts scope' (name', settingOf (some v))) := by
  rw [readTexts_eq, readTexts_eq]
  refine (texts_agree [] accepts blames blames').map ?_
  rintro texts _ ⟨rfl, lists⟩
  exact ⟨rfl, extensionsOf_map lists⟩

/-! ## Reports -/

theorem trims_nonBlank (s : Text) : Trims (some (.text s)) (nonBlank? s) := by
  rw [nonBlank?]
  split
  next empty => exact .blank empty
  next c rest solid => exact solid ▸ .filled (by simp [solid])

/-- A text inside the setting for reports is trimmed, or refused under the name it has. -/
theorem readOutputText_cases (value : Option SharedValue) :
    (∃ text, Trims value text ∧
        ∀ scope fault name, readOutputText scope fault (name, settingOf value) = .ok text) ∨
      (¬∀ v, value = some v → ∃ s, v = .text s) ∧ ∀ scope fault name,
        readOutputText scope fault (name, settingOf value) =
          .error (fault (scope ++ ['.'] ++ name)) := by
  cases value with
  | none => exact .inl ⟨none, .absent, fun _ _ _ => rfl⟩
  | some v =>
    cases v with
    | text s => exact .inl ⟨_, trims_nonBlank s, fun _ _ _ => rfl⟩
    | bool | int | float | list | table =>
      refine .inr ⟨fun all => ?_, fun _ _ _ => rfl⟩
      obtain ⟨s, isText⟩ := all _ rfl
      cases isText

/-- The two readings of a text inside the setting for reports agree. -/
theorem outputText_agree {key : SettingKey} {value : Option SharedValue} {kind : Text → SettingFault}
    (accepts : T.Accepts key = ∀ v, value = some v → ∃ s, v = .text s) {scope scope' name name' : Text}
    (blames : F.Blames key (kind (scope ++ ['.'] ++ name)))
    (blames' : G.Blames key (kind (scope' ++ ['.'] ++ name'))) :
    Agree T F G (fun a b => a = b ∧ Trims value a)
      (readOutputText scope kind (name, settingOf value))
      (readOutputText scope' kind (name', settingOf value)) := by
  rcases readOutputText_cases value with ⟨text, trims, read⟩ | ⟨wrong, read⟩
  · rw [read, read]
    exact .same ⟨rfl, trims⟩
  · rw [read, read]
    exact .wrong (accepts ▸ wrong) blames blames'

section

variable {names names' : SettingNames} {read : V → SettingValue} {read' : V' → SettingValue}
  {readFields : List (Text × V) → List (Text × SettingValue)}
  {readFields' : List (Text × V') → List (Text × SettingValue)}
  {fields : List (Text × V)} {fields' : List (Text × V')}

theorem field?_output (reads : F.Reads names read readFields) (fields : List (Text × V)) :
    SettingValue.field? names.output (readFields fields) = (F.first? .output fields).map read := by
  rw [reads.field, SettingFormat.first?, ← reads.output]
  cases found : F.field? names.output fields <;> simp [found]

theorem readOutput_other (names : SettingNames) {v : SharedValue}
    (noTable : ∀ fields, v ≠ .table fields) :
    readOutput names v.asSetting = .error (.notATable (names.scope ++ names.output)) := by
  cases v with
  | table fields => exact absurd rfl (noTable fields)
  | bool | int | float | text | list => rfl

/-- The two readings of the setting for reports agree. -/
theorem output_agree (reads : F.Reads names read readFields)
    (reads' : G.Reads names' read' readFields') (given : F.SaysOutput fields T.output)
    (given' : G.SaysOutput fields' T.output) :
    Agree T F G (fun a b => a = b ∧ OutputOf T a)
      (readOutput names ((SettingValue.field? names.output (readFields fields)).getD .nothing))
      (readOutput names' ((SettingValue.field? names'.output (readFields' fields')).getD .nothing)) := by
  have known : names.output ∈ F.keys .output := by simp [← reads.output]
  have known' : names'.output ∈ G.keys .output := by simp [← reads'.output]
  rw [field?_output reads, field?_output reads']
  cases shape : T.output with
  | none =>
    rw [shape] at given given'
    obtain ⟨missing⟩ := given
    obtain ⟨missing'⟩ := given'
    rw [missing, missing']
    refine .same ⟨rfl, by simp [shape], ?_, ?_⟩
    · rw [path?, shape]
      exact .absent
    · rw [filenamePattern?, shape]
      exact .absent
  | some output =>
    rw [shape] at given given'
    cases output with
    | other v noTable =>
      obtain - | ⟨present⟩ := given
      obtain - | ⟨present'⟩ := given'
      rw [present, present', Option.map_some, Option.map_some, reads.write, reads'.write,
        Option.getD_some, readOutput_other names noTable,
        readOutput_other names' noTable, reads.scope, reads'.scope]
      have refused : ¬T.Accepts .output := fun accepted => accepted v noTable shape
      exact .wrong refused (.output known) (.output known')
    | table path filenamePattern =>
      obtain - | - | ⟨present, pathGiven, patternGiven⟩ := given
      obtain - | - | ⟨present', pathGiven', patternGiven'⟩ := given'
      have isPath : T.path? = path := by rw [path?, shape]
      have isPattern : T.filenamePattern? = filenamePattern := by rw [filenamePattern?, shape]
      obtain ⟨name, named, first⟩ := reads.firstPresent pathGiven
      obtain ⟨name', named', first'⟩ := reads'.firstPresent pathGiven'
      obtain ⟨pattern, patterned, second⟩ := reads.firstPresent patternGiven
      obtain ⟨pattern', patterned', second'⟩ := reads'.firstPresent patternGiven'
      rw [present, present', Option.map_some, Option.map_some, reads.table, reads'.table,
        Option.getD_some, Option.getD_some, readOutput, readOutput, reads.path, reads'.path,
        reads.filenamePattern, reads'.filenamePattern, first, first', second, second', reads.scope,
        reads'.scope]
      refine (outputText_agree (isPath ▸ rfl) (.path known named) (.path known' named')).bind ?_
      rintro target _ ⟨rfl, trims⟩
      refine (outputText_agree (isPattern ▸ rfl) (.filenamePattern known patterned)
        (.filenamePattern known' patterned')).bind ?_
      rintro file _ ⟨rfl, trims'⟩
      exact .same ⟨rfl, by simp [shape], isPath ▸ trims, isPattern ▸ trims'⟩

/-- Settings that a table comes to, said to come from one file and from another. -/
def GivenBoth (T : SharedSettings) (p p' : Path) (a b : Settings) : Prop :=
  ∃ settings, T.Gives settings ∧ a = { settings with source := some p } ∧
    b = { settings with source := some p' }

/-- After the first two settings the two readings of a table agree about the rest. -/
theorem rest_agree (reads : F.Reads names read readFields)
    (reads' : G.Reads names' read' readFields') (given : F.Says T fields) (given' : G.Says T fields')
    (p p' : Path) {ignoreList extensions : List Text} (ignoreLists : Lists [] T.ignoreList ignoreList)
    (extensionLists : ExtensionsOf T.extensions extensions) :
    Agree T F G (GivenBoth T p p')
      (do
        let excludedDirectories ← readTextsOr defaultExcludedDirectories names.scope
          (SettingValue.firstPresent names.excludedDirectories (readFields fields))
        let output ← readOutput names
          ((SettingValue.field? names.output (readFields fields)).getD .nothing)
        return ⟨ignoreList, output, extensions, excludedDirectories, some p⟩)
      (do
        let excludedDirectories ← readTextsOr defaultExcludedDirectories names'.scope
          (SettingValue.firstPresent names'.excludedDirectories (readFields' fields'))
        let output ← readOutput names'
          ((SettingValue.field? names'.output (readFields' fields')).getD .nothing)
        return ⟨ignoreList, output, extensions, excludedDirectories, some p'⟩) := by
  obtain ⟨dirs, known, first⟩ := reads.firstPresent given.excludedDirectories
  obtain ⟨dirs', known', first'⟩ := reads'.firstPresent given'.excludedDirectories
  rw [reads.excludedDirectories, reads'.excludedDirectories, first, first']
  have blames : F.Blames .excludedDirectories (.notTexts (names.scope ++ dirs)) :=
    reads.scope ▸ .excludedDirectories known
  have blames' : G.Blames .excludedDirectories (.notTexts (names'.scope ++ dirs')) :=
    reads'.scope ▸ .excludedDirectories known'
  refine (texts_agree defaultExcludedDirectories rfl blames blames').bind ?_
  rintro directories _ ⟨rfl, directoryLists⟩
  refine (output_agree reads reads' given.output given'.output).bind ?_
  rintro target _ ⟨rfl, outputs⟩
  refine .same ⟨⟨ignoreList, target, extensions, directories, none⟩, ?_, rfl, rfl⟩
  exact ⟨ignoreLists, extensionLists, directoryLists, outputs⟩

/-- The two readings of a table of settings agree. -/
theorem ofFields_agree (reads : F.Reads names read readFields)
    (reads' : G.Reads names' read' readFields') (given : F.Says T fields) (given' : G.Says T fields')
    (p p' : Path) :
    Agree T F G (GivenBoth T p p') (ofFields names p (readFields fields))
      (ofFields names' p' (readFields' fields')) := by
  obtain ⟨ignore, ignoreKnown, ignoreFirst⟩ := reads.firstPresent given.ignoreList
  obtain ⟨ignore', ignoreKnown', ignoreFirst'⟩ := reads'.firstPresent given'.ignoreList
  obtain ⟨ext, known, first⟩ := reads.firstPresent given.extensions
  obtain ⟨ext', known', first'⟩ := reads'.firstPresent given'.extensions
  rw [ofFields, ofFields, reads.ignoreList, reads'.ignoreList, reads.extensions, reads'.extensions,
    ignoreFirst, ignoreFirst', first, first', readTexts_eq, readTexts_eq]
  have blames : F.Blames .ignoreList (.notTexts (names.scope ++ ignore)) :=
    reads.scope ▸ .ignoreList ignoreKnown
  have blames' : G.Blames .ignoreList (.notTexts (names'.scope ++ ignore')) :=
    reads'.scope ▸ .ignoreList ignoreKnown'
  refine (texts_agree [] rfl blames blames').bind ?_
  rintro ignoreList _ ⟨rfl, ignoreLists⟩
  have rest : ∀ extensions, ExtensionsOf T.extensions extensions →
      Agree T F G (GivenBoth T p p') _ _ := fun _ lists =>
    rest_agree reads reads' given given' p p' ignoreLists lists
  cases shape : T.extensions with
  | none => exact rest defaultExtensions (.inl ⟨shape, rfl⟩)
  | some v =>
    have accepts : T.Accepts .extensions =
        ∀ w, some v = some w → ∃ texts : List Text, w = .list (texts.map .text) := by
      rw [Accepts, shape]
    have blames : F.Blames .extensions (.notTexts (names.scope ++ ext)) :=
      reads.scope ▸ .extensions known
    have blames' : G.Blames .extensions (.notTexts (names'.scope ++ ext')) :=
      reads'.scope ▸ .extensions known'
    have both := extensions_agree accepts blames blames'
    -- the reading looks at the kind of value before it goes on
    cases v
    all_goals
      refine both.bind ?_
      rintro texts _ ⟨rfl, found⟩
      exact rest texts (shape ▸ found)

end

/-! ## Files -/

/-- A text in JSON says a table of settings. -/
def SaidInJson (T : SharedSettings) (source : Text) : Prop :=
  ∃ fields, Json.parse source = .ok (.obj fields) ∧ SettingFormat.json.Says T fields

/-- A text in TOML says a table of settings in its place. -/
def SaidInToml (T : SharedSettings) (source : Text) : Prop :=
  ∃ document tools fields, Toml.parse source = .ok document ∧
    Toml.field? "tool".toList document = some (.table tools) ∧
    Toml.field? "bem-checker".toList tools = some (.table fields) ∧
    SettingFormat.toml.Says T fields

def loadedRecord (p : Path) : LogRecord := ⟨.debug, .config, "loaded config from ".toList ++ p.text⟩

theorem readTable_ok {names : SettingNames} {p : Path} {fields : List (Text × SettingValue)}
    {settings : Settings} (read : ofFields names p fields = .ok settings) :
    Yields (readTable names p fields) (.ok settings) [loadedRecord p] where
  run log := by
    rw [readTable, read]
    rfl
  debug := by simp [loadedRecord]

theorem readTable_error {names : SettingNames} {p : Path} {fields : List (Text × SettingValue)}
    {fault : SettingFault} (read : ofFields names p fields = .error fault) :
    Yields (readTable names p fields) (.error (.settings (.badSetting fault))) [loadedRecord p] where
  run log := by
    rw [readTable, read]
    rfl
  debug := by simp [loadedRecord]

/-- Loading from a file of its own is reading the fields of its object. -/
theorem load_own_table {w : Workspace} {directory : Path} {source : Text}
    {fields : List (Text × Json)} (text : readStrict w (directory.child ownFileName) = .ok source)
    (parsed : Json.parse source = .ok (.obj fields)) :
    load w directory =
      readTable ownFileNames (directory.child ownFileName) (SettingValue.ofJsonFields fields) := by
  rw [load_own (hasEntry_of_readStrict text), loadOwnFile, readSource_text text, pure_bind]
  simp only [parsed]

/-- Only the empty table is said by no fields at all. -/
theorem eq_empty_of_noFields {T : SharedSettings} (given : SettingFormat.toml.Says T []) : T = {} := by
  have missing : ∀ key, SettingFormat.toml.first? key [] = none := fun key => by cases key <;> rfl
  obtain ⟨ignoreList, extensions, excludedDirectories, output⟩ := T
  obtain ⟨ignored, extended, excluded, reported⟩ := given
  simp only [missing, eq_comm, Option.map_eq_none_iff] at ignored extended excluded
  subst ignored extended excluded
  cases reported with
  | absent => rfl
  | other present | table present =>
    rw [missing] at present
    cases present

/-- Loading from a project file is reading the fields of the table in it. -/
theorem load_project_table {w : Workspace} {directory : Path} {source : Text}
    {document tools : Toml.Fields} {field : Text × Toml} {fields : Toml.Fields}
    (without : w.hasEntry (directory.child ownFileName) = .ok false)
    (text : readStrict w (directory.child projectFileName) = .ok source)
    (parsed : Toml.parse source = .ok document)
    (tool : Toml.field? "tool".toList document = some (.table tools))
    (table : Toml.field? tableName tools = some (.table (field :: fields))) :
    load w directory = readTable projectFileNames (directory.child projectFileName)
      (SettingValue.ofTomlFields (field :: fields)) := by
  have found : tableFields? document = some (field :: fields) := by
    rw [tableFields?, tool]
    simp only [table]
  rw [load_project without, isThere_found (hasEntry_of_readStrict text), pure_bind, if_pos rfl,
    loadProjectFile, readSource_text text, pure_bind]
  simp only [parsed, found]
  rw [bind_assoc]
  simp

/-- What loading a table of settings from each of two files comes to: the same settings but for the
file, when every setting is accepted, and otherwise a wrong one that both blame. -/
inductive SameOutcome (T : SharedSettings) (p p' : Path) :
    Except LoadFault Settings → Except LoadFault Settings → Prop where
  | loaded {settings : Settings} (accepted : ∀ key, T.Accepts key) (gives : T.Gives settings) :
      SameOutcome T p p' (.ok { settings with source := some p })
        (.ok { settings with source := some p' })
  | refused {key : SettingKey} {fault fault' : SettingFault} (wrong : ¬T.Accepts key)
      (blamed : SettingFormat.json.Blames key fault)
      (blamed' : SettingFormat.toml.Blames key fault') :
      SameOutcome T p p' (.error (.settings (.badSetting fault)))
        (.error (.settings (.badSetting fault')))

/-- The two formats implement one schema. Where a text in JSON and one in TOML say the same table of
settings, loading the one as a file of its own and the other as a project file comes to the same
settings if every setting is accepted, and to a wrong setting that both blame otherwise. A text with an
integer of too many digits or with values nested too deeply is not read, and loading stops with just
that. -/
theorem formats_agree (T : SharedSettings) (filled : T ≠ {}) (directory : Path)
    (own project : Workspace) (source source' : Text)
    (text : readStrict own (directory.child ownFileName) = .ok source)
    (without : project.hasEntry (directory.child ownFileName) = .ok false)
    (text' : readStrict project (directory.child projectFileName) = .ok source') :
    (SaidInJson T source → SaidInToml T source' → ∃ result result',
      Yields (load own directory) result [loadedRecord (directory.child ownFileName)] ∧
      Yields (load project directory) result' [loadedRecord (directory.child projectFileName)] ∧
      SameOutcome T (directory.child ownFileName) (directory.child projectFileName)
        result result') ∧
    (∀ fault, OwnEscape own (directory.child ownFileName) fault →
      Yields (load own directory) (.error fault) []) ∧
    ∀ fault, ProjectEscape project (directory.child projectFileName) fault →
      Yields (load project directory) (.error fault) [] := by
  refine ⟨?_, fun _ escape => Escape.yields (.inOwnFile escape),
    fun _ escape => Escape.yields (.inProjectFile without escape)⟩
  rintro ⟨fields, parsed, given⟩ ⟨document, tools, table, parsed', tool, found, given'⟩
  cases table with
  | nil => exact absurd (eq_empty_of_noFields given') filled
  | cons field table =>
    rw [load_own_table text parsed, load_project_table without text' parsed' tool found]
    have agree := ofFields_agree SettingFormat.json_reads SettingFormat.toml_reads given given'
      (directory.child ownFileName) (directory.child projectFileName)
    generalize read : ofFields ownFileNames _ _ = x at agree
    generalize read' : ofFields projectFileNames _ _ = y at agree
    cases agree with
    | same holds =>
      obtain ⟨settings, gives, rfl, rfl⟩ := holds
      exact ⟨_, _, readTable_ok read, readTable_ok read', .loaded gives.accepts gives⟩
    | wrong refused blamed blamed' =>
      exact ⟨_, _, readTable_error read, readTable_error read', .refused refused blamed blamed'⟩

def oneFile (name source : Text) : Workspace :=
  ⟨["work".toList], [(["work".toList], .directory),
    (["work".toList, name], .file (Text.Utf8.encode source))]⟩

theorem readStrict_oneFile {w : Workspace} {p : Path} {source : Text}
    (content : w.readBytes p = .ok (Text.Utf8.encode source)) (noReturn : '\r' ∉ source) :
    readStrict w p = .ok source := by
  rw [readStrict, content]
  simp only [Text.Utf8.decode_encode, Text.unifyNewlines_noReturn _ noReturn]

/-- A table with extensions in several forms and a directory of reports within blanks. -/
def mixedForms : SharedSettings where
  ignoreList := some (.list [.text "^js-".toList])
  extensions := some (.list [.text " .HTML ".toList, .text "vue".toList])
  output := some (.table (some (.text " out ".toList)) none)

def mixedJson : Text :=
  "\x7b\"ignoreList\": [\"^js-\"], \"extensions\": [\" .HTML \", \"vue\"], ".toList ++
    "\"output\": \x7b\"path\": \" out \"\x7d\x7d".toList

def mixedToml : Text :=
  "[tool.bem-checker]\nignore_list = [\"x\"]\nignore-list = [\"^js-\"]\n".toList ++
    "extensions = [\" .HTML \", \"vue\"]\noutput = \x7bpath = \" out \"\x7d\n".toList

theorem mixedJson_parsed : Json.parse mixedJson = .ok (.obj
    [("ignoreList".toList, .arr [.str "^js-".toList]),
      ("extensions".toList, .arr [.str " .HTML ".toList, .str "vue".toList]),
      ("output".toList, .obj [("path".toList, .str " out ".toList)])]) := by
  cbv

theorem mixedToml_parsed : Toml.parse mixedToml = .ok [("tool".toList, .table
    [("bem-checker".toList, .table [("ignore_list".toList, .arr [.str "x".toList]),
      ("ignore-list".toList, .arr [.str "^js-".toList]),
      ("extensions".toList, .arr [.str " .HTML ".toList, .str "vue".toList]),
      ("output".toList, .table [("path".toList, .str " out ".toList)])])])] := by
  cbv

theorem formats_agree_mixedForms :
    mixedForms ≠ {} ∧
      readStrict (oneFile ownFileName mixedJson) ⟨.none, [ownFileName]⟩ = .ok mixedJson ∧
      (oneFile projectFileName mixedToml).hasEntry ⟨.none, [ownFileName]⟩ = .ok false ∧
      readStrict (oneFile projectFileName mixedToml) ⟨.none, [projectFileName]⟩ = .ok mixedToml ∧
      SaidInJson mixedForms mixedJson ∧ SaidInToml mixedForms mixedToml ∧
      ∃ result result',
        Yields (load (oneFile ownFileName mixedJson) ⟨.none, []⟩) result
          [loadedRecord ⟨.none, [ownFileName]⟩] ∧
        Yields (load (oneFile projectFileName mixedToml) ⟨.none, []⟩) result'
          [loadedRecord ⟨.none, [projectFileName]⟩] ∧
        SameOutcome mixedForms ⟨.none, [ownFileName]⟩ ⟨.none, [projectFileName]⟩ result result' ∧
        result'.toOption = some
          { ignoreList := ["^js-".toList]
            output := ⟨some "out".toList, none⟩
            extensions := [".html".toList, ".vue".toList]
            source := some ⟨.none, [projectFileName]⟩ } := by
  have filled : mixedForms ≠ {} := fun same =>
    Option.some_ne_none _ (congrArg SharedSettings.ignoreList same)
  have text : readStrict (oneFile ownFileName mixedJson) ⟨.none, [ownFileName]⟩ = .ok mixedJson :=
    readStrict_oneFile rfl (by decide)
  have without : (oneFile projectFileName mixedToml).hasEntry ⟨.none, [ownFileName]⟩ = .ok false :=
    rfl
  have text' : readStrict (oneFile projectFileName mixedToml) ⟨.none, [projectFileName]⟩ =
      .ok mixedToml := readStrict_oneFile rfl (by decide)
  have json : SaidInJson mixedForms mixedJson :=
    ⟨_, mixedJson_parsed, rfl, rfl, rfl, .table rfl rfl rfl⟩
  have toml : SaidInToml mixedForms mixedToml :=
    ⟨_, _, _, mixedToml_parsed, rfl, rfl, rfl, rfl, rfl, .table rfl rfl rfl⟩
  obtain ⟨result, result', yields, yields', same⟩ :=
    (formats_agree mixedForms filled ⟨.none, []⟩ _ _ _ _ text without text').1 json toml
  have loaded : ((load (oneFile projectFileName mixedToml) ⟨.none, []⟩).run.run []).1.toOption =
      some { ignoreList := ["^js-".toList], output := ⟨some "out".toList, none⟩,
             extensions := [".html".toList, ".vue".toList],
             source := some ⟨.none, [projectFileName]⟩ } := by
    decide +kernel
  rw [yields'.run] at loaded
  exact ⟨filled, text, without, text', json, toml, result, result', yields, yields', same, loaded⟩

def nestedLists (depth : Nat) : Text := List.replicate depth '[' ++ List.replicate depth ']'

/-- How loading the settings of a project fails: whether with wrong settings, and the wording. -/
def failure? (w : Workspace) : Option (Bool × Text) :=
  match ((load w ⟨.none, []⟩).run.run []).1 with
  | .error (.settings error) => some (true, error.message)
  | .error fault => some (false, fault.message)
  | .ok _ => none

/-- The same wrong setting, nested to the same depth, is blamed in one format and stops the reading of
the other. -/
theorem nesting_tells_formats_apart :
    failure? (oneFile ownFileName
        ("\x7b\"ignoreList\": ".toList ++ nestedLists 600 ++ "\x7d".toList)) =
      some (true, "`ignoreList` must be a list of strings.".toList) ∧
    failure? (oneFile projectFileName
        ("[tool.bem-checker]\nignore-list = ".toList ++ nestedLists 600)) =
      some (false, "maximum recursion depth exceeded".toList) := by
  decide +kernel

end Settings
end BemLint
