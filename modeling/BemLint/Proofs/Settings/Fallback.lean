import BemLint.Proofs.Json.RoundTrip
import BemLint.Proofs.Text.Lines
import BemLint.Proofs.Text.Utf8
import BemLint.Proofs.Workspace.LookUp
import BemLint.Settings.Load

/-!
# Settings that a run can do without

Loading settings comes to one result whatever the log holds, and only debug records are added on the
way. What is wrong with settings is replaced by the defaults and one warning. Three faults are no
faults of the settings and stop the run: a name on the way to a settings file that is too long, an
integer with too many digits, and values that are nested too deeply.
-/
namespace BemLint.Settings

/-- The fault of an integer or a nesting in the text of a settings file of its own, which the text
does not have to be wrong for. -/
inductive OwnEscape (w : Workspace) (p : Path) : LoadFault → Prop where
  | longInteger {source : Text} {digits : Nat} (text : readStrict w p = .ok source)
      (refused : Json.parse source = .error (.longInteger digits)) :
      OwnEscape w p (.longInteger digits)
  | tooDeep {source : Text} {container : Json.Container} (text : readStrict w p = .ok source)
      (refused : Json.parse source = .error (.tooDeep container)) :
      OwnEscape w p (.deepJson container)

/-- The same in the text of a project file. -/
inductive ProjectEscape (w : Workspace) (p : Path) : LoadFault → Prop where
  | longInteger {source : Text} {digits : Nat} (text : readStrict w p = .ok source)
      (refused : Toml.parse source = .error (.longInteger digits)) :
      ProjectEscape w p (.longInteger digits)
  | tooDeep {source : Text} (text : readStrict w p = .ok source)
      (refused : Toml.parse source = .error .tooDeep) : ProjectEscape w p .deepToml

/-- What stops a run that loads the settings of the project in a directory. The project file counts
only where there is no file of settings alone. -/
inductive Escape (w : Workspace) (directory : Path) : LoadFault → Prop where
  | ownName (stuck : w.stat true (directory.child ownFileName) = .error .nameTooLong) :
      Escape w directory (.file ⟨.nameTooLong, (directory.child ownFileName).text⟩)
  | inOwnFile {fault : LoadFault} (inside : OwnEscape w (directory.child ownFileName) fault) :
      Escape w directory fault
  | projectName (without : w.hasEntry (directory.child ownFileName) = .ok false)
      (stuck : w.stat true (directory.child projectFileName) = .error .nameTooLong) :
      Escape w directory (.file ⟨.nameTooLong, (directory.child projectFileName).text⟩)
  | inProjectFile {fault : LoadFault} (without : w.hasEntry (directory.child ownFileName) = .ok false)
      (inside : ProjectEscape w (directory.child projectFileName) fault) :
      Escape w directory fault

/-- A computation has one result whatever the log, and adds the same debug records to each. -/
structure Yields {α : Type} (x : Loading α) (result : Except LoadFault α)
    (records : List LogRecord) : Prop where
  run : ∀ log, x.run.run log = (result, log ++ records)
  debug : ∀ r ∈ records, r.level = .debug

/-- A computation has a result, and fails only with wrong settings or with faults of a kind. -/
def Settles {α : Type} (x : Loading α) (escapes : LoadFault → Prop) : Prop :=
  ∃ result records, Yields x result records ∧
    ∀ fault, result = .error fault → (∃ error, fault = .settings error) ∨ escapes fault

section Settles

variable {α β : Type} {escapes : LoadFault → Prop}

theorem yields_silent {x : Loading α} {result : Except LoadFault α}
    (run : ∀ log, x.run.run log = (result, log)) : Yields x result [] where
  run log := by rw [run, List.append_nil]
  debug _ member := by cases member

theorem settles_pure (a : α) : Settles (pure a) escapes := by
  refine ⟨.ok a, [], yields_silent fun _ => rfl, fun fault failed => ?_⟩
  cases failed

theorem settles_reject (error : SettingsError) : Settles (reject (α := α) error) escapes := by
  refine ⟨.error (.settings error), [], yields_silent fun _ => rfl, fun fault failed => ?_⟩
  cases failed
  exact .inl ⟨error, rfl⟩

theorem settles_throw {fault : LoadFault} (escape : escapes fault) :
    Settles (throw fault : Loading α) escapes := by
  refine ⟨.error fault, [], yields_silent fun _ => rfl, fun other failed => ?_⟩
  cases failed
  exact .inr escape

/-- What goes on from a failure fails. -/
theorem Yields.bind_error {x : Loading α} {fault : LoadFault} {records : List LogRecord}
    (yields : Yields x (.error fault) records) (f : α → Loading β) :
    Yields (x >>= f) (.error fault) records where
  run log := by
    rw [ExceptT.run_bind, StateT.run_bind, yields.run]
    rfl
  debug := yields.debug

theorem Settles.mono {x : Loading α} {more : LoadFault → Prop} (settles : Settles x escapes)
    (weaker : ∀ fault, escapes fault → more fault) : Settles x more := by
  obtain ⟨result, records, yields, faults⟩ := settles
  exact ⟨result, records, yields, fun fault failed =>
    (faults fault failed).imp_right (weaker fault)⟩

/-- What only makes something else of a value settles as the computation of the value. -/
theorem Settles.map {x : Loading α} (settles : Settles x escapes) (f : α → β) :
    Settles (x >>= fun a => pure (f a)) escapes := by
  obtain ⟨result, records, yields, faults⟩ := settles
  cases result with
  | ok a =>
    refine ⟨.ok (f a), records, ⟨fun log => ?_, yields.debug⟩, fun fault failed => ?_⟩
    · rw [ExceptT.run_bind, StateT.run_bind, yields.run]
      rfl
    · cases failed
  | error fault =>
    refine ⟨.error fault, records, yields.bind_error _, fun other failed => ?_⟩
    cases failed
    exact faults fault rfl

end Settles

/-- A table that was read is logged; after that only a setting can be wrong. -/
theorem readTable_settles (names : SettingNames) (p : Path) (fields : List (Text × SettingValue))
    (escapes : LoadFault → Prop) : Settles (readTable names p fields) escapes := by
  cases read : ofFields names p fields with
  | ok settings =>
    refine ⟨.ok settings, [⟨.debug, .config, "loaded config from ".toList ++ p.text⟩],
      ⟨fun log => ?_, by simp⟩, fun fault failed => ?_⟩
    · rw [readTable, read]
      rfl
    · cases failed
  | error fault =>
    refine ⟨.error (.settings (.badSetting fault)),
      [⟨.debug, .config, "loaded config from ".toList ++ p.text⟩],
      ⟨fun log => ?_, by simp⟩, fun other failed => ?_⟩
    · rw [readTable, read]
      rfl
    · cases failed
      exact .inl ⟨.badSetting fault, rfl⟩

theorem readSource_text {w : Workspace} {p : Path} {source : Text}
    (text : readStrict w p = .ok source) : readSource w p = pure source := by
  rw [readSource, text]

theorem readSource_fault {w : Workspace} {p : Path} {fault : ReadFault}
    (unread : readStrict w p = .error fault) :
    readSource w p = reject (.unreadable p fault) := by
  rw [readSource, unread]

theorem loadOwnFile_settles (w : Workspace) (p : Path) :
    Settles (loadOwnFile w p) (OwnEscape w p) := by
  cases text : readStrict w p with
  | error fault =>
    rw [loadOwnFile, readSource_fault text]
    exact settles_reject _
  | ok source =>
    rw [loadOwnFile, readSource_text text, pure_bind]
    cases parsed : Json.parse source with
    | error refusal =>
      cases refusal with
      | malformed fault offset => exact settles_reject _
      | longInteger digits => exact settles_throw (.longInteger text parsed)
      | tooDeep container => exact settles_throw (.tooDeep text parsed)
    | ok value =>
      cases value with
      | obj fields => exact readTable_settles _ _ _ _
      | null | bool _ | int _ | float _ | str _ | arr _ => exact settles_reject _

theorem loadProjectFile_settles (w : Workspace) (p : Path) :
    Settles (loadProjectFile w p) (ProjectEscape w p) := by
  cases text : readStrict w p with
  | error fault =>
    rw [loadProjectFile, readSource_fault text]
    exact settles_reject _
  | ok source =>
    rw [loadProjectFile, readSource_text text, pure_bind]
    cases parsed : Toml.parse source with
    | error refusal =>
      cases refusal with
      | malformed fault offset => exact settles_reject _
      | longInteger digits => exact settles_throw (.longInteger text parsed)
      | tooDeep => exact settles_throw (.tooDeep text parsed)
    | ok document =>
      cases table : tableFields? document with
      | none =>
        simp only [table]
        exact settles_pure _
      | some fields =>
        simp only [table]
        exact (readTable_settles _ _ _ _).map some

theorem isThere_found {w : Workspace} {p : Path} {found : Bool}
    (looked : w.hasEntry p = .ok found) : isThere w p = pure found := by
  rw [isThere, looked]

theorem isThere_stuck {w : Workspace} {p : Path} {error : FileError}
    (looked : w.hasEntry p = .error error) : isThere w p = throw (.file error) := by
  rw [isThere, looked]

theorem load_own {w : Workspace} {directory : Path}
    (own : w.hasEntry (directory.child ownFileName) = .ok true) :
    load w directory = loadOwnFile w (directory.child ownFileName) := by
  rw [load, isThere_found own, pure_bind, if_pos rfl]

/-- Without a file of settings alone the project file is looked for. -/
theorem load_project {w : Workspace} {directory : Path}
    (without : w.hasEntry (directory.child ownFileName) = .ok false) :
    load w directory = isThere w (directory.child projectFileName) >>= fun found =>
      if found then loadProjectFile w (directory.child projectFileName) >>= fun settings? =>
        pure (settings?.getD {})
      else pure {} := by
  rw [load, isThere_found without, pure_bind, if_neg (by decide)]
  refine bind_congr fun found => ?_
  cases found with
  | false => rfl
  | true => exact bind_congr fun settings? => by cases settings? <;> rfl

theorem load_settles (w : Workspace) (directory : Path) :
    Settles (load w directory) (Escape w directory) := by
  cases own : w.hasEntry (directory.child ownFileName) with
  | error error =>
    obtain ⟨stuck, rfl⟩ := (Workspace.hasEntry_error_iff _ _ _).mp own
    rw [load, isThere_stuck own]
    exact settles_throw (.ownName stuck)
  | ok found =>
    cases found with
    | true =>
      rw [load_own own]
      exact (loadOwnFile_settles w _).mono fun _ => .inOwnFile
    | false =>
      rw [load_project own]
      cases project : w.hasEntry (directory.child projectFileName) with
      | error error =>
        obtain ⟨stuck, rfl⟩ := (Workspace.hasEntry_error_iff _ _ _).mp project
        rw [isThere_stuck project]
        exact settles_throw (.projectName own stuck)
      | ok found =>
        rw [isThere_found project, pure_bind]
        cases found with
        | true => exact ((loadProjectFile_settles w _).map _).mono fun _ => .inProjectFile own
        | false => exact settles_pure _

/-! ## What stops a run -/

section Escape

variable {w : Workspace} {p directory : Path} {fault : LoadFault}

theorem hasEntry_of_readStrict {source : Text} (text : readStrict w p = .ok source) :
    w.hasEntry p = .ok true := by
  cases content : w.readBytes p with
  | error error =>
    rw [readStrict, content] at text
    cases text
  | ok bytes => exact w.hasEntry_of_readBytes p bytes content

theorem OwnEscape.present (escape : OwnEscape w p fault) : w.hasEntry p = .ok true := by
  cases escape with
  | longInteger text | tooDeep text => exact hasEntry_of_readStrict text

theorem ProjectEscape.present (escape : ProjectEscape w p fault) : w.hasEntry p = .ok true := by
  cases escape with
  | longInteger text | tooDeep text => exact hasEntry_of_readStrict text

theorem OwnEscape.yields (escape : OwnEscape w p fault) :
    Yields (loadOwnFile w p) (.error fault) [] := by
  cases escape with
  | longInteger text refused | tooDeep text refused =>
    rw [loadOwnFile, readSource_text text, pure_bind]
    simp only [refused]
    exact yields_silent fun _ => rfl

theorem ProjectEscape.yields (escape : ProjectEscape w p fault) :
    Yields (loadProjectFile w p) (.error fault) [] := by
  cases escape with
  | longInteger text refused | tooDeep text refused =>
    rw [loadProjectFile, readSource_text text, pure_bind]
    simp only [refused]
    exact yields_silent fun _ => rfl

theorem Escape.yields (escape : Escape w directory fault) :
    Yields (load w directory) (.error fault) [] := by
  cases escape with
  | ownName stuck =>
    have own := (w.hasEntry_error_iff _ _).mpr ⟨stuck, rfl⟩
    rw [load, isThere_stuck own]
    exact yields_silent fun _ => rfl
  | inOwnFile inside =>
    rw [load_own inside.present]
    exact inside.yields
  | projectName without stuck =>
    have project := (w.hasEntry_error_iff _ _).mpr ⟨stuck, rfl⟩
    rw [load_project without, isThere_stuck project]
    exact yields_silent fun _ => rfl
  | inProjectFile without inside =>
    rw [load_project without, isThere_found inside.present, pure_bind]
    exact inside.yields.bind_error _

end Escape

/-! ## Falling back -/

def fallbackRecord (error : SettingsError) : LogRecord :=
  ⟨.warning, .config, error.message ++ "; falling back to defaults".toList⟩

/-- What loading with a fallback makes of the outcome of loading without one. -/
def fallBack : Except LoadFault Settings × List LogRecord →
    Except LoadFault Settings × List LogRecord
  | (.error (.settings error), log) => (.ok {}, log ++ [fallbackRecord error])
  | outcome => outcome

theorem loadOrDefault_run (w : Workspace) (directory : Path) (log : List LogRecord) :
    (loadOrDefault w directory).run.run log = fallBack ((load w directory).run.run log) := by
  rw [loadOrDefault, ExceptT.run_tryCatch, StateT.run_bind]
  rcases (load w directory).run.run log with ⟨fault | settings, after⟩
  · cases fault <;> rfl
  · rfl

theorem loadOrDefault_escape {w : Workspace} {directory : Path} {fault : LoadFault}
    (escape : Escape w directory fault) (log : List LogRecord) :
    (loadOrDefault w directory).run.run log = (.error fault, log) := by
  rw [loadOrDefault_run, escape.yields.run, List.append_nil]
  cases escape with
  | ownName | projectName => rfl
  | inOwnFile inside | inProjectFile _ inside => cases inside <;> rfl

/-- What loading comes to without a fallback, and what with one after `log`, where loading adds some
records to the log. -/
inductive FallsBack (w : Workspace) (directory : Path) (log records : List LogRecord) :
    Except LoadFault Settings → Except LoadFault Settings × List LogRecord → Prop where
  /-- Settings are kept. -/
  | kept (settings : Settings) :
      FallsBack w directory log records (.ok settings) (.ok settings, log ++ records)
  /-- Wrong settings are replaced by the defaults, with one warning. -/
  | replaced (error : SettingsError) : FallsBack w directory log records (.error (.settings error))
      (.ok {}, log ++ records ++ [fallbackRecord error])
  /-- Other faults stay what they are. -/
  | stopped {fault : LoadFault} (escape : Escape w directory fault) :
      FallsBack w directory log records (.error fault) (.error fault, log)

/-- Loading with a fallback fails exactly with what stops a run, before anything is logged. In every
other case it has settings, those that loading without a fallback has or the defaults, and the one
warning about what is wrong is the only record that is none for debugging. -/
theorem loadOrDefault_exact (w : Workspace) (directory : Path) (log : List LogRecord) :
    (∀ fault after, (loadOrDefault w directory).run.run log = (.error fault, after) ↔
      Escape w directory fault ∧ after = log) ∧
    ∃ result records, (load w directory).run.run log = (result, log ++ records) ∧
      (∀ r ∈ records, r.level = .debug) ∧
      FallsBack w directory log records result ((loadOrDefault w directory).run.run log) := by
  obtain ⟨result, records, yields, faults⟩ := load_settles w directory
  have run := loadOrDefault_run w directory log
  rw [yields.run] at run
  have outcome : FallsBack w directory log records result
      ((loadOrDefault w directory).run.run log) := by
    rw [run]
    cases result with
    | ok settings => exact .kept settings
    | error fault =>
      rcases faults fault rfl with ⟨error, rfl⟩ | escape
      · exact .replaced error
      · rw [← run, loadOrDefault_escape escape]
        exact .stopped escape
  refine ⟨fun fault after => ⟨fun failed => ?_, ?_⟩, result, records, yields.run log,
    yields.debug, outcome⟩
  · rw [failed] at outcome
    cases outcome with
    | stopped escape => exact ⟨escape, rfl⟩
  · rintro ⟨escape, rfl⟩
    exact loadOrDefault_escape escape after

def numberProject (n : Nat) : Workspace :=
  ⟨["work".toList], [(["work".toList], .directory),
    (["work".toList, ownFileName], .file (Text.Utf8.encode (Text.ofNat n)))]⟩

theorem readStrict_numberProject (n : Nat) :
    readStrict (numberProject n) ⟨.none, [ownFileName]⟩ = .ok (Text.ofNat n) := by
  have content : (numberProject n).readBytes ⟨.none, [ownFileName]⟩ =
      .ok (Text.Utf8.encode (Text.ofNat n)) := rfl
  have noReturn : '\r' ∉ Text.ofNat n := fun member =>
    absurd (Text.ofNat_digits n _ member) (by decide)
  rw [readStrict, content]
  simp only [Text.Utf8.decode_encode, Text.unifyNewlines_noReturn _ noReturn]

/-- The least number with too many digits stops a run. -/
theorem long_number_stops :
    (loadOrDefault (numberProject (10 ^ Decimal.digitLimit)) ⟨.none, []⟩).run.run [] =
      (.error (.longInteger 4301), []) := by
  have refused := Json.parse_ofNat_long (10 ^ Decimal.digitLimit) (Nat.le_refl _)
  rw [Text.length_ofNat_limit] at refused
  exact loadOrDefault_escape (.inOwnFile (.longInteger (readStrict_numberProject _) refused)) []

end BemLint.Settings
