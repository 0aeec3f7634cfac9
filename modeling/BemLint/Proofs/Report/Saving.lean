import BemLint.Proofs.Report.FileName
import BemLint.Proofs.Report.RoundTrip
import BemLint.Proofs.Text.Pieces
import BemLint.Proofs.Workspace.NullCharacters
import BemLint.Settings.Load

/-!
# Saving reports

Saving a report writes its file, or logs the failure of the file system and does without a file.
Three faults are no failures of the file system and stop the run: a path with a null character,
which the directory, the folder or the file name of the settings has to bring along, a number with
too many digits, and a surrogate in a rendering that does not come from a `Report`.
-/
namespace BemLint

namespace Text

theorem mem_replaceFrom (c : Char) (old new : Text) (skip : Nat) (s : Text)
    (member : c ∈ replaceFrom old new skip s) : c ∈ s ∨ c ∈ new := by
  fun_induction replaceFrom old new skip s with
  | case1 => exact .inl member
  | case2 _ _ _ ih => exact (ih member).imp_left (List.mem_cons_of_mem _)
  | case3 d rest _ ih =>
    rcases List.mem_append.mp member with member | member
    · exact .inr member
    · exact (ih member).imp_left (List.mem_cons_of_mem _)
  | case4 d rest _ ih =>
    rcases List.mem_cons.mp member with rfl | member
    · exact .inl (List.mem_cons_self ..)
    · exact (ih member).imp_left (List.mem_cons_of_mem _)

theorem mem_of_mem_piece {c sep : Char} {s piece : Text} (differ : c ≠ sep)
    (among : piece ∈ splitAt sep s) (member : c ∈ piece) : c ∈ s := by
  rw [← join_splitAt sep s, mem_join c [sep] _ (by simpa using differ)]
  exact ⟨piece, among, member⟩

end Text

namespace Path

theorem null_mem_of_ofText {s : Text} (null : Char.ofNat 0 ∈ (ofText s).text) :
    Char.ofNat 0 ∈ s := by
  obtain ⟨part, member, inside⟩ := (null_mem_text_iff _).mp null
  have among : part ∈ Text.splitAt '/' s := (List.mem_filter.mp member).1
  exact Text.mem_of_mem_piece (by decide) among inside

theorem null_mem_of_append {p q : Path} (null : Char.ofNat 0 ∈ (p.append q).text) :
    Char.ofNat 0 ∈ p.text ∨ Char.ofNat 0 ∈ q.text := by
  rw [append] at null
  split at null
  next => exact .inr null
  next =>
    simp only [null_mem_text_iff, List.mem_append] at null ⊢
    obtain ⟨part, member | member, inside⟩ := null
    · exact .inl ⟨part, member, inside⟩
    · exact .inr ⟨part, member, inside⟩

end Path

namespace Report

theorem null_notMem_padded (width n : Nat) : Char.ofNat 0 ∉ padded width n := by
  intro member
  have digit := (padded_digits width n).2 _ member
  cases digit

/-- The time brings no null character into a file name. -/
theorem null_mem_of_fileName {pattern : Text} {now : Moment}
    (null : Char.ofNat 0 ∈ fileName pattern now) : Char.ofNat 0 ∈ pattern := by
  have step : ∀ mark value s, Char.ofNat 0 ∉ value →
      Char.ofNat 0 ∈ Text.replace mark value s → Char.ofNat 0 ∈ s := fun mark value s clean member =>
    (Text.mem_replaceFrom _ mark value 0 s member).resolve_right clean
  simp only [fileName, placeholders, List.foldl_cons, List.foldl_nil] at null
  iterate 6 replace null := step _ _ _ (null_notMem_padded _ _) null
  exact null

/-- Where a path with a null character can have it from. -/
inductive NullFrom (target : ReportTarget) (directory : Path) : Prop where
  | directory (null : Char.ofNat 0 ∈ directory.text) : NullFrom target directory
  | folder {s : Text} (set : target.path = some s) (null : Char.ofNat 0 ∈ s) :
      NullFrom target directory
  | name {s : Text} (set : target.filenamePattern = some s) (null : Char.ofNat 0 ∈ s) :
      NullFrom target directory

theorem nullFrom_of_filePath {target : ReportTarget} {directory : Path} {now : Moment}
    (null : Char.ofNat 0 ∈ (filePath target directory now).text) : NullFrom target directory := by
  have places : ∀ folder name : Text, Char.ofNat 0 ∈ ((directory.append (Path.ofText folder)).append
      (Path.ofText (fileName name now))).text →
      Char.ofNat 0 ∈ directory.text ∨ Char.ofNat 0 ∈ folder ∨ Char.ofNat 0 ∈ name := by
    intro folder name null
    rcases Path.null_mem_of_append null with null | null
    · exact (Path.null_mem_of_append null).imp_right fun null => .inl (Path.null_mem_of_ofText null)
    · exact .inr (.inr (null_mem_of_fileName (Path.null_mem_of_ofText null)))
  rw [filePath] at null
  split at null
  next folder name folderSet nameSet =>
    rcases places _ _ null with null | null | null
    · exact .directory null
    · exact .folder folderSet null
    · exact .name nameSet null
  next =>
    rcases places _ _ null with null | null | null
    · exact .directory null
    · exact absurd null (by decide)
    · exact absurd null (by decide)

/-- What stops a run that saves a rendering at a path, with the workspace that it leaves. -/
inductive Abort (p : Path) (w : Workspace) : Rendering → WriteFault → Workspace → Prop where
  | directory {x : Rendering} (null : Char.ofNat 0 ∈ p.parent.text) :
      Abort p w x (.file ⟨.embeddedNull, p.parent.text⟩) w
  | number {between : Workspace}
      (made : (Workspace.ensureDirectories p.parent).run.run w = (.ok (), between)) :
      Abort p w .longNumber .longNumber between
  | name {text : List Text.CodePoint} {between : Workspace}
      (made : (Workspace.ensureDirectories p.parent).run.run w = (.ok (), between))
      (null : Char.ofNat 0 ∈ p.text) :
      Abort p w (.points text) (.file ⟨.embeddedNull, p.text⟩) between
  /-- The file is there, and empty. -/
  | surrogate {text : List Text.CodePoint} {run : Text.Utf8.Unencodable}
      {between after : Workspace}
      (made : (Workspace.ensureDirectories p.parent).run.run w = (.ok (), between))
      (opened : (Workspace.writeFile p []).run.run between = (.ok (), after))
      (stopped : Text.Utf8.encodePoints (text ++ [.char '\n']) = .error run) :
      Abort p w (.points text) (.unencodable run) after

/-- What saving a rendering at a path comes to. -/
inductive Ending (p : Path) (w : Workspace) : Rendering → Saved → Prop where
  /-- The directories are there, and the bytes of the text are where the path then leads. -/
  | written {text : List Text.CodePoint} {bytes : List UInt8} {between after : Workspace}
      {place : Location} {before : Option Node}
      (encoded : Text.Utf8.encodePoints (text ++ [.char '\n']) = .ok bytes)
      (made : (Workspace.ensureDirectories p.parent).run.run w = (.ok (), between))
      (found : between.locate true p.text = .ok (place, before))
      (node : after.node? place = some (.file bytes)) :
      Ending p w (.points text) ⟨.ok (some p), after, []⟩
  /-- The file system refuses, which is logged once. -/
  | logged {x : Rendering} {e : FileError} {after : Workspace}
      (failed : (x.writeTo p).run.run w = (.error (.file e), after))
      (system : e.isOfSystem = true) : Ending p w x ⟨.ok none, after, [failureRecord e]⟩
  | stopped {x : Rendering} {fault : WriteFault} {after : Workspace}
      (abort : Abort p w x fault after) : Ending p w x ⟨.error fault, after, []⟩

theorem ofSystem?_none_iff (e : FileError) :
    (WriteFault.file e).ofSystem? = none ↔ e.fault = .embeddedNull := by
  simp [WriteFault.ofSystem?, FileError.isOfSystem]

theorem ofSystem?_some_iff (fault : WriteFault) (e : FileError) :
    fault.ofSystem? = some e ↔ fault = .file e ∧ e.isOfSystem = true := by
  cases fault with
  | longNumber => simp [WriteFault.ofSystem?]
  | unencodable run => simp [WriteFault.ofSystem?]
  | file error =>
    by_cases own : error.isOfSystem = true
    · simp only [WriteFault.ofSystem?, own, if_true, Option.some.injEq, WriteFault.file.injEq]
      exact ⟨fun same => ⟨same, same ▸ own⟩, And.left⟩
    · simp only [WriteFault.ofSystem?, own, if_false, reduceCtorEq, WriteFault.file.injEq,
        false_iff, not_and, Bool.false_eq_true]
      exact fun same => same ▸ own

namespace Rendering

variable {x : Rendering} {target : ReportTarget} {directory : Path} {now : Moment}
  {w after : Workspace} {fault : WriteFault}

theorem save_written
    (ran : (x.writeTo (filePath target directory now)).run.run w = (.ok (), after)) :
    x.save target directory now w = ⟨.ok (some (filePath target directory now)), after, []⟩ := by
  simp only [save, ran]

theorem save_logged {error : FileError}
    (ran : (x.writeTo (filePath target directory now)).run.run w = (.error fault, after))
    (system : fault.ofSystem? = some error) :
    x.save target directory now w = ⟨.ok none, after, [failureRecord error]⟩ := by
  simp only [save, ran, system]

theorem save_stopped
    (ran : (x.writeTo (filePath target directory now)).run.run w = (.error fault, after))
    (escapes : fault.ofSystem? = none) :
    x.save target directory now w = ⟨.error fault, after, []⟩ := by
  simp only [save, ran, escapes]

end Rendering

/-- Whatever bytes are written, a failure that is none of the system is a null character. -/
theorem Abort.of_writeFile {p : Path} {w between after : Workspace} {bytes : List UInt8}
    {e : FileError} (text : List Text.CodePoint)
    (made : (Workspace.ensureDirectories p.parent).run.run w = (.ok (), between))
    (failed : (Workspace.writeFile p bytes).run.run between = (.error e, after))
    (escapes : (WriteFault.file e).ofSystem? = none) : Abort p w (.points text) (.file e) after := by
  obtain ⟨null, rfl, rfl⟩ := (Workspace.writeFile_null_iff p bytes between e after).mp
    ⟨failed, (ofSystem?_none_iff e).mp escapes⟩
  exact .name made null

/-- A failure to write that is none of the system stops the run. -/
theorem Abort.of_writeTo {x : Rendering} {p : Path} {w after : Workspace} {fault : WriteFault}
    (failed : (x.writeTo p).run.run w = (.error fault, after))
    (escapes : fault.ofSystem? = none) : Abort p w x fault after := by
  rw [Rendering.writeTo_run] at failed
  rcases made : (Workspace.ensureDirectories p.parent).run.run w with ⟨e | _, between⟩
  · rw [made] at failed
    cases failed
    have null := Workspace.ensureDirectoriesFrom_failsWith _ p.parent w e after made
      ((ofSystem?_none_iff e).mp escapes)
    rw [Workspace.ensureDirectories, Workspace.ensureDirectoriesFrom_null null] at made
    cases made
    exact .directory null
  rw [made] at failed
  cases x with
  | longNumber =>
    cases failed
    exact .number made
  | points text =>
    rcases encoded : Text.Utf8.encodePoints (text ++ [.char '\n']) with run | bytes
    · simp only [Rendering.writePoints_error encoded] at failed
      split at failed
      next written =>
        cases failed
        exact .of_writeFile text made written escapes
      next opened =>
        cases failed
        exact .surrogate made opened encoded
    · simp only [Rendering.writePoints_ok encoded] at failed
      split at failed
      next written =>
        cases failed
        exact .of_writeFile text made written escapes
      next => cases failed

/-- What stops a run is a failure to write, and none of the system. -/
theorem Abort.writeTo {x : Rendering} {p : Path} {w after : Workspace} {fault : WriteFault}
    (abort : Abort p w x fault after) :
    (x.writeTo p).run.run w = (.error fault, after) ∧ fault.ofSystem? = none := by
  rw [Rendering.writeTo_run]
  cases abort with
  | directory null =>
    rw [Workspace.ensureDirectories, Workspace.ensureDirectoriesFrom_null null]
    exact ⟨rfl, rfl⟩
  | number made =>
    rw [made]
    exact ⟨rfl, rfl⟩
  | @name text _ made null =>
    rw [made]
    refine ⟨?_, rfl⟩
    rcases encoded : Text.Utf8.encodePoints (text ++ [.char '\n']) with run | bytes
    · simp only [Rendering.writePoints_error encoded, Workspace.writeFile_null null]
    · simp only [Rendering.writePoints_ok encoded, Workspace.writeFile_null null]
  | surrogate made opened stopped =>
    rw [made]
    simp only [Rendering.writePoints_error stopped, opened, true_and]
    rfl

theorem Abort.save {x : Rendering} {target : ReportTarget} {directory : Path} {now : Moment}
    {w after : Workspace} {fault : WriteFault}
    (abort : Abort (filePath target directory now) w x fault after) :
    x.save target directory now w = ⟨.error fault, after, []⟩ := by
  obtain ⟨ran, escapes⟩ := abort.writeTo
  exact Rendering.save_stopped ran escapes

theorem save_ending (x : Rendering) (target : ReportTarget) (directory : Path) (now : Moment)
    (w : Workspace) :
    Ending (filePath target directory now) w x (x.save target directory now w) := by
  rcases ran : (x.writeTo (filePath target directory now)).run.run w with ⟨fault | _, after⟩
  · cases escapes : fault.ofSystem? with
    | none =>
      rw [Rendering.save_stopped ran escapes]
      exact .stopped (.of_writeTo ran escapes)
    | some e =>
      rw [Rendering.save_logged ran escapes]
      obtain ⟨rfl, system⟩ := (ofSystem?_some_iff fault e).mp escapes
      exact .logged ran system
  · obtain ⟨text, bytes, between, place, before, rfl, encoded, made, found, node⟩ :=
      Rendering.writeTo_ok ran
    rw [Rendering.save_written ran]
    exact .written encoded made found node

theorem Ending.abort {x : Rendering} {p : Path} {w : Workspace} {saved : Saved} {fault : WriteFault}
    (ending : Ending p w x saved) (failed : saved.outcome = .error fault) :
    Abort p w x fault saved.workspace := by
  cases ending with
  | written => cases failed
  | logged => cases failed
  | stopped abort =>
    cases failed
    exact abort

/-- What has to come along for a run to be stopped: a null character, a number that cannot be
written, or a surrogate. -/
theorem Abort.cause {x : Rendering} {target : ReportTarget} {directory : Path} {now : Moment}
    {w after : Workspace} {fault : WriteFault}
    (abort : Abort (filePath target directory now) w x fault after) :
    NullFrom target directory ∨ x = .longNumber ∨
      ∃ text, x = .points text ∧ ∃ c ∈ text, c.isSurrogate = true := by
  cases abort with
  | directory null => exact .inl (nullFrom_of_filePath (Path.null_mem_text_of_parent null))
  | number => exact .inr (.inl rfl)
  | name _ null => exact .inl (nullFrom_of_filePath null)
  | surrogate _ _ stopped =>
    obtain ⟨c, member, surrogate⟩ := (Text.Utf8.encodePoints_error_iff _).mp ⟨_, stopped⟩
    rcases List.mem_append.mp member with member | member
    · exact .inr (.inr ⟨_, rfl, c, member, surrogate⟩)
    · rw [List.mem_singleton.mp member] at surrogate
      cases surrogate

/-- Saving a rendering gives the path of the file that holds its bytes, or no path and one record of
what the file system refused, unless something stops the run. What stops a run is known exactly, and
none of it can happen as long as neither the directory nor the settings bring a null character
along, every number can be written, and there is no surrogate. A report has no surrogates. -/
theorem save_exact (x : Rendering) (target : ReportTarget) (directory : Path) (now : Moment)
    (w : Workspace) :
    Ending (filePath target directory now) w x (x.save target directory now w) ∧
      (∀ fault after, x.save target directory now w = ⟨.error fault, after, []⟩ ↔
        Abort (filePath target directory now) w x fault after) ∧
      ((∃ fault after, Abort (filePath target directory now) w x fault after) →
        NullFrom target directory ∨ x = .longNumber ∨
          ∃ text, x = .points text ∧ ∃ c ∈ text, c.isSurrogate = true) ∧
      ∀ r : Report, (∃ fault, (r.save target directory now w).outcome = .error fault) →
        NullFrom target directory ∨ r.hasLongNumber = true := by
  have ending := save_ending x target directory now w
  refine ⟨ending, fun fault after => ⟨fun failed => ?_, Abort.save⟩, ?_, ?_⟩
  · rw [failed] at ending
    exact ending.abort rfl
  · rintro ⟨fault, after, abort⟩
    exact abort.cause
  · rintro r ⟨fault, failed⟩
    rcases ((save_ending r.rendering target directory now w).abort failed).cause with
      null | long | ⟨text, rendered, c, member, surrogate⟩
    · exact .inl null
    · exact .inr (r.rendering_eq_longNumber_iff.mp long)
    · obtain ⟨-, rfl⟩ := (r.rendering_eq_points_iff text).mp rendered
      obtain ⟨d, -, rfl⟩ := List.mem_map.mp member
      cases surrogate

example : ((Rendering.points [.char 'a', .surrogate 0x4FF]).save {} ⟨.none, []⟩
    ⟨2024, 3, 7, 9, 5, 2⟩ (Workspace.empty ["home".toList])).outcome =
      .error (.unencodable ⟨1, 0x4FF, 0⟩) := by
  decide +kernel

def nullFolder : ReportTarget := ⟨some ['a', Char.ofNat 0, 'b'], some "r.json".toList⟩

/-- A project whose settings ask for that folder. -/
def nullProject : Workspace :=
  ⟨["work".toList], [(["work".toList], .directory),
    (["work".toList, Settings.ownFileName], .file (Text.Utf8.encode
      "\x7b\"output\": \x7b\"path\": \"a\\u0000b\", \"filenamePattern\": \"r.json\"\x7d\x7d".toList))]⟩

/-- Settings that are loaded without a fault can stop the run when a report is saved. -/
theorem null_folder_stops :
    ((Settings.load nullProject ⟨.none, []⟩).run.run []).1.toOption.map (·.output) =
        some nullFolder ∧
      (save (.ofFiles []) nullFolder ⟨.none, []⟩ ⟨2024, 3, 7, 9, 5, 2⟩ nullProject).outcome =
        .error (.file ⟨.embeddedNull, ['a', Char.ofNat 0, 'b']⟩) := by
  constructor
  · decide +kernel
  · have null : Char.ofNat 0 ∈
        (filePath nullFolder ⟨.none, []⟩ ⟨2024, 3, 7, 9, 5, 2⟩).parent.text := by decide
    exact congrArg Saved.outcome (Abort.directory null).save

end Report
end BemLint
