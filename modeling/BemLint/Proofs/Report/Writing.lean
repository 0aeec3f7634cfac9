import BemLint.Proofs.Text.Utf8
import BemLint.Proofs.Workspace.Writing
import BemLint.Report.File

/-!
# Writing reports

What writing a rendering does to a workspace, step by step: the directories are made, and then the
file is written, unless a number is too long. Without surrogates the file gets the whole text, and
else it is left empty. A report has none, so only its numbers are in the way.
-/
namespace BemLint.Report

/-- What writing some bytes gives, with the failures of the file system as reasons why a report is
not written. -/
theorem adapt_writeFile_run (p : Path) (bytes : List UInt8) (w : Workspace) :
    (ExceptT.adapt WriteFault.file (Workspace.writeFile p bytes)).run.run w =
      match (Workspace.writeFile p bytes).run.run w with
      | (.error e, after) => (.error (.file e), after)
      | (.ok (), after) => (.ok (), after) := by
  rw [Change.run_adapt]
  rcases (Workspace.writeFile p bytes).run.run w with ⟨e | _, after⟩
  · rfl
  · rfl

namespace Rendering

theorem writePoints_ok {text : List Text.CodePoint} {bytes : List UInt8}
    (encoded : Text.Utf8.encodePoints text = .ok bytes) (p : Path) (w : Workspace) :
    (writePoints p text).run.run w =
      match (Workspace.writeFile p bytes).run.run w with
      | (.error e, after) => (.error (.file e), after)
      | (.ok (), after) => (.ok (), after) := by
  rw [writePoints, encoded]
  exact adapt_writeFile_run p bytes w

theorem writePoints_error {text : List Text.CodePoint} {run : Text.Utf8.Unencodable}
    (stopped : Text.Utf8.encodePoints text = .error run) (p : Path) (w : Workspace) :
    (writePoints p text).run.run w =
      match (Workspace.writeFile p []).run.run w with
      | (.error e, after) => (.error (.file e), after)
      | (.ok (), after) => (.error (.unencodable run), after) := by
  rw [writePoints, stopped]
  simp only [Change.run_bind, adapt_writeFile_run]
  rcases (Workspace.writeFile p []).run.run w with ⟨e | _, after⟩
  · rfl
  · rfl

theorem writeTo_run (x : Rendering) (p : Path) (w : Workspace) :
    (x.writeTo p).run.run w =
      match (Workspace.ensureDirectories p.parent).run.run w with
      | (.error e, after) => (.error (.file e), after)
      | (.ok (), between) =>
        match x with
        | .longNumber => (.error .longNumber, between)
        | .points text => (writePoints p (text ++ [.char '\n'])).run.run between := by
  rw [writeTo.eq_def, Change.run_bind, Change.run_adapt]
  rcases (Workspace.ensureDirectories p.parent).run.run w with ⟨e | _, between⟩
  · rfl
  · cases x with
    | longNumber => rfl
    | points text => rfl

/-- Writing a rendering makes the directories first, and puts its bytes at the place where its path
then leads. -/
theorem writeTo_ok {x : Rendering} {p : Path} {w w' : Workspace}
    (written : (x.writeTo p).run.run w = (.ok (), w')) :
    ∃ text bytes between place before,
      x = .points text ∧ Text.Utf8.encodePoints (text ++ [.char '\n']) = .ok bytes ∧
        (Workspace.ensureDirectories p.parent).run.run w = (.ok (), between) ∧
          between.locate true p.text = .ok (place, before) ∧
            w'.node? place = some (.file bytes) := by
  rw [writeTo_run] at written
  rcases made : (Workspace.ensureDirectories p.parent).run.run w with ⟨e | _, between⟩
  · rw [made] at written
    cases written
  rw [made] at written
  cases x with
  | longNumber => cases written
  | points text =>
    rcases encoded : Text.Utf8.encodePoints (text ++ [.char '\n']) with run | bytes
    · simp only [writePoints_error encoded] at written
      split at written
      next => cases written
      next => cases written
    · simp only [writePoints_ok encoded] at written
      split at written
      next => cases written
      next after ran =>
        cases written
        obtain ⟨place, before, found, node⟩ := Workspace.writeFile_ok p bytes between w' ran
        exact ⟨text, bytes, between, place, before, rfl, encoded, rfl, found, node⟩

end Rendering

theorem rendering_eq_longNumber_iff (r : Report) :
    r.rendering = .longNumber ↔ r.hasLongNumber = true := by
  rw [rendering]
  cases r.hasLongNumber with
  | true => simp
  | false => simp

theorem rendering_eq_points_iff (r : Report) (text : List Text.CodePoint) :
    r.rendering = .points text ↔ r.hasLongNumber = false ∧ r.jsonText.map .char = text := by
  rw [rendering]
  cases r.hasLongNumber with
  | true => simp
  | false => simp

theorem encodePoints_jsonText (r : Report) :
    Text.Utf8.encodePoints (r.jsonText.map .char ++ [.char '\n']) =
      .ok (Text.Utf8.encode (r.jsonText ++ ['\n'])) := by
  rw [← Text.Utf8.encodePoints_char, List.map_append]
  rfl

theorem writeTo_run (r : Report) (p : Path) (w : Workspace) :
    (r.writeTo p).run.run w =
      match (Workspace.ensureDirectories p.parent).run.run w with
      | (.error e, after) => (.error (.file e), after)
      | (.ok (), between) =>
        if r.hasLongNumber then (.error .longNumber, between)
        else
          match (Workspace.writeFile p (Text.Utf8.encode (r.jsonText ++ ['\n']))).run.run between with
          | (.error e, after) => (.error (.file e), after)
          | (.ok (), after) => (.ok (), after) := by
  rw [writeTo, Rendering.writeTo_run, rendering]
  cases r.hasLongNumber with
  | true => rfl
  | false =>
    simp only [Bool.false_eq_true, if_false, Rendering.writePoints_ok r.encodePoints_jsonText]

theorem writeTo_ok (r : Report) (p : Path) (w w' : Workspace)
    (written : (r.writeTo p).run.run w = (.ok (), w')) :
    ∃ between place before,
      (Workspace.ensureDirectories p.parent).run.run w = (.ok (), between) ∧
        between.locate true p.text = .ok (place, before) ∧
          w'.node? place = some (.file (Text.Utf8.encode (r.jsonText ++ ['\n']))) := by
  obtain ⟨text, bytes, between, place, before, rendered, encoded, made, found, node⟩ :=
    Rendering.writeTo_ok written
  obtain ⟨-, rfl⟩ := (r.rendering_eq_points_iff text).mp rendered
  cases r.encodePoints_jsonText.symm.trans encoded
  exact ⟨between, place, before, made, found, node⟩

end BemLint.Report
