import BemLint.Proofs.Json.Visible
import BemLint.Proofs.Lint.Places
import BemLint.Proofs.Report.Saving
import BemLint.Proofs.Text.LineEnds
import BemLint.Proofs.Workspace.Growth

/-!
# Report files

What is at the path of a report once it has been saved, and what else has changed: the directories
on the way are there, the file is read as the report, and no other file is touched. A report that
could not be saved has left nothing but directories.
-/
namespace BemLint.Report
open Workspace (Grows Wrote)

/-! ## Reports of linting -/

/-- The reports that linting produces: on one text, or several of them merged. -/
inductive Linted : Report → Prop where
  | source {table : CharacterNames} {source path : Text} {patterns : List Text} {r : Report}
      (analyzed : Lint.analyze table source path patterns = .ok r) : Linted r
  | merged {reports : List Report} (each : ∀ r ∈ reports, Linted r) : Linted (merge reports)

theorem Linted.placed {r : Report} (linted : Linted r) : r.Placed := by
  induction linted with
  | source analyzed =>
    intro f file v found
    obtain ⟨-, k, line, number, -, left, right, -, column⟩ :=
      Lint.stands_analyze analyzed file found
    rw [number, column]
    have one : (Tally.int (k + 1)).value = k + 1 := rfl
    omega
  | merged _ placed =>
    intro f file v found
    obtain ⟨r, inside, file⟩ := List.mem_flatMap.mp file
    exact placed r inside f file v found

/-! ## The text of a report -/

theorem Regular.visible {r : Report} (regular : r.Regular) :
    ∀ c ∈ r.jsonText, Json.IsVisible c :=
  Json.visible_write r.toJson 0 (plain_report r regular)

theorem readable_filePath {directory : Path} (readable : directory.Readable)
    (target : ReportTarget) (now : Moment) : (filePath target directory now).Readable := by
  have place : ∀ folder name : Text, ((directory.append (Path.ofText folder)).append
      (Path.ofText (fileName name now))).Readable := fun folder name =>
    (readable.append (Path.readable_ofText folder)).append (Path.readable_ofText _)
  rw [filePath]
  split
  next => exact place _ _
  next => exact place _ _

/-! ## Saving -/

/-- A report has been put into a file, and nothing else has been touched. -/
structure Filed (r : Report) (p : Path) (w after : Workspace) : Prop where
  /-- The text at the path is read as the report. -/
  text : ∃ source, Settings.readStrict after p = .ok source ∧ parse source = .ok r
  /-- Everything on the way is a directory. -/
  directories : ∀ n < p.parts.length, after.hasDirectory (p.front n) = .ok true
  /-- The path leads to the file, and elsewhere there are further directories at most. -/
  frame : ∃ place bytes, after.locate true p.text = .ok (place, some (.file bytes)) ∧
    ∀ other, other ≠ place → after.node? other = w.node? other ∨
      w.node? other = none ∧ after.node? other = some .directory

theorem Regular.readStrict {r : Report} (regular : r.Regular) {w after : Workspace} {p : Path}
    (wrote : Wrote w after p (Text.Utf8.encode (r.jsonText ++ ['\n']))) :
    Settings.readStrict after p = .ok (r.jsonText ++ ['\n']) := by
  have noReturn : '\r' ∉ r.jsonText ++ ['\n'] := by
    rw [List.mem_append]
    rintro (inside | last)
    · exact (regular.visible _ inside).ne (d := '\r') (by decide) rfl
    · simp at last
  rw [Settings.readStrict, wrote.readBytes]
  simp only [Text.Utf8.decode_encode, Text.unifyNewlines_noReturn _ noReturn]

theorem writeTo_grows {r : Report} {p : Path} {w after : Workspace} {fault : WriteFault}
    (ran : (r.writeTo p).run.run w = (.error fault, after)) : Grows w after := by
  have grows := Workspace.ensureDirectories_grows p.parent w
  rw [writeTo_run] at ran
  rcases made : (Workspace.ensureDirectories p.parent).run.run w with ⟨e | _, between⟩
  · rw [made] at ran grows
    cases ran
    exact grows
  · rw [made] at ran grows
    cases long : r.hasLongNumber with
    | true =>
      simp only [long, if_true] at ran
      cases ran
      exact grows
    | false =>
      simp only [long, Bool.false_eq_true, if_false] at ran
      split at ran
      next e last written =>
        cases ran
        exact Workspace.writeFile_failed written ▸ grows
      next => cases ran

theorem writeTo_wrote {r : Report} {p : Path} {w after : Workspace} (rooted : w.IsRooted)
    (ran : (r.writeTo p).run.run w = (.ok (), after)) :
    r.hasLongNumber = false ∧ Wrote w after p (Text.Utf8.encode (r.jsonText ++ ['\n'])) := by
  have grows := Workspace.ensureDirectories_grows p.parent w
  rw [writeTo_run] at ran
  rcases made : (Workspace.ensureDirectories p.parent).run.run w with ⟨e | _, between⟩
  · rw [made] at ran
    cases ran
  · rw [made] at ran grows
    cases long : r.hasLongNumber with
    | true =>
      simp only [long, if_true] at ran
      cases ran
    | false =>
      simp only [long, Bool.false_eq_true, if_false] at ran
      refine ⟨rfl, grows.wrote (Workspace.writeFile_wrote (grows.rooted rooted) ?_)⟩
      split at ran
      next => cases ran
      next written =>
        cases ran
        exact written

/-- A report with positive places is read back from the file that it was written to. -/
theorem Placed.filed {r : Report} (placed : r.Placed) {p : Path} (readable : p.Readable)
    {w after : Workspace} (rooted : w.IsRooted)
    (ran : (r.writeTo p).run.run w = (.ok (), after)) : Filed r p w after := by
  obtain ⟨short, wrote⟩ := writeTo_wrote rooted ran
  have regular := (regular_iff r).mpr ⟨placed, short⟩
  obtain ⟨place, located, kept⟩ := wrote.frame
  exact
    { text := ⟨_, regular.readStrict wrote, parse_written r regular ['\n'] (by simp)⟩
      directories := wrote.directories readable
      frame := ⟨place, _, located, kept⟩ }

/-- When saving gives a path, the rendering has been written there. -/
theorem Rendering.save_path {x : Rendering} {target : ReportTarget} {directory p : Path}
    {now : Moment} {w : Workspace}
    (outcome : (x.save target directory now w).outcome = .ok (some p)) :
    p = filePath target directory now ∧
      (x.writeTo p).run.run w = (.ok (), (x.save target directory now w).workspace) := by
  rcases ran : (x.writeTo (filePath target directory now)).run.run w with ⟨fault | _, after⟩
  · cases system : fault.ofSystem? with
    | none =>
      rw [save_stopped ran system] at outcome
      cases outcome
    | some error =>
      rw [save_logged ran system] at outcome
      cases outcome
  · rw [save_written ran] at outcome ⊢
    cases outcome
    exact ⟨rfl, ran⟩

/-- When it gives none, writing has failed in the file system. -/
theorem Rendering.save_nothing {x : Rendering} {target : ReportTarget} {directory : Path}
    {now : Moment} {w : Workspace}
    (outcome : (x.save target directory now w).outcome = .ok none) :
    ∃ fault, (x.writeTo (filePath target directory now)).run.run w =
      (.error fault, (x.save target directory now w).workspace) := by
  rcases ran : (x.writeTo (filePath target directory now)).run.run w with ⟨fault | _, after⟩
  · cases system : fault.ofSystem? with
    | none =>
      rw [save_stopped ran system] at outcome
      cases outcome
    | some error =>
      rw [save_logged ran system]
      exact ⟨fault, rfl⟩
  · rw [save_written ran] at outcome
    cases outcome

/-- The file that a report of linting has been saved to is read as the report. -/
theorem Linted.read_back {r : Report} (linted : Linted r) {target : ReportTarget}
    {directory p : Path} {now : Moment} {w : Workspace} (rooted : w.IsRooted)
    (outcome : (r.save target directory now w).outcome = .ok (some p)) :
    ∃ source, Settings.readStrict (r.save target directory now w).workspace p = .ok source ∧
      parse source = .ok r := by
  obtain ⟨short, wrote⟩ := writeTo_wrote rooted (Rendering.save_path outcome).2
  have regular := (regular_iff r).mpr ⟨linted.placed, short⟩
  exact ⟨_, regular.readStrict wrote, parse_written r regular ['\n'] (by simp)⟩

/-- When saving a report of linting gives a path, it is the one that the settings and the time
make, the file there is read as the report, the directories on the way are there, and nothing else
has been touched. When it gives no path, there are further directories at most. -/
theorem saving_is_faithful {r : Report} (linted : Linted r) {w : Workspace} (rooted : w.IsRooted)
    {directory : Path} (readable : directory.Readable) (target : ReportTarget) (now : Moment) :
    (∀ p, (r.save target directory now w).outcome = .ok (some p) →
      p = filePath target directory now ∧ Filed r p w (r.save target directory now w).workspace) ∧
    ((r.save target directory now w).outcome = .ok none →
      Grows w (r.save target directory now w).workspace) := by
  refine ⟨fun p outcome => ?_, fun outcome => ?_⟩
  · obtain ⟨rfl, written⟩ := Rendering.save_path outcome
    exact ⟨rfl, linted.placed.filed (readable_filePath readable target now) rooted written⟩
  · obtain ⟨fault, failed⟩ := Rendering.save_nothing outcome
    exact writeTo_grows failed

/-- A project with a report of before, and a link where the directory for reports would be. -/
def linkedProject : Workspace :=
  ⟨["work".toList], [(["work".toList], .directory), (["work".toList, "old".toList], .directory),
    (["work".toList, "old".toList, "r.json".toList], .file [0]),
    (["work".toList, "new".toList], .link "old".toList)]⟩

def dailyReports : ReportTarget :=
  ⟨some "new/daily".toList, some ("r-".toList ++ placeholder "DD" ++ ".json".toList)⟩

def blankReport : Report := .ofFiles [⟨Lint.snippetPath, []⟩]

theorem saving_is_faithful_linkedProject :
    Linted blankReport ∧ linkedProject.IsRooted ∧
      (blankReport.save dailyReports ⟨.none, []⟩ ⟨2024, 3, 7, 9, 5, 2⟩ linkedProject).outcome =
        .ok (some ⟨.none, ["new".toList, "daily".toList, "r-07.json".toList]⟩) ∧
      Filed blankReport ⟨.none, ["new".toList, "daily".toList, "r-07.json".toList]⟩ linkedProject
        (blankReport.save dailyReports ⟨.none, []⟩ ⟨2024, 3, 7, 9, 5, 2⟩
          linkedProject).workspace := by
  have linted : Linted blankReport :=
    .source (show Lint.analyze .ascii [] [] [] = .ok blankReport from rfl)
  have rooted : linkedProject.IsRooted := by decide
  have readable : (Path.mk .none []).Readable := by decide
  have outcome : (blankReport.save dailyReports ⟨.none, []⟩ ⟨2024, 3, 7, 9, 5, 2⟩
      linkedProject).outcome =
        .ok (some ⟨.none, ["new".toList, "daily".toList, "r-07.json".toList]⟩) := by
    decide +kernel
  obtain ⟨written, -⟩ := saving_is_faithful linted rooted readable
    dailyReports ⟨2024, 3, 7, 9, 5, 2⟩
  exact ⟨linted, rooted, outcome, (written _ outcome).2⟩

end BemLint.Report
