import BemLint.Audit
import BemLint.Proofs.Lint.Places
import Mathlib.Data.List.Forall2

/-!
# What each file contributes to an audit

`Contributes` says what may come of one file: one file report or one failure, by what reading the
file gave and by the path it is shown under. A step of the audit adds that to what it has and tells
that the file is done with. So an audit consists of what its files contribute, in order, and an
audit of more files is made of those of its parts.
-/
namespace BemLint

namespace Report

theorem total_violations (files : List FileReport) :
    Text.total (files.map fun f => f.violations.length) =
      (files.flatMap (·.violations)).length := by
  induction files with
  | nil => rfl
  | cons file files ih =>
    rw [List.map_cons, Text.total, ih, List.flatMap_cons, List.length_append]

theorem files_merge (reports : List Report) :
    (merge reports).files = reports.flatMap (·.files) := rfl

/-- The counts of a merged report are those of its files and of their violations. -/
theorem counts_merge (reports : List Report) :
    (merge reports).fileCount = .ofNat (merge reports).files.length ∧
      (merge reports).violationCount =
        .ofNat ((merge reports).files.flatMap (·.violations)).length := by
  rw [← total_violations]
  exact ⟨rfl, rfl⟩

/-- A merged report is made of its files again, and two of them of the files of both. -/
theorem merge_pair (reports : List Report) (a b : Report)
    (files : (merge reports).files = a.files ++ b.files) : merge reports = merge [a, b] := by
  rw [files_merge] at files
  rw [merge, merge, files, List.flatMap_cons, List.flatMap_cons, List.flatMap_nil,
    List.append_nil]

end Report

namespace Audit

structure Contribution where
  files : List FileReport := []
  failures : List AuditFailure := []

/-- What may come of a file, given what reading it gave and the path it is shown under: the report
on its text, or a failure because it cannot be read or because a pattern cannot be used. -/
inductive Contributes (table : CharacterNames) (patterns : List Text) (p : Path)
    (read : Except FileError Text) (shown : Text) : Contribution → Prop
  | linted {source : Text} {report : Report} {file : FileReport} (text : read = .ok source)
      (analyzed : Lint.analyze table source shown patterns = .ok report)
      (single : report.files = [file]) :
      Contributes table patterns p read shown { files := [file] }
  | unread {error : FileError} (refused : read = .error error) :
      Contributes table patterns p read shown { failures := [⟨p, .file error⟩] }
  | unlinted {source : Text} {fault : PatternFault} (text : read = .ok source)
      (refused : Lint.analyze table source shown patterns = .error fault) :
      Contributes table patterns p read shown { failures := [⟨p, .pattern fault⟩] }

/-- What is told about a file: its failure, if it is one, and that it is done with. -/
def Contribution.events (c : Contribution) (p : Path) : List AuditEvent :=
  c.failures.map (fun f => .logged (failureRecord f)) ++ [.done p]

section Contribution

variable {table : CharacterNames} {patterns : List Text} {p : Path}
  {read : Except FileError Text} {shown : Text}

/-- A file makes one contribution, and nothing but the file decides on it. -/
theorem contributes_unique (table : CharacterNames) (patterns : List Text) (p : Path)
    (read : Except FileError Text) (shown : Text) :
    ∃! c, Contributes table patterns p read shown c := by
  cases read with
  | error error =>
    refine ⟨_, .unread rfl, fun c other => ?_⟩
    cases other with
    | unread refused =>
      cases refused
      rfl
    | linted text | unlinted text => cases text
  | ok source =>
    cases analyzed : Lint.analyze table source shown patterns with
    | error fault =>
      refine ⟨_, .unlinted rfl analyzed, fun c other => ?_⟩
      cases other with
      | unread refused => cases refused
      | linted text again =>
        cases text
        cases analyzed.symm.trans again
      | unlinted text again =>
        cases text
        cases analyzed.symm.trans again
        rfl
    | ok report =>
      obtain ⟨ignored, whole⟩ := Lint.analyze_ok analyzed
      have single : report.files = [_] := congrArg Report.files whole
      refine ⟨_, .linted rfl analyzed single, fun c other => ?_⟩
      cases other with
      | unread refused => cases refused
      | linted text again single' =>
        cases text
        cases analyzed.symm.trans again
        rw [List.singleton_inj.mp (single'.symm.trans single)]
      | unlinted text again =>
        cases text
        cases analyzed.symm.trans again

theorem Contributes.one {c : Contribution}
    (contributes : Contributes table patterns p read shown c) :
    c.files.length + c.failures.length = 1 := by
  cases contributes <;> rfl

theorem doneFiles_events (c : Contribution) (p : Path) :
    (c.events p).filterMap AuditEvent.done? = [p] := by
  have silent : c.failures.filterMap
      (AuditEvent.done? ∘ fun f => .logged (failureRecord f)) = [] :=
    List.filterMap_eq_nil_iff.mpr fun _ _ => rfl
  rw [Contribution.events, List.filterMap_append, List.filterMap_map, silent]
  rfl

end Contribution

section Run

variable (table : CharacterNames) (w : Workspace) (patterns : List Text) (root : Path)

/-- What a file of a workspace contributes. -/
def ContributesIn (p : Path) (c : Contribution) : Prop :=
  Contributes table patterns p (readSource w p) (w.displayPath p root) c

/-- A later state of an audit has more by what some files contribute. -/
structure Grows (s s' : Progress) (files : List Path) (cs : List Contribution) : Prop where
  reports : s'.reports.flatMap (·.files) = s.reports.flatMap (·.files) ++ cs.flatMap (·.files)
  failures : s'.failures = s.failures ++ cs.flatMap (·.failures)
  events : s'.events = s.events ++ (List.zipWith Contribution.events cs files).flatten

/-- One step adds what its file contributes, whatever the audit has so far. -/
theorem next_grows (s : Progress) (p : Path) :
    ∃ c, ContributesIn table w patterns root p c ∧
      Grows s (next table w patterns root s p) [p] [c] := by
  cases read : readSource w p with
  | error error =>
    refine ⟨_, .unread read, ?_⟩
    constructor <;> simp [next, lintFile, read, Progress.fail, Progress.finish,
      Contribution.events]
  | ok source =>
    cases analyzed : Lint.analyze table source (w.displayPath p root) patterns with
    | error fault =>
      refine ⟨_, .unlinted read analyzed, ?_⟩
      constructor <;> simp [next, lintFile, read, analyzed, Progress.fail, Progress.finish,
        Contribution.events]
    | ok report =>
      obtain ⟨ignored, whole⟩ := Lint.analyze_ok analyzed
      have single : report.files = [_] := congrArg Report.files whole
      refine ⟨_, .linted read analyzed single, ?_⟩
      constructor <;> simp [next, lintFile, read, analyzed, single, Progress.keep,
        Progress.finish, Contribution.events]

theorem Grows.trans {s s' s'' : Progress} {p : Path} {files : List Path} {c : Contribution}
    {cs : List Contribution} (first : Grows s s' [p] [c]) (later : Grows s' s'' files cs) :
    Grows s s'' (p :: files) (c :: cs) := by
  constructor
  · simp [later.reports, first.reports]
  · simp [later.failures, first.failures]
  · simp [later.events, first.events]

theorem run_grows (s : Progress) (files : List Path) :
    ∃ cs, List.Forall₂ (ContributesIn table w patterns root) files cs ∧
      Grows s (run table w patterns root s files) files cs := by
  induction files generalizing s with
  | nil =>
    refine ⟨[], .nil, ?_⟩
    constructor <;> simp [run]
  | cons p files ih =>
    obtain ⟨c, contributes, step⟩ := next_grows table w patterns root s p
    obtain ⟨cs, more, later⟩ := ih (next table w patterns root s p)
    exact ⟨c :: cs, .cons contributes more, step.trans later⟩

/-- What files contribute is decided by each of them. -/
theorem contributions_unique {files : List Path} {cs ds : List Contribution}
    (these : List.Forall₂ (ContributesIn table w patterns root) files cs)
    (those : List.Forall₂ (ContributesIn table w patterns root) files ds) : cs = ds := by
  apply List.right_unique_forall₂' _ these those
  intro p c d one other
  exact (contributes_unique _ _ _ _ _).unique one other

/-- An audit consists of what its files contribute. -/
structure MadeOf (files : List Path) (cs : List Contribution) (audit : Audit) : Prop where
  contributes : List.Forall₂ (ContributesIn table w patterns root) files cs
  reports : audit.report.files = cs.flatMap (·.files)
  failures : audit.failures = cs.flatMap (·.failures)
  events : audit.events = (List.zipWith Contribution.events cs files).flatten ++
    [.logged (countsRecord audit.report audit.failures)]

theorem ofFiles_madeOf (files : List Path) :
    ∃ cs, MadeOf table w patterns root files cs (ofFiles table w patterns root files) := by
  obtain ⟨cs, contributes, grows⟩ := run_grows table w patterns root {} files
  refine ⟨cs, contributes, ?_, ?_, ?_⟩
  · simpa [ofFiles, Report.files_merge] using grows.reports
  · simpa [ofFiles] using grows.failures
  · simp [ofFiles, grows.events]

variable {table w patterns root} {files : List Path} {cs : List Contribution}

theorem length_contributions
    (contributes : List.Forall₂ (ContributesIn table w patterns root) files cs) :
    (cs.flatMap (·.files)).length + (cs.flatMap (·.failures)).length = files.length := by
  induction contributes with
  | nil => rfl
  | cons contributes more ih =>
    have one := contributes.one
    simp only [List.flatMap_cons, List.length_append, List.length_cons]
    omega

theorem done_contributions
    (contributes : List.Forall₂ (ContributesIn table w patterns root) files cs) :
    (List.zipWith Contribution.events cs files).flatten.filterMap AuditEvent.done? = files := by
  induction contributes with
  | nil => rfl
  | @cons p c files cs contributes more ih =>
    rw [List.zipWith_cons_cons, List.flatten_cons, List.filterMap_append, doneFiles_events, ih,
      List.singleton_append]

theorem MadeOf.length {audit : Audit} (made : MadeOf table w patterns root files cs audit) :
    audit.report.files.length + audit.failures.length = files.length := by
  rw [made.reports, made.failures, length_contributions made.contributes]

theorem MadeOf.doneFiles {audit : Audit} (made : MadeOf table w patterns root files cs audit) :
    audit.doneFiles = files := by
  rw [Audit.doneFiles, made.events, List.filterMap_append, done_contributions made.contributes]
  exact List.append_nil files

end Run

/-- The audit of some files and then others consists of what either contribute alone. -/
theorem ofFiles_append (table : CharacterNames) (w : Workspace) (patterns : List Text)
    (root : Path) (files more : List Path) :
    (ofFiles table w patterns root (files ++ more)).report.files =
        (ofFiles table w patterns root files).report.files ++
          (ofFiles table w patterns root more).report.files ∧
      (ofFiles table w patterns root (files ++ more)).failures =
        (ofFiles table w patterns root files).failures ++
          (ofFiles table w patterns root more).failures := by
  obtain ⟨cs, made⟩ := ofFiles_madeOf table w patterns root files
  obtain ⟨ds, made'⟩ := ofFiles_madeOf table w patterns root more
  obtain ⟨es, whole⟩ := ofFiles_madeOf table w patterns root (files ++ more)
  have parts : es = cs ++ ds := contributions_unique table w patterns root whole.contributes
    (List.rel_append made.contributes made'.contributes)
  rw [whole.reports, whole.failures, made.reports, made'.reports, made.failures, made'.failures,
    parts, List.flatMap_append, List.flatMap_append]
  exact ⟨rfl, rfl⟩

/-- An audit accounts for its files. A file makes exactly one contribution, a file report or a
failure, which nothing but the file decides on. The audit is about the files it was given; its
reports and failures are what they contribute, in order, so that there are as many as files; each
file is told to be done with, once and in order, after its failure was logged if it has one; and the
counts are those of the reports. A file in the midst of others adds its contribution between theirs,
and the audit of two lists of files is made of the audits of both. -/
theorem audit_accounts_for_files (table : CharacterNames) (w : Workspace) (patterns : List Text)
    (root : Path) :
    (∀ p read shown, ∃! c, Contributes table patterns p read shown c) ∧
    (∀ files, (ofFiles table w patterns root files).files = files ∧
      (∃ cs, MadeOf table w patterns root files cs (ofFiles table w patterns root files)) ∧
      (ofFiles table w patterns root files).report.files.length +
        (ofFiles table w patterns root files).failures.length = files.length ∧
      (ofFiles table w patterns root files).doneFiles = files ∧
      (ofFiles table w patterns root files).report.fileCount =
        .ofNat (ofFiles table w patterns root files).report.files.length ∧
      (ofFiles table w patterns root files).report.violationCount =
        .ofNat ((ofFiles table w patterns root files).report.files.flatMap (·.violations)).length) ∧
    (∀ before p after, ∃ c, ContributesIn table w patterns root p c ∧
      (ofFiles table w patterns root (before ++ p :: after)).report.files =
        (ofFiles table w patterns root before).report.files ++
          (c.files ++ (ofFiles table w patterns root after).report.files) ∧
      (ofFiles table w patterns root (before ++ p :: after)).failures =
        (ofFiles table w patterns root before).failures ++
          (c.failures ++ (ofFiles table w patterns root after).failures)) ∧
    (∀ files more,
      (ofFiles table w patterns root (files ++ more)).files =
        (ofFiles table w patterns root files).files ++ (ofFiles table w patterns root more).files ∧
      (ofFiles table w patterns root (files ++ more)).failures =
        (ofFiles table w patterns root files).failures ++
          (ofFiles table w patterns root more).failures ∧
      (ofFiles table w patterns root (files ++ more)).report =
        Report.merge [(ofFiles table w patterns root files).report,
          (ofFiles table w patterns root more).report]) := by
  refine ⟨contributes_unique table patterns, fun files => ?_, fun before p after => ?_,
    fun files more => ?_⟩
  · obtain ⟨cs, made⟩ := ofFiles_madeOf table w patterns root files
    have counts := Report.counts_merge (run table w patterns root {} files).reports
    exact ⟨rfl, ⟨cs, made⟩, made.length, made.doneFiles, counts.1, counts.2⟩
  · obtain ⟨cs, made⟩ := ofFiles_madeOf table w patterns root [p]
    obtain ⟨c, ds, contributes, none, rfl⟩ := List.forall₂_cons_left_iff.mp made.contributes
    obtain rfl := List.forall₂_nil_left_iff.mp none
    have alone := ofFiles_append table w patterns root [p] after
    have whole := ofFiles_append table w patterns root before (p :: after)
    rw [List.singleton_append, made.reports, made.failures] at alone
    refine ⟨c, contributes, ?_, ?_⟩
    · rw [whole.1, alone.1]
      simp
    · rw [whole.2, alone.2]
      simp
  · obtain ⟨reports, failures⟩ := ofFiles_append table w patterns root files more
    exact ⟨rfl, failures, Report.merge_pair _ _ _ reports⟩

end Audit
end BemLint
