import BemLint.Proofs.Command.Outcome
import BemLint.Proofs.Report.Files

/-!
# A check is about one report

Whatever a check prints as JSON, writes into a report file and says by its status is about one
report: the one on its input, or on the files that its path means. Whether a report file is written
makes no difference to the rest.
-/
namespace BemLint

namespace Audit
open Report (Linted)

variable {table : CharacterNames} {w : Workspace} {patterns : List Text} {root : Path}

theorem next_linted (s : Progress) (p : Path) (each : ∀ r ∈ s.reports, Linted r) :
    ∀ r ∈ (next table w patterns root s p).reports, Linted r := by
  rw [next]
  split
  next report linted =>
    intro r member
    rcases List.mem_append.mp member with member | last
    · exact each r member
    · rw [lintFile] at linted
      split at linted
      next => cases linted
      next =>
        split at linted
        next => cases linted
        next analyzed =>
          cases linted
          exact List.mem_singleton.mp last ▸ .source analyzed
  next => exact each

/-- An audit merges reports of linting. -/
theorem linted_ofFiles (table : CharacterNames) (w : Workspace) (patterns : List Text) (root : Path)
    (files : List Path) : Linted (ofFiles table w patterns root files).report := by
  refine .merged ?_
  rw [run]
  have none : ∀ r ∈ ({} : Progress).reports, Linted r := by simp
  generalize ({} : Progress) = s at none
  induction files generalizing s with
  | nil => exact none
  | cons p files ih => exact ih _ (next_linted s p none)

end Audit

namespace Report

/-- Saving a report fails at most in the file system, and each of its numbers can be written. -/
structure Writable (r : Report) (target : ReportTarget) (directory : Path) (now : Moment)
    (w : Workspace) : Prop where
  short : r.hasLongNumber = false
  saved : ∀ fault, (r.save target directory now w).outcome ≠ .error fault

end Report

namespace Command

/-! ## What is asked for and what is found -/

/-- A command line asks for a check, and for how much the run tells about itself. -/
inductive Asks (w : Workspace) (words : List Text) : Verbosity → CheckRequest → Prop where
  | intro {group : Arguments GroupOption} {arguments : List Text}
      {parsed : Arguments CheckOption} {request : CheckRequest}
      (grouped : Arguments.parse groupSpecs false words = .ok group)
      (runs : group.options.contains .version = false)
      (named : group.words = "check".toList :: arguments)
      (audible : ((verbosityOf group.options).verbose && (verbosityOf group.options).quiet) = false)
      (understood : Arguments.parse checkSpecs true arguments = .ok parsed)
      (requested : checkRequest w parsed = .ok request) :
      Asks w words (verbosityOf group.options) request

def CheckRequest.files (request : CheckRequest) (w : Workspace) (settings : Settings)
    (depth : Nat) : Except Discovery.Fault (List Path) :=
  Discovery.files w ⟨settings.extensions, settings.excludedDirectories⟩ (Path.ofText request.path)
    depth

/-- A check finds a report: the one on its input or on the files that its path means. -/
inductive Finds (around : Surroundings) (w : Workspace) (settings : Settings)
    (request : CheckRequest) : Report → Prop where
  | input {r : Report} (given : request.isOfInput = true)
      (analyzed : Lint.analyze around.table (Text.Utf8.decodeLossy around.input) Lint.snippetPath
        settings.ignoreList = .ok r) : Finds around w settings request r
  | files {found : List Path} (given : request.isOfInput = false)
      (discovered : request.files w settings around.depth = .ok found) (some : found ≠ []) :
      Finds around w settings request
        (Audit.ofFiles around.table w settings.ignoreList request.root found).report

/-- A check finds nothing: its path is not that of the input, and means no file. -/
def FindsNothing (around : Surroundings) (w : Workspace) (settings : Settings)
    (request : CheckRequest) : Prop :=
  request.isOfInput = false ∧
    ∀ found, request.files w settings around.depth = .ok found → found = []

/-- A check of a project can be carried out: its output is wanted as JSON, the settings are loaded,
the patterns can be used, and what is found can be written. -/
structure Ready (around : Surroundings) (w : Workspace) (request : CheckRequest)
    (found : Settings) : Prop where
  json : checkFormat request.format = .ok .json
  loaded : ∃ records, (Settings.loadOrDefault w request.root).run.run [] = (.ok found, records)
  usable : ∃ ignored,
    IgnoreList.ofPatterns around.table (request.settings found).ignoreList = .ok ignored
  writable : ∀ r, Finds around w (request.settings found) request r →
    r.Writable found.output request.root around.now w

section Check

variable {around : Surroundings} {w : Workspace} {settings found : Settings}
  {request : CheckRequest} {r : Report} {v : Verbosity}

theorem Finds.unique {r' : Report} (finds : Finds around w settings request r)
    (again : Finds around w settings request r') : r = r' := by
  cases finds with
  | input given analyzed =>
    cases again with
    | input _ analyzed' => exact Except.ok.inj (analyzed.symm.trans analyzed')
    | files other => simp [given] at other
  | files given discovered =>
    cases again with
    | input other => simp [given] at other
    | files _ discovered' => rw [Except.ok.inj (discovered.symm.trans discovered')]

theorem Finds.linted (finds : Finds around w settings request r) : Report.Linted r := by
  cases finds with
  | input _ analyzed => exact .source analyzed
  | files => exact Audit.linted_ofFiles ..

theorem Finds.something (finds : Finds around w settings request r) :
    ¬FindsNothing around w settings request := by
  rintro ⟨other, none⟩
  cases finds with
  | input given => simp [given] at other
  | files _ discovered some => exact some (none _ discovered)

/-- A check with usable patterns finds nothing or a report. -/
theorem finds_or_nothing (request : CheckRequest) (around : Surroundings) (w : Workspace)
    (usable : ∃ ignored, IgnoreList.ofPatterns around.table settings.ignoreList = .ok ignored) :
    FindsNothing around w settings request ∨ ∃ r, Finds around w settings request r := by
  cases given : request.isOfInput with
  | true =>
    obtain ⟨ignored, usable⟩ := usable
    have analyzed := congrArg (· >>= fun ignored => pure (Report.ofFiles
      [⟨Lint.snippetPath, Lint.violations ignored (Text.Utf8.decodeLossy around.input)⟩])) usable
    exact .inr ⟨_, .input given analyzed⟩
  | false =>
    rcases discovered : request.files w settings around.depth with _ | (_ | ⟨p, files⟩)
    · exact .inl ⟨given, by simp [discovered]⟩
    · exact .inl ⟨given, by simp [discovered]⟩
    · exact .inr ⟨_, .files given discovered (by simp)⟩

/-! ## The parts of a check -/

theorem gives_loadSettings {records : List LogRecord} {s : RunState} (v : Verbosity) (root : Path)
    (loaded : (Settings.loadOrDefault s.workspace root).run.run [] = (.ok found, records)) :
    Gives (loadSettings v root) s (.ok found) s := by
  rw [loadSettings]
  refine .get fun errors => ?_
  simp only [loaded]
  refine .bind (gives_showLog v records s) (.bind (gives_orFail _ rfl s) ?_)
  split
  next => exact .bind (gives_showLog v _ s) (.pure _ s)
  next => exact .pure _ s

theorem gives_progress (condition : Bool) (text : Text) (s : RunState) :
    Gives (if condition then printError text else pure ()) s (.ok ()) s := by
  cases condition
  · exact .pure () s
  · exact gives_printError text s

theorem gives_lintFiles {paths : List Path} {s : RunState} {format : CheckFormat}
    (discovered : request.files s.workspace settings around.depth = .ok paths) (some : paths ≠ []) :
    Gives (lintFiles around v request settings format) s
      (.ok (Audit.ofFiles around.table s.workspace settings.ignoreList request.root paths).report)
      s := by
  have audited : Audit.ofPath around.table s.workspace settings request.root
      (Path.ofText request.path) around.depth =
      .ok (Audit.ofFiles around.table s.workspace settings.ignoreList request.root paths) := by
    rw [Audit.ofPath]
    exact congrArg (· >>= _) discovered
  rw [lintFiles]
  refine .get fun errors => ?_
  simp only [audited]
  refine .bind (gives_showLog v _ s) (.bind (gives_progress _ _ s) ?_)
  have filled : (Audit.ofFiles around.table s.workspace settings.ignoreList request.root
      paths).files.isEmpty = false := by
    rw [List.isEmpty_eq_false_iff]
    exact some
  simp only [filled]
  exact .pure _ s

/-- Without files a check stops with the status of a failure and has printed nothing. -/
theorem stops_lintFiles {s : RunState} {format : CheckFormat}
    (nothing : ∀ paths, request.files s.workspace settings around.depth = .ok paths → paths = []) :
    ∃ reason, Gives (lintFiles around v request settings format) s (.error reason) s ∧
      Program.exitStatus (ending (.error reason)) = 1 := by
  rcases discovered : request.files s.workspace settings around.depth with fault | paths
  · have audited : Audit.ofPath around.table s.workspace settings request.root
      (Path.ofText request.path) around.depth =
        .error fault := congrArg (· >>= _) discovered
    refine ⟨.error (.discovery fault), ?_, rfl⟩
    rw [lintFiles]
    refine .get fun errors => ?_
    simp only [audited]
    exact .bind (gives_progress _ _ s) (gives_throw _ s)
  · obtain rfl := nothing paths discovered
    have audited : Audit.ofPath around.table s.workspace settings request.root
      (Path.ofText request.path) around.depth =
        .ok (Audit.ofFiles around.table s.workspace settings.ignoreList request.root []) :=
      congrArg (· >>= _) discovered
    obtain ⟨reason, stops, status⟩ : ∃ reason, Gives (stopWithoutFiles request.path : Run Unit) s
        (.error reason) s ∧ Program.exitStatus (ending (.error reason)) = 1 := by
      rw [stopWithoutFiles]
      rcases Terminal.renderMarkup ("No files found to check at: ".toList ++ request.path) with
        fault | message
      · exact ⟨.error (.markup fault), .stop (gives_throw _ s), rfl⟩
      · exact ⟨.status 1, .bind (.pure message s) (.bind (gives_printError _ s) (gives_throw _ s)),
          rfl⟩
    refine ⟨reason, ?_, status⟩
    rw [lintFiles]
    refine .get fun errors => ?_
    simp only [audited]
    exact .bind (gives_showLog v _ s) (.bind (gives_progress _ _ s) (.stop stops))

theorem gives_printReport (finds : Finds around w settings request r)
    (short : r.hasLongNumber = false) (root : Path) (s : RunState) :
    Gives (printReport v root .json r) s (.ok ())
      { s with output := s.output ++ (r.jsonText ++ ['\n']) } := by
  have regular := (Report.regular_iff r).mpr ⟨finds.linted.placed, short⟩
  have whole : Terminal.dropSequences r.jsonText = r.jsonText :=
    Terminal.dropSequences_self _ fun c member => (regular.visible c member).ne (by decide)
  have printed := gives_print (r.jsonText ++ ['\n']) s
  rw [printReport]
  simp only [short, Bool.false_eq_true, if_false, printPlain, whole]
  exact printed

theorem gives_saveReport {s : RunState} {root : Path} {now : Moment}
    (saved : ∀ fault, (r.save settings.output root now s.workspace).outcome ≠ .error fault) :
    Gives (saveReport v settings root now r) s (.ok ())
      { s with workspace := (r.save settings.output root now s.workspace).workspace } := by
  rcases outcome : (r.save settings.output root now s.workspace).outcome with fault | path
  · exact absurd outcome (saved fault)
  · rw [saveReport]
    refine .get fun errors => .bind (gives_set ⟨_, _, errors⟩ s) ?_
    refine .bind (gives_showLog v _ _) (.bind (gives_orFail _ outcome _) ?_)
    cases path with
    | some p => exact gives_showLog v _ _
    | none => exact .pure () _

theorem gives_findReport {s : RunState} {format : CheckFormat}
    (finds : Finds around s.workspace settings request r) :
    Gives (findReport around v request settings format) s (.ok r) s := by
  cases finds with
  | input given analyzed =>
    rw [findReport, if_pos given]
    exact gives_orFail _ analyzed s
  | files given discovered some =>
    rw [findReport, given]
    exact gives_lintFiles discovered some

/-! ## A whole check -/

/-- What a check says about a report: on request, violations are a failure. -/
def verdict (request : CheckRequest) (r : Report) : Except Stop Unit :=
  if request.failOnViolations && 0 < r.violationCount.value then .error (.status 1) else .ok ()

/-- The workspace after a check: the report has been saved if that was wanted. -/
def leftBehind (around : Surroundings) (w : Workspace) (target : ReportTarget)
    (request : CheckRequest) (r : Report) : Workspace :=
  if request.writeReport then (r.save target request.root around.now w).workspace else w

theorem gives_deliver {s : RunState} (finds : Finds around s.workspace settings request r)
    (writable : r.Writable settings.output request.root around.now s.workspace) :
    Gives (deliver around v request settings .json r) s (verdict request r)
      { s with
        workspace := leftBehind around s.workspace settings.output request r
        output := s.output ++ (r.jsonText ++ ['\n']) } := by
  have judged : ∀ s', Gives (if request.failOnViolations && 0 < r.violationCount.value then
      throw (.status 1) else pure ()) s' (verdict request r) s' := by
    intro s'
    rw [verdict]
    split
    next => exact gives_throw _ s'
    next => exact .pure () s'
  rw [deliver]
  refine .bind (gives_printReport finds writable.short request.root s) ?_
  cases wanted : request.writeReport with
  | true =>
    simp only [leftBehind, wanted, if_true]
    exact .bind (gives_saveReport writable.saved) (judged _)
  | false =>
    simp only [leftBehind, wanted, Bool.false_eq_true, if_false]
    exact judged _

/-- Up to the search for a report, a check has done nothing but tell what it does. -/
theorem gives_check {words : List Text} {parsed : Arguments CheckOption}
    {result : Except Stop Unit} {s' : RunState}
    (understood : Arguments.parse checkSpecs true words = .ok parsed)
    (requested : checkRequest w parsed = .ok request) (ready : Ready around w request found)
    (later : Gives (do
      deliver around v request (request.settings found) .json
        (← findReport around v request (request.settings found) .json)) ⟨w, [], []⟩ result s') :
    Gives (check around v words) ⟨w, [], []⟩ result s' := by
  obtain ⟨records, loaded⟩ := ready.loaded
  rw [check]
  refine .bind (gives_orFail _ understood _) (.get fun errors => ?_)
  refine .bind (gives_orFail _ requested _) (.bind (gives_orFail _ ready.json _) ?_)
  exact .bind (gives_loadSettings v request.root loaded) later

theorem Asks.gives {words : List Text} {result : Except Stop Unit} {s' : RunState}
    (asks : Asks w words v request) (ready : Ready around w request found)
    (later : Gives (do
      deliver around v request (request.settings found) .json
        (← findReport around v request (request.settings found) .json)) ⟨w, [], []⟩ result s') :
    Gives (carryOut around words) ⟨w, [], []⟩ result s' := by
  obtain ⟨grouped, runs, named, audible, understood, requested⟩ := asks
  rw [carryOut]
  refine .bind (gives_orFail _ grouped _) ?_
  simp only [runs, named, command?, audible, if_true, Bool.false_eq_true, if_false]
  exact gives_check understood requested ready later

theorem status_verdict (request : CheckRequest) (r : Report) :
    Program.exitStatus (ending (verdict request r)) =
      if request.failOnViolations = true ∧ 0 < r.violationCount.value then 1 else 0 := by
  rw [verdict]
  by_cases failure : request.failOnViolations = true ∧ 0 < r.violationCount.value
  · rw [if_pos failure, if_pos (by simpa using failure)]
    rfl
  · rw [if_neg failure, if_neg (by simpa using failure)]
    rfl

/-- A check that finds a report prints it, saves it if that is wanted, and judges it. -/
theorem Asks.run_found {words : List Text} (asks : Asks w words v request)
    (ready : Ready around w request found)
    (finds : Finds around w (request.settings found) request r) :
    (run around w words).1 = ending (verdict request r) ∧
      (run around w words).2.output = r.jsonText ++ ['\n'] ∧
      (run around w words).2.workspace = leftBehind around w found.output request r :=
  (asks.gives ready
    ((gives_findReport finds).bind (gives_deliver finds (ready.writable r finds)))).run

/-- A check that finds nothing fails and does nothing else. -/
theorem Asks.run_nothing {words : List Text} (asks : Asks w words v request)
    (ready : Ready around w request found)
    (nothing : FindsNothing around w (request.settings found) request) :
    Program.exitStatus (run around w words).1 = 1 ∧ (run around w words).2.output = [] ∧
      (run around w words).2.workspace = w := by
  obtain ⟨given, nothing⟩ := nothing
  obtain ⟨reason, stops, status⟩ :
      ∃ reason, Gives (findReport around v request (request.settings found) .json) ⟨w, [], []⟩
          (.error reason) ⟨w, [], []⟩ ∧ Program.exitStatus (ending (.error reason)) = 1 := by
    rw [findReport, given]
    exact stops_lintFiles nothing
  obtain ⟨result, output, workspace⟩ := (asks.gives ready stops.stop).run
  exact ⟨result ▸ status, output, workspace⟩

/-- What is found does not depend on whether it is to be saved. -/
theorem Finds.saving (finds : Finds around w settings request r) (wanted : Bool) :
    Finds around w settings { request with writeReport := wanted } r := by
  cases finds with
  | input given analyzed => exact .input given analyzed
  | files given discovered some => exact .files given discovered some

theorem Ready.saving (ready : Ready around w request found) (wanted : Bool) :
    Ready around w { request with writeReport := wanted } found :=
  { json := ready.json
    loaded := ready.loaded
    usable := ready.usable
    writable := fun r finds => ready.writable r (finds.saving request.writeReport) }

/-- What a check prints, what it writes and its status are about one report. When it finds one, the
output is read as that report and so is the report file, if one is written; when it finds nothing,
it prints and writes nothing. Whether a report file is wanted makes no difference to the output or
the status. The status is that of a failure just when nothing is found, or when violations are
found and are to be a failure. -/
theorem check_is_about_one_report {words : List Text} (rooted : w.IsRooted)
    (asks : Asks w words v request) (ready : Ready around w request found) :
    (¬FindsNothing around w (request.settings found) request →
      ∃ r, Finds around w (request.settings found) request r ∧
        Report.parse (run around w words).2.output = .ok r ∧
        (run around w words).2.workspace = leftBehind around w found.output request r ∧
        ∀ p, request.writeReport = true →
          (r.save found.output request.root around.now w).outcome = .ok (some p) →
            ∃ source, Settings.readStrict (run around w words).2.workspace p = .ok source ∧
              Report.parse source = .ok r) ∧
    (FindsNothing around w (request.settings found) request →
      (run around w words).2.output = [] ∧ (run around w words).2.workspace = w) ∧
    (∀ other v' wanted, Asks w other v' { request with writeReport := wanted } →
      (run around w other).2.output = (run around w words).2.output ∧
      Program.exitStatus (run around w other).1 = Program.exitStatus (run around w words).1) ∧
    (Program.exitStatus (run around w words).1 = 1 ↔
      FindsNothing around w (request.settings found) request ∨ request.failOnViolations = true ∧
        ∃ r, Finds around w (request.settings found) request r ∧ 0 < r.violationCount.value) ∧
    (Program.exitStatus (run around w words).1 ≠ 1 →
      Program.exitStatus (run around w words).1 = 0) := by
  -- Two command lines that differ in the saving find the same, so one case distinction serves both.
  rcases finds_or_nothing request around w ready.usable with nothing | ⟨r, finds⟩
  · obtain ⟨status, output, workspace⟩ := asks.run_nothing ready nothing
    refine ⟨absurd nothing, fun _ => ⟨output, workspace⟩, fun other v' wanted asks' => ?_, ?_, ?_⟩
    · obtain ⟨status', output', -⟩ := asks'.run_nothing (ready.saving wanted) nothing
      exact ⟨output'.trans output.symm, status'.trans status.symm⟩
    · exact ⟨fun _ => .inl nothing, fun _ => status⟩
    · exact absurd status
  · obtain ⟨result, output, workspace⟩ := asks.run_found ready finds
    have status := status_verdict request r
    rw [← result] at status
    have regular := (Report.regular_iff r).mpr ⟨finds.linted.placed, (ready.writable r finds).short⟩
    refine ⟨fun _ => ⟨r, finds, ?_, workspace, fun p wanted outcome => ?_⟩,
      fun nothing => absurd nothing finds.something, fun other v' wanted asks' => ?_, ?_, ?_⟩
    · rw [output]
      exact Report.parse_written r regular ['\n'] (by simp)
    · rw [workspace, leftBehind, if_pos wanted]
      exact finds.linted.read_back rooted outcome
    · obtain ⟨result', output', -⟩ := asks'.run_found (ready.saving wanted) (finds.saving wanted)
      rw [output', output, result', result]
      exact ⟨rfl, rfl⟩
    · rw [status]
      constructor
      · intro one
        by_contra none
        rw [if_neg] at one
        · cases one
        · exact fun failure => none (.inr ⟨failure.1, r, finds, failure.2⟩)
      · rintro (nothing | ⟨failure, r', finds', some⟩)
        · exact absurd nothing finds.something
        · rw [if_pos ⟨failure, finds.unique finds' ▸ some⟩]
    · intro other
      rw [status] at other ⊢
      exact if_neg fun failure => other (if_pos failure)

end Check

def onePage : Workspace :=
  ⟨["work".toList], [(["work".toList], .directory),
    (["work".toList, "a.html".toList], .file (Text.Utf8.encode "<p class=\"Card\">".toList))]⟩

/-- A check of the page that takes violations for a failure. -/
def strictCheck : CheckRequest :=
  ⟨"a.html".toList, ⟨.slash, ["work".toList]⟩, "json".toList, [], true, true⟩

def strictWords : List Text := ["a.html".toList, "--json".toList, "--fail-on-violations".toList]

def dryWords : List Text :=
  ["--no-write-report".toList, "--format=json".toList, "--fail-on-violations".toList,
    "a.html".toList]

def morning : Surroundings := { input := [], now := ⟨2024, 3, 7, 9, 5, 2⟩ }

def morningReport : Path :=
  ⟨.slash, ["work".toList, "bem-reports".toList, "bem-report_2024-03-07_090502.json".toList]⟩

theorem check_is_about_one_report_onePage :
    ∃ r, Report.parse (run morning onePage ("check".toList :: strictWords)).2.output = .ok r ∧
      (∃ source, Settings.readStrict
          (run morning onePage ("check".toList :: strictWords)).2.workspace morningReport =
            .ok source ∧ Report.parse source = .ok r) ∧
      (run morning onePage ("-q".toList :: "check".toList :: dryWords)).2.output =
        (run morning onePage ("check".toList :: strictWords)).2.output ∧
      Program.exitStatus (run morning onePage ("check".toList :: strictWords)).1 = 1 ∧
      Program.exitStatus (run morning onePage ("-q".toList :: "check".toList :: dryWords)).1 =
        1 := by
  have rooted : onePage.IsRooted := by decide
  have asks : Asks onePage ("check".toList :: strictWords) ⟨false, false, true⟩ strictCheck :=
    have grouped : Arguments.parse groupSpecs false ("check".toList :: strictWords) =
      .ok ⟨[], "check".toList :: strictWords⟩ := by cbv
    have understood : Arguments.parse checkSpecs true strictWords =
      .ok ⟨[.json, .failOnViolations], ["a.html".toList]⟩ := by cbv
    .intro grouped rfl rfl rfl understood rfl
  have asks' : Asks onePage ("-q".toList :: "check".toList :: dryWords) ⟨false, true, true⟩
      { strictCheck with writeReport := false } :=
    have grouped : Arguments.parse groupSpecs false ("-q".toList :: "check".toList :: dryWords) =
      .ok ⟨[.quiet], "check".toList :: dryWords⟩ := by cbv
    have understood : Arguments.parse checkSpecs true dryWords =
      .ok ⟨[.writeReport false, .format "json".toList, .failOnViolations], ["a.html".toList]⟩ := by
        cbv
    .intro grouped rfl rfl rfl understood rfl
  have discovered : strictCheck.files onePage (strictCheck.settings {}) morning.depth =
      .ok [⟨.none, ["a.html".toList]⟩] := by decide +kernel
  have finds : Finds morning onePage (strictCheck.settings {}) strictCheck
      (Audit.ofFiles morning.table onePage [] ⟨.slash, ["work".toList]⟩
        [⟨.none, ["a.html".toList]⟩]).report :=
    .files rfl discovered (by decide)
  have outcome : ((Audit.ofFiles morning.table onePage [] ⟨.slash, ["work".toList]⟩
      [⟨.none, ["a.html".toList]⟩]).report.save {} ⟨.slash, ["work".toList]⟩ morning.now
        onePage).outcome = .ok (some morningReport) := by decide +kernel
  have ready : Ready morning onePage strictCheck {} :=
    { json := rfl
      loaded := ⟨[], rfl⟩
      usable := ⟨_, rfl⟩
      writable := fun r other => by
        obtain rfl := finds.unique other
        refine ⟨by decide +kernel, fun fault failed => ?_⟩
        cases outcome.symm.trans failed }
  obtain ⟨reported, -, same, failure, -⟩ := check_is_about_one_report rooted asks ready
  obtain ⟨r, finds', read, -, saved⟩ := reported finds.something
  obtain rfl := finds.unique finds'
  have status := failure.mpr (.inr ⟨rfl, _, finds, by decide +kernel⟩)
  obtain ⟨output, status'⟩ := same _ _ false asks'
  exact ⟨_, read, saved morningReport rfl outcome, output, status, status'.trans status⟩

end Command
end BemLint
