import BemLint.Proofs.Json.Limits
import BemLint.Proofs.Report.RoundTrip
import Mathlib

/-!
# Which values are reports

The shape that a value must have to be read as a report, layer by layer: only the counts, the paths
and the rules are demanded, and lists may be missing. Whatever else a violation holds or lacks, what
has been read is a report with positive places and numbers within the limit, so it is written and
read again as it is.
-/
namespace BemLint.Report

/-- A field that counts: an integer, or a truth value for one. -/
inductive IsCount : Option Json → Prop where
  | int (n : Int) : IsCount (some (.int n))
  | flag (b : Bool) : IsCount (some (.bool b))

/-- A field that is missing, or lists values of a kind. -/
inductive MayList (kind : Json → Prop) : Option Json → Prop where
  | missing : MayList kind none
  | list {items : List Json} (each : ∀ item ∈ items, kind item) : MayList kind (some (.arr items))

inductive ViolationShape : Json → Prop where
  | object {fields : List (Text × Json)} (rule : Rule)
      (named : Json.field? "rule_id".toList fields = some (.str rule.id)) :
      ViolationShape (.obj fields)

/-- An object with a path, and violations if it lists any. -/
inductive FileShape : Json → Prop where
  | object {fields : List (Text × Json)} {path : Text}
      (placed : Json.field? "file_path".toList fields = some (.str path))
      (violations : MayList ViolationShape (Json.field? "violations".toList fields)) :
      FileShape (.obj fields)

inductive ReportShape : Json → Prop where
  | object {fields summary : List (Text × Json)}
      (summed : Json.field? "summary".toList fields = some (.obj summary))
      (fileCount : IsCount (Json.field? "file_count".toList summary))
      (violationCount : IsCount (Json.field? "violation_count".toList summary))
      (files : MayList FileShape (Json.field? "files".toList fields)) :
      ReportShape (.obj fields)

/-! ## What is read -/

theorem isCount_iff (field : Option Json) :
    IsCount field ↔ ∃ n, field.bind Tally.ofJson? = some n := by
  constructor
  · rintro (n | b)
    · exact ⟨.int n, rfl⟩
    · exact ⟨.flag b, rfl⟩
  · rintro ⟨n, count⟩
    rcases field with _ | value
    · cases count
    · cases value with
      | int n => exact .int n
      | bool b => exact .flag b
      | null | float | str | arr | obj => cases count

theorem ruleOf?_iff (value : Json) (rule : Rule) :
    ruleOf? value = some rule ↔ value = .str rule.id := by
  refine ⟨fun known => ?_, fun named => named ▸ ruleOf?_id rule⟩
  cases value with
  | str name =>
    have same := List.find?_some (show Rule.all.find? (fun r => r.id = name) = some rule from known)
    rw [decide_eq_true_eq] at same
    rw [same]
  | null | bool | int | float | arr | obj => cases known

theorem readViolation_accepts_iff (path : Text) (value : Json) :
    (∃ v, readViolation path value = .ok v) ↔ ViolationShape value := by
  constructor
  · rintro ⟨v, read⟩
    cases value with
    | obj fields =>
      cases given : Json.field? "rule_id".toList fields with
      | none =>
        rw [readViolation, given] at read
        cases read
      | some name =>
        rw [readViolation, given] at read
        cases known : ruleOf? name with
        | none =>
          simp only [Option.getD_some, known] at read
          cases read
        | some rule =>
          rw [ruleOf?_iff] at known
          exact .object rule (known ▸ given)
    | null | bool | int | float | str | arr => cases read
  · rintro ⟨rule, named⟩
    rw [readViolation]
    simp only [named, Option.getD_some, ruleOf?_id]
    exact ⟨_, rfl⟩

theorem readFile_accepts_iff (value : Json) : (∃ f, readFile value = .ok f) ↔ FileShape value := by
  constructor
  · rintro ⟨f, read⟩
    cases value with
    | obj fields =>
      rw [readFile] at read
      split at read
      next path placed =>
        split at read
        next none => exact .object placed (none ▸ .missing)
        next items listed =>
          cases done : items.mapM (readViolation path) with
          | error e =>
            rw [done] at read
            cases read
          | ok violations =>
            have each := mapM_accepts_iff.mp ⟨violations, done⟩
            simp only [readViolation_accepts_iff] at each
            exact .object placed (listed ▸ .list each)
        next => cases read
      next => cases read
    | null | bool | int | float | str | arr => cases read
  · rintro @⟨fields, path, placed, listed⟩
    rw [readFile, placed]
    cases found : Json.field? "violations".toList fields with
    | none => exact ⟨_, rfl⟩
    | some other =>
      rw [found] at listed
      cases listed with
      | list each =>
        simp only [← readViolation_accepts_iff path] at each
        obtain ⟨violations, done⟩ := mapM_accepts_iff.mpr each
        simp only [done]
        exact ⟨_, rfl⟩

theorem readFiles_accepts_iff (fields : List (Text × Json)) :
    (∃ files, readFiles fields = .ok files) ↔
      MayList FileShape (Json.field? "files".toList fields) := by
  rw [readFiles]
  constructor
  · rintro ⟨files, read⟩
    split at read
    next none => exact none ▸ .missing
    next items listed =>
      have each := mapM_accepts_iff.mp ⟨files, read⟩
      simp only [readFile_accepts_iff] at each
      exact listed ▸ .list each
    next => cases read
  · intro listed
    cases found : Json.field? "files".toList fields with
    | none => exact ⟨_, rfl⟩
    | some other =>
      rw [found] at listed
      cases listed with
      | list each =>
        simp only [← readFile_accepts_iff] at each
        exact mapM_accepts_iff.mpr each

theorem readCounts?_accepts_iff (summary : List (Text × Json)) :
    (∃ counts, readCounts? summary = some counts) ↔
      IsCount (Json.field? "file_count".toList summary) ∧
        IsCount (Json.field? "violation_count".toList summary) := by
  rw [isCount_iff, isCount_iff]
  constructor
  · rintro ⟨counts, read⟩
    obtain ⟨fileCount, first, read⟩ := Option.bind_eq_some_iff.mp read
    obtain ⟨violationCount, second, -⟩ := Option.bind_eq_some_iff.mp read
    exact ⟨⟨fileCount, first⟩, violationCount, second⟩
  · rintro ⟨⟨fileCount, first⟩, violationCount, second⟩
    rw [readCounts?, first, second]
    exact ⟨_, rfl⟩

/-- What a value that is read as a report consists of. -/
theorem ofJson_ok {value : Json} {r : Report} (read : ofJson value = .ok r) :
    ∃ fields summary, value = .obj fields ∧
      Json.field? "summary".toList fields = some (.obj summary) ∧
      readCounts? summary = some (r.fileCount, r.violationCount) ∧
      readFiles fields = .ok r.files := by
  cases value with
  | obj fields =>
    rw [ofJson] at read
    split at read
    next summary summed =>
      split at read
      next => cases read
      next fileCount violationCount counts =>
        cases files : readFiles fields with
        | error misshape =>
          rw [files] at read
          cases read
        | ok found =>
          rw [files] at read
          cases read
          exact ⟨fields, summary, rfl, summed, counts, files⟩
    next => cases read
  | null | bool | int | float | str | arr => cases read

theorem ofJson_accepts_iff (value : Json) : (∃ r, ofJson value = .ok r) ↔ ReportShape value := by
  constructor
  · rintro ⟨r, read⟩
    obtain ⟨fields, summary, rfl, summed, counts, files⟩ := ofJson_ok read
    obtain ⟨fileCount, violationCount⟩ := (readCounts?_accepts_iff summary).mp ⟨_, counts⟩
    exact .object summed fileCount violationCount ((readFiles_accepts_iff fields).mp ⟨_, files⟩)
  · rintro @⟨fields, summary, summed, fileCount, violationCount, listed⟩
    obtain ⟨counts, read⟩ := (readCounts?_accepts_iff summary).mpr ⟨fileCount, violationCount⟩
    obtain ⟨files, done⟩ := (readFiles_accepts_iff fields).mpr listed
    rw [ofJson, summed]
    simp only [read, done]
    exact ⟨_, rfl⟩

/-! ## Numbers that are read -/

theorem withinLimit_of_fits {value : Json} (fits : value.Fits) {n : Tally}
    (count : Tally.ofJson? value = some n) : n.WithinLimit := by
  cases fits with
  | int small =>
    cases count
    exact small
  | bool b =>
    cases count
    exact withinLimit_digit _ (by cases b <;> decide)
  | null | float | str | arr | obj => cases count

/-- A place is positive whatever its field holds. -/
theorem placeOf_isPlace {field : Option Json} (fits : ∀ value, field = some value → value.Fits) :
    (placeOf field).IsPlace := by
  have first : (Tally.int 1).IsPlace := ⟨Int.le_refl 1, withinLimit_digit _ (by decide)⟩
  rw [placeOf]
  split
  next n count =>
    obtain ⟨value, found, count⟩ := Option.bind_eq_some_iff.mp count
    split
    next positive => exact ⟨positive, withinLimit_of_fits (fits value found) count⟩
    next => exact first
  next => exact first

theorem readViolation_places {path : Text} {value : Json} (fits : value.Fits) {v : Violation}
    (read : readViolation path value = .ok v) : v.line.IsPlace ∧ v.column.IsPlace := by
  cases fits with
  | obj each =>
    rw [readViolation] at read
    split at read
    next => cases read
    next =>
      cases read
      exact ⟨placeOf_isPlace fun _ found => .field? each found,
        placeOf_isPlace fun _ found => .field? each found⟩
  | null | bool | int | float | str | arr => cases read

theorem readFile_places {value : Json} (fits : value.Fits) {f : FileReport}
    (read : readFile value = .ok f) : ∀ v ∈ f.violations, v.line.IsPlace ∧ v.column.IsPlace := by
  cases fits with
  | obj each =>
    rw [readFile] at read
    split at read
    next path placed =>
      split at read
      next =>
        cases read
        simp
      next items listed =>
        cases done : items.mapM (readViolation path) with
        | error misshape =>
          rw [done] at read
          cases read
        | ok violations =>
          rw [done] at read
          cases read
          intro v member
          obtain ⟨item, inside, found⟩ := mem_of_mapM done member
          cases Json.Fits.field? each listed with
          | arr items => exact readViolation_places (items item inside) found
      next => cases read
    next => cases read
  | null | bool | int | float | str | arr => cases read

/-- A report that is read from a value with no integer beyond the limit can be written and read. -/
theorem regular_of_fits {value : Json} (fits : value.Fits) {r : Report}
    (read : ofJson value = .ok r) : r.Regular := by
  obtain ⟨fields, summary, rfl, summed, counts, files⟩ := ofJson_ok read
  cases fits with
  | obj each =>
    cases Json.Fits.field? each summed with
    | obj inSummary =>
      obtain ⟨fileCount, first, rest⟩ := Option.bind_eq_some_iff.mp counts
      obtain ⟨violationCount, second, same⟩ := Option.bind_eq_some_iff.mp rest
      obtain ⟨value₁, found₁, count₁⟩ := Option.bind_eq_some_iff.mp first
      obtain ⟨value₂, found₂, count₂⟩ := Option.bind_eq_some_iff.mp second
      cases same
      refine ⟨withinLimit_of_fits (.field? inSummary found₁) count₁,
        withinLimit_of_fits (.field? inSummary found₂) count₂, fun f member => ?_⟩
      rw [readFiles] at files
      split at files
      next =>
        rw [← Except.ok.inj files] at member
        cases member
      next items listed =>
        obtain ⟨item, inside, found⟩ := mem_of_mapM files member
        cases Json.Fits.field? each listed with
        | arr items => exact readFile_places (items item inside) found
      next => cases files

theorem parse_of_value {source : Text} {value : Json} (read : Json.parse source = .ok value) :
    parse source = (ofJson value).mapError .misshapen := by
  rw [parse, read]
  simp only
  cases ofJson value <;> rfl

/-- A text of JSON is a report exactly when its value has the shape of one, and is refused for its
shape otherwise. What has been read has positive places and no number that is too long, and its own
JSON text is read as the same report again. -/
theorem shaped_texts_are_reports {source : Text} {value : Json}
    (read : Json.parse source = .ok value) :
    ((∃ r, parse source = .ok r) ↔ ReportShape value) ∧
      (¬ ReportShape value → ∃ misshape, parse source = .error (.misshapen misshape)) ∧
      ∀ r, parse source = .ok r →
        r.Placed ∧ r.hasLongNumber = false ∧ parse r.jsonText = .ok r := by
  rw [parse_of_value read, ← ofJson_accepts_iff]
  cases shaped : ofJson value with
  | error misshape =>
    refine ⟨⟨?_, ?_⟩, fun _ => ⟨misshape, rfl⟩, ?_⟩
    · rintro ⟨r, accepted⟩
      cases accepted
    · rintro ⟨r, accepted⟩
      cases accepted
    · intro r accepted
      cases accepted
  | ok r =>
    refine ⟨⟨fun _ => ⟨r, rfl⟩, fun _ => ⟨r, rfl⟩⟩, fun unshaped => absurd ⟨r, rfl⟩ unshaped, ?_⟩
    intro r' accepted
    cases accepted
    have regular := regular_of_fits (Json.fits_of_parse read) shaped
    have again := parse_written r regular [] (by simp)
    rw [List.append_nil] at again
    exact ⟨((regular_iff r).mp regular).1, ((regular_iff r).mp regular).2, again⟩

/-- A report with a truth value for a count, no text in the violation, and places that are none. -/
def sparseText : Text :=
  ("\x7b\"summary\": \x7b\"file_count\": true, \"violation_count\": -1\x7d, \"files\": [" ++
    "\x7b\"file_path\": \"a\", \"violations\": [\x7b\"rule_id\": \"R1_CHECK_BLOCK\", " ++
    "\"line\": -3, \"column\": [], \"message\": null\x7d]\x7d]\x7d").toList

def sparseValue : Json :=
  .obj [("summary".toList,
      .obj [("file_count".toList, .bool true), ("violation_count".toList, .int (-1))]),
    ("files".toList, .arr [.obj [("file_path".toList, .str "a".toList),
      ("violations".toList, .arr [.obj [("rule_id".toList, .str "R1_CHECK_BLOCK".toList),
        ("line".toList, .int (-3)), ("column".toList, .arr []), ("message".toList, .null)]])]])]

def sparseReport : Report where
  fileCount := .flag true
  violationCount := .int (-1)
  files := [⟨"a".toList, [⟨.blockName, "None".toList, [], [], .int 1, .int 1⟩]⟩]

theorem sparseText_parsed : Json.parse sparseText = .ok sparseValue := by
  cbv

theorem shaped_texts_are_reports_sparse :
    Json.parse sparseText = .ok sparseValue ∧ ReportShape sparseValue ∧
      parse sparseText = .ok sparseReport ∧ sparseReport.Placed ∧
      sparseReport.hasLongNumber = false ∧ parse sparseReport.jsonText = .ok sparseReport := by
  have accepted : parse sparseText = .ok sparseReport := by
    rw [parse_of_value sparseText_parsed]
    rfl
  obtain ⟨shaped, -, again⟩ := shaped_texts_are_reports sparseText_parsed
  exact ⟨sparseText_parsed, shaped.mp ⟨_, accepted⟩, accepted, again _ accepted⟩

end BemLint.Report
