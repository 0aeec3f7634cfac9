import BemLint.Proofs.Json.RoundTrip
import BemLint.Proofs.Report.Writing

/-!
# Reports, written and read

A report is read back from its JSON text as it was, and so it is from the text of its report file,
which has a line feed more. The reader fills in nothing here: every field is there, and every place
is a positive number.
-/
namespace BemLint

/-- A number that can be written and read in full. -/
def Tally.WithinLimit (n : Tally) : Prop := n.value.natAbs < 10 ^ Decimal.digitLimit

def Tally.IsPlace (n : Tally) : Prop := 1 ≤ n.value ∧ n.WithinLimit

namespace Report

/-- The reports whose numbers can be written, and whose places are positive. -/
structure Regular (r : Report) : Prop where
  fileCount : r.fileCount.WithinLimit
  violationCount : r.violationCount.WithinLimit
  places : ∀ f ∈ r.files, ∀ v ∈ f.violations, v.line.IsPlace ∧ v.column.IsPlace

def Placed (r : Report) : Prop :=
  ∀ f ∈ r.files, ∀ v ∈ f.violations, 1 ≤ v.line.value ∧ 1 ≤ v.column.value

/-- No number is too long to be written exactly when each is within the limit. -/
theorem hasLongNumber_eq_false_iff (r : Report) :
    r.hasLongNumber = false ↔ ∀ n ∈ r.numbers, n.WithinLimit := by
  rw [hasLongNumber, List.any_eq_false]
  refine forall₂_congr fun n _ => ?_
  rw [decide_eq_true_eq, Nat.not_lt]
  refine ⟨fun short => Nat.lt_of_not_le fun large => ?_, Text.length_ofNat_le _⟩
  exact Nat.not_lt.mpr short (Text.lt_length_ofNat _ large)

/-- A report with positive places can be written and read in full when no number is too long. -/
theorem regular_iff (r : Report) : r.Regular ↔ r.Placed ∧ r.hasLongNumber = false := by
  rw [hasLongNumber_eq_false_iff]
  simp only [numbers, List.mem_cons, List.mem_flatMap, List.not_mem_nil, or_false]
  constructor
  · intro regular
    refine ⟨fun f file v found => ?_, ?_⟩
    · exact ⟨(regular.places f file v found).1.1, (regular.places f file v found).2.1⟩
    · rintro n (rfl | rfl | ⟨f, file, v, found, rfl | rfl⟩)
      · exact regular.fileCount
      · exact regular.violationCount
      · exact (regular.places f file v found).1.2
      · exact (regular.places f file v found).2.2
  · rintro ⟨placed, short⟩
    refine ⟨short _ (.inl rfl), short _ (.inr (.inl rfl)), fun f file v found => ?_⟩
    have line := short v.line (.inr (.inr ⟨f, file, v, found, .inl rfl⟩))
    have column := short v.column (.inr (.inr ⟨f, file, v, found, .inr rfl⟩))
    exact ⟨⟨(placed f file v found).1, line⟩, (placed f file v found).2, column⟩

/-! ## Values -/

theorem tallyOfJson?_toJson (n : Tally) : Tally.ofJson? n.toJson = some n := by
  cases n <;> rfl

theorem placeOf_toJson (n : Tally) (positive : 1 ≤ n.value) : placeOf (some n.toJson) = n := by
  have positive : 0 < n.value := by omega
  simp [placeOf, tallyOfJson?_toJson, positive]

theorem ruleOf?_id (rule : Rule) : ruleOf? (.str rule.id) = some rule := by
  cases rule <;> decide

theorem readViolation_toJson (path : Text) (v : Violation) (line : 1 ≤ v.line.value)
    (column : 1 ≤ v.column.value) : readViolation path v.toJson = .ok v := by
  simp [readViolation, Violation.toJson, Json.field?, ruleOf?_id, textOf, Json.display,
    placeOf_toJson, line, column]

/-- Reading each of several written values gives what was written. -/
theorem mapM_written {ε α β : Type} (read : β → Except ε α) (write : α → β) (values : List α)
    (each : ∀ a ∈ values, read (write a) = .ok a) : (values.map write).mapM read = .ok values := by
  induction values with
  | nil => rfl
  | cons a values ih =>
    rw [List.map_cons, List.mapM_cons, each a (by simp),
      ih fun b member => each b (by simp [member])]
    rfl

theorem field?_first (name : Text) (value : Json) (fields : List (Text × Json)) :
    Json.field? name ((name, value) :: fields) = some value := if_pos rfl

theorem readFile_toJson (f : FileReport)
    (places : ∀ v ∈ f.violations, v.line.IsPlace ∧ v.column.IsPlace) :
    readFile f.toJson = .ok f := by
  have each := mapM_written (readViolation f.path) Violation.toJson f.violations fun v member =>
    readViolation_toJson f.path v (places v member).1.1 (places v member).2.1
  have violations : Json.field? "violations".toList [("file_path".toList, .str f.path),
      ("violations".toList, .arr (f.violations.map Violation.toJson))] =
        some (.arr (f.violations.map Violation.toJson)) := by
    simp [Json.field?]
  simp only [readFile, FileReport.toJson, field?_first, violations, each]
  rfl

theorem readCounts?_toJson (fileCount violationCount : Tally) :
    readCounts? [("file_count".toList, fileCount.toJson),
      ("violation_count".toList, violationCount.toJson)] = some (fileCount, violationCount) := by
  have second : Json.field? "violation_count".toList [("file_count".toList, fileCount.toJson),
      ("violation_count".toList, violationCount.toJson)] = some violationCount.toJson := by
    simp [Json.field?]
  simp only [readCounts?, field?_first, second, Option.bind_some, tallyOfJson?_toJson]
  rfl

theorem ofJson_toJson (r : Report) (regular : r.Regular) : ofJson r.toJson = .ok r := by
  have each := mapM_written readFile FileReport.toJson r.files fun f member =>
    readFile_toJson f (regular.places f member)
  have files : ∀ summary, readFiles [("summary".toList, summary),
      ("files".toList, .arr (r.files.map FileReport.toJson))] = .ok r.files := by
    simp [readFiles, Json.field?, each]
  rw [toJson, ofJson, field?_first]
  simp only [readCounts?_toJson, files]
  rfl

/-! ## Texts -/

theorem plain_tally (n : Tally) (small : n.WithinLimit) : Json.Plain n.toJson := by
  cases n with
  | int n => exact small
  | flag b => trivial

theorem height_tally (n : Tally) : Json.height n.toJson = 0 := by
  cases n <;> rfl

theorem plain_violation (v : Violation) (line : v.line.IsPlace) (column : v.column.IsPlace) :
    Json.Plain v.toJson := by
  simp [Violation.toJson, Json.Plain, Json.PlainFields, plain_tally, line.2, column.2]

theorem height_violation (v : Violation) : Json.height v.toJson = 1 := by
  simp [Violation.toJson, Json.height, Json.heightFields, height_tally]

theorem plain_file (f : FileReport)
    (places : ∀ v ∈ f.violations, v.line.IsPlace ∧ v.column.IsPlace) : Json.Plain f.toJson := by
  have each : Json.PlainItems (f.violations.map Violation.toJson) := by
    rw [Json.plainItems_iff]
    intro item member
    obtain ⟨v, mine, rfl⟩ := List.mem_map.mp member
    exact plain_violation v (places v mine).1 (places v mine).2
  simp [FileReport.toJson, Json.Plain, Json.PlainFields, each]

theorem height_file (f : FileReport) : Json.height f.toJson ≤ 3 := by
  have each : Json.heightItems (f.violations.map Violation.toJson) ≤ 1 := by
    refine Json.heightItems_le fun item member => ?_
    obtain ⟨v, -, rfl⟩ := List.mem_map.mp member
    exact Nat.le_of_eq (height_violation v)
  simp only [FileReport.toJson, Json.height, Json.heightFields]
  omega

theorem plain_report (r : Report) (regular : r.Regular) : Json.Plain r.toJson := by
  have each : Json.PlainItems (r.files.map FileReport.toJson) := by
    rw [Json.plainItems_iff]
    intro item member
    obtain ⟨f, mine, rfl⟩ := List.mem_map.mp member
    exact plain_file f (regular.places f mine)
  simp [toJson, Json.Plain, Json.PlainFields, plain_tally, regular.fileCount,
    regular.violationCount, each]

theorem height_report (r : Report) : Json.height r.toJson ≤ Json.nestingLimit := by
  have each : Json.heightItems (r.files.map FileReport.toJson) ≤ 3 := by
    refine Json.heightItems_le fun item member => ?_
    obtain ⟨f, -, rfl⟩ := List.mem_map.mp member
    exact height_file f
  simp only [toJson, Json.height, Json.heightFields, height_tally, Json.nestingLimit]
  omega

/-- Line feeds at its end do not change what a report text is read as. -/
theorem parse_written (r : Report) (regular : r.Regular) (tail : Text)
    (blank : ∀ c ∈ tail, c = '\n') : parse (r.jsonText ++ tail) = .ok r := by
  rw [parse, jsonText,
    Json.parse_pretty r.toJson tail (plain_report r regular) (height_report r) blank]
  simp only [ofJson_toJson r regular]

/-- The text of a report and the text of its file are read as the report. -/
theorem report_reads_back (r : Report) (regular : r.Regular) :
    parse r.jsonText = .ok r ∧ parse (r.jsonText ++ ['\n']) = .ok r ∧
      ∀ p w w', (r.writeTo p).run.run w = (.ok (), w') →
        ∃ between place before bytes,
          (Workspace.ensureDirectories p.parent).run.run w = (.ok (), between) ∧
            between.locate true p.text = .ok (place, before) ∧
            w'.node? place = some (.file bytes) ∧
            Text.Utf8.decode bytes = .ok (r.jsonText ++ ['\n']) := by
  have plain := parse_written r regular [] (by simp)
  rw [List.append_nil] at plain
  refine ⟨plain, parse_written r regular ['\n'] (by simp), ?_⟩
  intro p w w' written
  obtain ⟨between, place, before, made, found, node⟩ := writeTo_ok r p w w' written
  exact ⟨between, place, before, _, made, found, node, Text.Utf8.decode_encode _⟩

theorem withinLimit_digit (n : Tally) (digit : n.value.natAbs < 10) : n.WithinLimit :=
  Nat.lt_of_lt_of_le digit (Nat.le_self_pow (by decide) 10)

/-- A report with counts that are not its own, and texts that need every kind of escape. -/
def escapedReport : Report where
  fileCount := .int (-3)
  violationCount := .int 0
  files := [⟨"src\\a \"b\".html".toList,
    [⟨.blockName, "tab\tbell\x07feed\n".toList, "Card".toList, [Char.ofNat 0x2028, 'é'], .int 7,
      .int 2⟩]⟩]

theorem report_reads_back_escaped :
    escapedReport.Regular ∧ parse escapedReport.jsonText = .ok escapedReport ∧
      parse (escapedReport.jsonText ++ ['\n']) = .ok escapedReport ∧
        ∃ place bytes w', (escapedReport.writeTo ⟨.none, ["out".toList, "r.json".toList]⟩).run.run
            (Workspace.empty ["home".toList]) = (.ok (), w') ∧
          w'.node? place = some (.file bytes) ∧
          Text.Utf8.decode bytes = .ok (escapedReport.jsonText ++ ['\n']) := by
  have regular : escapedReport.Regular := by
    refine ⟨withinLimit_digit _ (by decide), withinLimit_digit _ (by decide), ?_⟩
    intro f file v violation
    rw [escapedReport, List.mem_singleton] at file
    subst file
    rw [List.mem_singleton] at violation
    subst violation
    exact ⟨⟨by decide, withinLimit_digit _ (by decide)⟩, by decide, withinLimit_digit _ (by decide)⟩
  obtain ⟨read, readFile, write⟩ := report_reads_back escapedReport regular
  refine ⟨regular, read, readFile, ?_⟩
  obtain ⟨-, place, -, bytes, -, -, node, text⟩ :=
    write ⟨.none, ["out".toList, "r.json".toList]⟩ (Workspace.empty ["home".toList]) _ rfl
  exact ⟨place, bytes, _, rfl, node, text⟩

end Report
end BemLint
