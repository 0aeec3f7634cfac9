import BemLint.Proofs.Report.Shape
import BemLint.Proofs.Report.SourceLine
import BemLint.Proofs.Report.WorkflowCommand
import BemLint.Proofs.Terminal.Emoji
import BemLint.Proofs.Terminal.Layout
import BemLint.Proofs.Workspace.NullCharacters
import BemLint.Report.Page

/-!
# Names on a page

A page shows each violation with its name and, if there is one, a better name. Both are looked
through for emoji codes on the way, so they appear as they are exactly when no two of their colons
enclose the name of a picture.
-/
namespace BemLint.Report
open Terminal

/-! ## Lines about names -/

def placeLabel (line column : Tally) : Text :=
  "      at ".toList ++ line.text ++ [':'] ++ column.text ++ "  original: ".toList

def adviceLabel : Text := "      suggestion: ".toList

/-- The lines about the names of a violation, where names are shown in some way. -/
def nameLines (shown : Text → Text) (v : Violation) : List Text :=
  (placeLabel v.line v.column ++ shown v.original) ::
    if v.suggestion.isEmpty then [] else [adviceLabel ++ shown v.suggestion]

/-- The names of a violation hold neither white space nor control characters. -/
def MarkedNames (v : Violation) : Prop :=
  (∀ c ∈ v.original, IsMark c) ∧ ∀ c ∈ v.suggestion, IsMark c

/-- A text that goes before a name: printable characters of ASCII, with no emoji code that begins
in it. -/
structure IsLabel (label : Text) : Prop where
  printable : label.all isPrintable = true
  apart : ∀ (pictures : Pictures) (name : Text),
    replaceEmoji pictures (label ++ name) = label ++ replaceEmoji pictures name

theorem tally_text_printable (n : Tally) :
    (n.text.all fun c => isPrintable c && !Text.isBlank c) = true := by
  cases n with
  | flag b => cases b <;> decide
  | int n =>
    refine List.all_eq_true.mpr fun c member => ?_
    rcases ofInt_chars n c member with digit | rfl
    · simp only [Text.isAsciiDigit, Bool.and_eq_true, decide_eq_true_eq] at digit
      have range : 48 ≤ c.toNat ∧ c.toNat ≤ 57 := digit
      simp only [isPrintable, Text.isBlank, Bool.and_eq_true, Bool.not_eq_true',
        Bool.or_eq_false_iff, Bool.and_eq_false_iff, beq_eq_false_iff_ne, decide_eq_true_eq,
        decide_eq_false_iff_not]
      omega
    · decide

theorem isLabel_advice : IsLabel adviceLabel where
  printable := by decide
  apart pictures name := by
    have ends : adviceLabel = "      suggestion".toList ++ [':', ' '] := by decide
    exact replaceEmoji_label pictures ends (by decide) name

theorem isLabel_place (line column : Tally) : IsLabel (placeLabel line column) where
  printable := by
    have number (n : Tally) : n.text.all isPrintable = true := by
      have both := tally_text_printable n
      simp only [List.all_eq_true, Bool.and_eq_true] at both ⊢
      exact fun c member => (both c member).1
    have words : "      at ".toList.all isPrintable = true ∧ [':'].all isPrintable = true ∧
        "  original: ".toList.all isPrintable = true := by decide
    unfold placeLabel
    simp only [List.all_append, number, words, Bool.and_self]
  apart pictures name := by
    have noColon : ':' ∉ "      at ".toList ++ line.text := by
      have label : ':' ∉ "      at ".toList := by decide
      rw [List.mem_append]
      exact not_or_intro label (tally_text_notMem line ':' (by simp))
    have solid : Text.Solid column.text := by
      have both := tally_text_printable column
      simp only [List.all_eq_true, Bool.and_eq_true, Bool.not_eq_true'] at both
      exact fun c member => (both c member).2
    have ends : "  original: ".toList = "  original".toList ++ [':', ' '] := by decide
    have original := replaceEmoji_label pictures ends (by decide) name
    have blank : ∀ c ∈ ("  original: ".toList ++ name).head?, Text.isBlank c = true := by
      have first : "  original: ".toList = ' ' :: " original: ".toList := by decide
      rw [first]
      rintro c ⟨⟩
      rfl
    have number := replaceEmoji_colon pictures solid (tally_text_notMem column ':' (by simp)) blank
    unfold placeLabel
    simp only [List.append_assoc]
    rw [← List.append_assoc, replaceEmoji_front pictures noColon, List.singleton_append, number,
      original]
    simp only [List.append_assoc, List.singleton_append]

theorem IsLabel.visible {label name : Text} (isLabel : IsLabel label)
    (marks : ∀ c ∈ name, IsMark c) : ∀ c ∈ label ++ name, 32 ≤ c.toNat := by
  intro c member
  rcases List.mem_append.mp member with inside | inside
  · have printable := List.all_eq_true.mp isLabel.printable c inside
    simp only [isPrintable, Bool.and_eq_true, decide_eq_true_eq] at printable
    exact printable.1
  · exact Nat.le_of_lt (marks c inside).2

/-- A line with a name that fits stands on the page as it is, but for the emoji codes of the
name. -/
theorem pictured_label {pictures : Pictures} {width : Nat} {label name : Text}
    (isLabel : IsLabel label) (marks : ∀ c ∈ name, IsMark c)
    (fits : cells (label ++ replaceEmoji pictures name) ≤ width) :
    pictured pictures width (label ++ name) = label ++ replaceEmoji pictures name ++ ['\n'] := by
  have shown := replaceEmoji_marks pictures marks
  rw [pictured, isLabel.apart pictures name]
  refine paragraph_fits (isLine_of_visible (isLabel.visible shown)) fits ?_
  -- Without a name the line ends in a blank, but then it takes as many cells as it has characters.
  rcases List.eq_nil_or_concat (replaceEmoji pictures name) with none | ⟨front, last, whole⟩
  · rw [none, List.append_nil] at fits ⊢
    exact .inl (cells_printable isLabel.printable ▸ fits)
  · have solid : Text.isBlank last = false := (shown last (by simp [whole])).1
    rw [whole, List.concat_eq_append, ← List.append_assoc]
    exact .inr (Text.trimEnd_concat _ solid)

/-! ## Printed lines -/

/-- A text consists of lines with their ends, and the given ones are among them in this order. -/
def Prints (lines : List Text) (s : Text) : Prop :=
  ∃ all : List Text, s = all.flatMap (· ++ ['\n']) ∧ lines.Sublist all

theorem Prints.append {lines more : List Text} {s t : Text} (first : Prints lines s)
    (second : Prints more t) : Prints (lines ++ more) (s ++ t) := by
  obtain ⟨all, rfl, inside⟩ := first
  obtain ⟨all', rfl, inside'⟩ := second
  exact ⟨all ++ all', (List.flatMap_append ..).symm, inside.append inside'⟩

/-- What is printed besides does not matter. -/
theorem Prints.append_right {lines : List Text} {s t : Text} (first : Prints lines s)
    (second : Prints [] t) : Prints lines (s ++ t) :=
  List.append_nil lines ▸ first.append second

theorem prints_nil : Prints [] [] := ⟨[], rfl, .slnil⟩

theorem prints_line (line : Text) : Prints [line] (line ++ ['\n']) :=
  ⟨[line], (List.append_nil _).symm, .refl _⟩

theorem prints_paragraph (width : Nat) (s : Text) : Prints [] (paragraph width s) :=
  ⟨_, rfl, List.nil_sublist _⟩

theorem Prints.flatMap {α : Type} {lines : α → List Text} {shown : α → Text} {items : List α}
    (each : ∀ a ∈ items, Prints (lines a) (shown a)) :
    Prints (items.flatMap lines) (items.flatMap shown) := by
  induction items with
  | nil => exact prints_nil
  | cons a items ih =>
    obtain ⟨here, behind⟩ := List.forall_mem_cons.mp each
    exact here.append (ih behind)

/-- Lines without line feeds are found again where the text is cut at its line feeds. -/
theorem Prints.feedLines {lines : List Text} {s : Text} (prints : Prints lines s)
    (whole : ∀ line ∈ lines, '\n' ∉ line) : lines.Sublist (Text.feedLines s) := by
  obtain ⟨all, rfl, inside⟩ := prints
  have cut (line : Text) (all : List Text) :
      Text.feedLines ((line :: all).flatMap (· ++ ['\n'])) =
        Text.feedLines line ++ Text.feedLines (all.flatMap (· ++ ['\n'])) := by
    rw [List.flatMap_cons, List.append_assoc]
    exact Text.splitAt_sep '\n' line _
  induction inside with
  | slnil => exact List.nil_sublist _
  | @cons lines all line inside ih =>
    rw [cut]
    exact (ih whole).trans (List.sublist_append_right ..)
  | @cons_cons lines all line inside ih =>
    obtain ⟨here, behind⟩ := List.forall_mem_cons.mp whole
    have single : Text.feedLines line = [line] := Text.splitAt_absent '\n' line here
    rw [cut, single]
    exact (ih behind).cons_cons line

/-! ## The page -/

section

variable {pictures : Pictures} {width : Nat}

/-- The lines about the names of a violation, with pictures, fit on a page. -/
def Fits (pictures : Pictures) (width : Nat) (v : Violation) : Prop :=
  ∀ line ∈ nameLines (replaceEmoji pictures) v, cells line ≤ width

theorem violationPage_prints (source : List Text) {v : Violation} (marked : MarkedNames v)
    (fits : Fits pictures width v) :
    Prints (nameLines (replaceEmoji pictures) v) (violationPage pictures width source v) := by
  have header := prints_paragraph width ("  - [".toList ++ v.rule.id ++ "] ".toList ++ v.message)
  have place := pictured_label (isLabel_place v.line v.column) marked.1 (fits _ (.head _))
  have advice : Prints (if v.suggestion.isEmpty then [] else
      [adviceLabel ++ replaceEmoji pictures v.suggestion])
      (if v.suggestion.isEmpty then []
        else pictured pictures width (adviceLabel ++ v.suggestion)) := by
    split
    next => exact prints_nil
    next filled =>
      rw [pictured_label isLabel_advice marked.2 (fits _ (by simp [nameLines, filled]))]
      exact prints_line _
  have named := header.append (place ▸ prints_line _)
  -- The source line between the two is there or not.
  have around {quoted : Text} (prints : Prints [] quoted) :=
    (named.append_right prints).append advice
  unfold violationPage
  cases sourceLine? source v.line with
  | none => exact around prints_nil
  | some line => exact around (prints_paragraph width _)

variable {ε : Type} {sourceOf : Text → Except ε (List Text)}

/-- What stands above the violations of a file. -/
def fileHeader (width : Nat) (path : Text) : Text :=
  paragraph width [] ++ paragraph width ("File: ".toList ++ path)

theorem fileHeader_prints (width : Nat) (path : Text) : Prints [] (fileHeader width path) :=
  (prints_paragraph width []).append (prints_paragraph width _)

/-- A file without violations is shown without a look at its source. -/
theorem filePage_clean (path : Text) : filePage pictures width sourceOf ⟨path, []⟩ =
    .ok (fileHeader width path ++ paragraph width "  ✔ No BEM violations found".toList) := rfl

theorem filePage_violations {f : FileReport} (some : f.violations ≠ []) :
    filePage pictures width sourceOf f = (sourceOf f.path).map fun source =>
      fileHeader width f.path ++ f.violations.flatMap (violationPage pictures width source) := by
  have filled : f.violations.isEmpty = false := List.isEmpty_eq_false_iff.mpr some
  simp only [filePage, filled]
  cases sourceOf f.path <;> rfl

theorem filePage_accepts_iff (f : FileReport) :
    (∃ text, filePage pictures width sourceOf f = .ok text) ↔
      (f.violations ≠ [] → ∃ source, sourceOf f.path = .ok source) := by
  obtain ⟨path, _ | ⟨v, violations⟩⟩ := f
  · exact iff_of_true ⟨_, filePage_clean path⟩ (absurd rfl)
  · rw [filePage_violations (List.cons_ne_nil v violations)]
    cases sourceOf path <;> simp [Except.map]

theorem filePage_prints {f : FileReport} {text : Text}
    (shown : filePage pictures width sourceOf f = .ok text)
    (marked : ∀ v ∈ f.violations, MarkedNames v) (fits : ∀ v ∈ f.violations, Fits pictures width v) :
    Prints (f.violations.flatMap (nameLines (replaceEmoji pictures))) text := by
  have header := fileHeader_prints width f.path
  by_cases clean : f.violations = []
  · obtain ⟨path, violations⟩ := f
    subst clean
    cases shown
    exact header.append (prints_paragraph width _)
  · rw [filePage_violations clean] at shown
    cases read : sourceOf f.path with
    | error e =>
      rw [read] at shown
      cases shown
    | ok source =>
      rw [read] at shown
      cases shown
      exact header.append (.flatMap fun v found =>
        violationPage_prints source (marked v found) (fits v found))

theorem page_eq (r : Report) : r.page width true sourceOf pictures =
    (r.files.mapM (filePage pictures width sourceOf)).map fun files =>
      files.flatten ++ summaryPage width r := by
  simp only [page, if_true]
  cases r.files.mapM (filePage pictures width sourceOf) <;> rfl

theorem page_accepts_iff (r : Report) :
    (∃ text, r.page width true sourceOf pictures = .ok text) ↔
      ∀ f ∈ r.files, f.violations ≠ [] → ∃ source, sourceOf f.path = .ok source := by
  have shown : (∃ text, r.page width true sourceOf pictures = .ok text) ↔
      ∃ texts, r.files.mapM (filePage pictures width sourceOf) = .ok texts := by
    rw [page_eq]
    cases r.files.mapM (filePage pictures width sourceOf) <;> simp [Except.map]
  rw [shown, mapM_accepts_iff]
  exact forall₂_congr fun f _ => filePage_accepts_iff f

theorem filePages_print {files : List FileReport} {texts : List Text}
    (shown : List.Forall₂ (fun f text => filePage pictures width sourceOf f = .ok text) files texts)
    (marked : ∀ f ∈ files, ∀ v ∈ f.violations, MarkedNames v)
    (fits : ∀ f ∈ files, ∀ v ∈ f.violations, Fits pictures width v) :
    Prints ((files.flatMap (·.violations)).flatMap (nameLines (replaceEmoji pictures)))
      texts.flatten := by
  induction shown with
  | nil => exact prints_nil
  | @cons f text files texts here behind ih =>
    obtain ⟨marked, marked'⟩ := List.forall_mem_cons.mp marked
    obtain ⟨fits, fits'⟩ := List.forall_mem_cons.mp fits
    rw [List.flatMap_cons, List.flatMap_append, List.flatten_cons]
    exact (filePage_prints here marked fits).append (ih marked' fits')

theorem page_prints {r : Report} {text : Text}
    (shown : r.page width true sourceOf pictures = .ok text)
    (marked : ∀ f ∈ r.files, ∀ v ∈ f.violations, MarkedNames v)
    (fits : ∀ f ∈ r.files, ∀ v ∈ f.violations, Fits pictures width v) :
    Prints ((r.files.flatMap (·.violations)).flatMap (nameLines (replaceEmoji pictures))) text := by
  rw [page_eq] at shown
  cases files : r.files.mapM (filePage pictures width sourceOf) with
  | error e =>
    rw [files] at shown
    cases shown
  | ok texts =>
    rw [files] at shown
    cases shown
    have summary : Prints [] (summaryPage width r) :=
      (prints_paragraph width []).append (prints_paragraph width _)
    exact (filePages_print (mapM_ok_iff.mp files) marked fits).append_right summary

end

/-! ## Names as they are -/

/-- A page can look for the source of a file: it is a snippet without one, or the path of its place
holds no null character. -/
def CanLookUp (root : Option Path) (shown : Text) : Prop :=
  shown = Lint.snippetPath ∨ ∀ place, placeOf? root shown = some place → Char.ofNat 0 ∉ place.text

theorem readSource_null_iff (w : Workspace) (p : Path) :
    (∃ e, Audit.readSource w p = .error e ∧ e.isOfSystem = false) ↔ Char.ofNat 0 ∈ p.text := by
  rw [← w.readBytes_null_iff p, Audit.readSource]
  cases w.readBytes p <;> simp [FileError.isOfSystem]

section

variable {w : Workspace} {root : Option Path} {shown : Text}

theorem sourceLines_noPlace (nowhere : placeOf? root shown = none) :
    Command.sourceLines w root shown = .ok [] := by
  rw [placeOf?] at nowhere
  unfold Command.sourceLines
  split
  · rfl
  · simp only [nowhere]

theorem sourceLines_error (ofFile : shown ≠ Lint.snippetPath) {place : Path}
    (found : placeOf? root shown = some place) {e : FileError}
    (failed : Audit.readSource w place = .error e) :
    Command.sourceLines w root shown = if e.isOfSystem then .ok [] else .error e := by
  rw [placeOf?] at found
  simp only [Command.sourceLines, if_neg ofFile, found, failed]

/-- Reading a source again fails only by a null character in the path of its place. -/
theorem sourceLines_accepts_iff :
    (∃ lines, Command.sourceLines w root shown = .ok lines) ↔ CanLookUp root shown := by
  by_cases snippet : shown = Lint.snippetPath
  · exact iff_of_true ⟨_, if_pos snippet⟩ (.inl snippet)
  rw [CanLookUp, or_iff_right snippet]
  cases found : placeOf? root shown with
  | none => exact iff_of_true ⟨_, sourceLines_noPlace found⟩ (by simp)
  | some place =>
    simp only [Option.some.injEq, forall_eq', ← readSource_null_iff w place]
    cases read : Audit.readSource w place with
    | ok source =>
      have leads : LeadsTo w root shown source := ⟨snippet, place, found, read⟩
      exact iff_of_true ⟨_, sourceLines_ok leads⟩ (by simp)
    | error e =>
      rw [sourceLines_error snippet found read]
      cases system : e.isOfSystem <;> simp [system]

end

theorem IsLabel.noFeed {label name : Text} (isLabel : IsLabel label)
    (marks : ∀ c ∈ name, IsMark c) : '\n' ∉ label ++ name :=
  (isLine_of_visible (isLabel.visible marks)).noFeed

theorem nameLines_noFeed {pictures : Pictures} {v : Violation} (marked : MarkedNames v) :
    ∀ line ∈ nameLines (replaceEmoji pictures) v, '\n' ∉ line := by
  have place := (isLabel_place v.line v.column).noFeed (replaceEmoji_marks pictures marked.1)
  have advice := isLabel_advice.noFeed (replaceEmoji_marks pictures marked.2)
  unfold nameLines
  rw [List.forall_mem_cons]
  refine ⟨place, ?_⟩
  split
  · exact nofun
  · exact List.forall_mem_singleton.mpr advice

/-- The lines about the names of a violation show them as they are. -/
theorem nameLines_eq_iff {pictures : Pictures} {v : Violation} (marked : MarkedNames v) :
    nameLines (replaceEmoji pictures) v = nameLines id v ↔
      NamesNone pictures v.original ∧ NamesNone pictures v.suggestion := by
  rw [← replaceEmoji_eq_self_iff pictures fun c member => (marked.1 c member).1,
    ← replaceEmoji_eq_self_iff pictures fun c member => (marked.2 c member).1]
  cases advice : v.suggestion with
  | nil => simp [nameLines, advice, replaceEmoji, replaceEmojiFrom]
  | cons c rest => simp [nameLines, advice]

/-- A page is made exactly when the source of each file with violations can be looked for. It then
shows the names of all violations in order, each in its line, with pictures for the emoji codes; the
lines of a violation show its names as they are exactly when those enclose no name of a picture. The
numbers are within `Decimal.digitLimit` and the paths can be encoded, as linting gives them; a page
with others is not considered. -/
theorem names_shown_with_pictures {w : Workspace} {root : Option Path} {pictures : Pictures}
    {width : Nat} {r : Report} (marked : ∀ f ∈ r.files, ∀ v ∈ f.violations, MarkedNames v)
    (fits : ∀ f ∈ r.files, ∀ v ∈ f.violations, Fits pictures width v) :
    ((∃ text, r.page width true (Command.sourceLines w root) pictures = .ok text) ↔
      ∀ f ∈ r.files, f.violations ≠ [] → CanLookUp root f.path) ∧
    (∀ text, r.page width true (Command.sourceLines w root) pictures = .ok text →
      ((r.files.flatMap (·.violations)).flatMap (nameLines (replaceEmoji pictures))).Sublist
        (Text.feedLines text)) ∧
    ∀ f ∈ r.files, ∀ v ∈ f.violations,
      nameLines (replaceEmoji pictures) v = nameLines id v ↔
        NamesNone pictures v.original ∧ NamesNone pictures v.suggestion := by
  refine ⟨?_, fun text shown => ?_, fun f file v found => nameLines_eq_iff (marked f file v found)⟩
  · simp only [page_accepts_iff, sourceLines_accepts_iff]
  · refine (page_prints shown marked fits).feedLines fun line member => ?_
    simp only [List.mem_flatMap] at member
    obtain ⟨v, ⟨f, file, found⟩, member⟩ := member
    exact nameLines_noFeed (marked f file v found) line member

def prefixedSource : Text := "<p class=\"md:Card\">".toList

def prefixedBreach : Violation :=
  ⟨.blockName, "Block name should be kebab-case (e.g. `profile-card`).".toList, "md:Card".toList,
    "md:card".toList, .int 1, .int 11⟩

def prefixedReport : Report := .ofFiles [⟨"a.html".toList, [prefixedBreach]⟩]

theorem names_shown_with_pictures_prefixed :
    Lint.analyze .ascii prefixedSource "a.html".toList [] = .ok prefixedReport ∧
      (∀ f ∈ prefixedReport.files, ∀ v ∈ f.violations, MarkedNames v) ∧
      (∀ f ∈ prefixedReport.files, ∀ v ∈ f.violations, Fits .known 200 v) ∧
      ∃ text, prefixedReport.page 200 true (Command.sourceLines (oneFile prefixedSource)
          (some (oneFile prefixedSource).homePath)) .known = .ok text ∧
        (nameLines id prefixedBreach).Sublist (Text.feedLines text) := by
  have linted : Lint.analyze .ascii prefixedSource "a.html".toList [] = .ok prefixedReport := by
    decide +kernel
  have single {motive : Violation → Prop} (holds : motive prefixedBreach) :
      ∀ f ∈ prefixedReport.files, ∀ v ∈ f.violations, motive v :=
    List.forall_mem_singleton.mpr (List.forall_mem_singleton.mpr holds)
  have marked := single (motive := MarkedNames)
    ⟨isMark_of_all (s := "md:Card".toList) (by decide),
      isMark_of_all (s := "md:card".toList) (by decide)⟩
  have narrow : ((nameLines (replaceEmoji .known) prefixedBreach).all fun line =>
      cells line ≤ 200) = true := by decide +kernel
  have fits := single (motive := Fits .known 200) fun line member =>
    of_decide_eq_true (List.all_eq_true.mp narrow line member)
  obtain ⟨made, shown, asTheyAre⟩ := @names_shown_with_pictures (oneFile prefixedSource)
    (some (oneFile prefixedSource).homePath) _ _ _ marked fits
  have lookedUp : ∀ f ∈ prefixedReport.files, f.violations ≠ [] →
      CanLookUp (some (oneFile prefixedSource).homePath) f.path := by
    refine List.forall_mem_singleton.mpr fun _ => .inr fun place found => ?_
    cases found
    decide
  obtain ⟨text, page⟩ := made.mpr lookedUp
  have names := (asTheyAre _ (.head _) prefixedBreach (.head _)).mpr
    ⟨namesNone_single .known ['m', 'd'] "Card".toList (by decide) (by decide),
      namesNone_single .known ['m', 'd'] "card".toList (by decide) (by decide)⟩
  have one : prefixedReport.files.flatMap (·.violations) = [prefixedBreach] := rfl
  have lines := shown text page
  rw [one, List.flatMap_singleton, names] at lines
  exact ⟨linted, marked, fits, text, page, lines⟩

/-- A text with a name in which two colons enclose the name of a picture. -/
def picturedSource : Text := "<p class=\"nav:fire:Bar\">".toList

def picturedReport : Report :=
  .ofFiles [⟨"a.html".toList, [⟨.blockName,
    "Block name should be kebab-case (e.g. `profile-card`).".toList, "nav:fire:Bar".toList,
    "nav:fire:bar".toList, .int 1, .int 11⟩]⟩]

def picturedLines : List Text :=
  [[], "File: a.html".toList,
    "  - [R1_CHECK_BLOCK] Block name should be kebab-case (e.g. `profile-card`).".toList,
    "      at 1:11  original: nav".toList ++ Char.ofNat 0x1F525 :: "Bar".toList,
    "         1 │ <p class=\"nav".toList ++ Char.ofNat 0x1F525 :: "Bar\">".toList,
    "      suggestion: nav".toList ++ Char.ofNat 0x1F525 :: "bar".toList, [],
    "Summary: 1 file(s), 1 violation(s)".toList, []]

/-- A picture takes the place of its name and the colons around it, so that neither the name nor the
better one is on the page. -/
theorem picture_shown_for_code :
    Lint.analyze .ascii picturedSource "a.html".toList [] = .ok picturedReport ∧
      (picturedReport.page 200 true (Command.sourceLines (oneFile picturedSource)
        (some (oneFile picturedSource).homePath))).map Text.feedLines = .ok picturedLines ∧
      placeLabel (.int 1) (.int 11) ++ "nav:fire:Bar".toList ∉ picturedLines ∧
      adviceLabel ++ "nav:fire:bar".toList ∉ picturedLines := by
  decide +kernel

end BemLint.Report
