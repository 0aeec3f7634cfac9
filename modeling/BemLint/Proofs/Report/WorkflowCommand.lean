import BemLint.Proofs.Json.Numbers
import BemLint.Proofs.Text.Pair
import BemLint.Proofs.Text.Pieces
import BemLint.Report.WorkflowCommand

/-!
# Workflow commands, decoded

`decode` reads a line as a build service does: properties with commas between them up to the next
two colons, then the message, with the escapes undone. A message survives whatever it holds. A path
is written without escapes, so a command gives it back only when nothing in it looks like a
separator, an end of a line or an escape; that is the exact condition.
-/
namespace BemLint.Report
open Text (NoPair HasPair FirstPair)

/-- A warning beside a line of a file. -/
structure Warning where
  path : Text
  line : Tally
  column : Tally
  message : Text
deriving DecidableEq, Repr

def warningFor (path : Text) (v : Violation) : Warning where
  path := path
  line := v.line
  column := v.column
  message := v.rule.id ++ " ".toList ++ v.message ++ " (".toList ++ v.original ++
    " -> ".toList ++ v.suggestion ++ ")".toList

def unescape : Text → Text
  | '%' :: '2' :: '5' :: rest => '%' :: unescape rest
  | '%' :: '0' :: 'D' :: rest => '\r' :: unescape rest
  | '%' :: '0' :: 'A' :: rest => '\n' :: unescape rest
  | c :: rest => c :: unescape rest
  | [] => []

def codes : List Text := ["%25".toList, "%0D".toList, "%0A".toList]

/-- The integer that a text is the numeral of. -/
def integerOf? (s : Text) : Option Int :=
  let digits := if s.head? = some '-' then s.drop 1 else s
  if !digits.isEmpty && digits.all Text.isAsciiDigit then
    some (if s.head? = some '-' then -Text.decimalValue digits else Text.decimalValue digits)
  else none

/-- The number that a text shows. -/
def tallyOf? (s : Text) : Option Tally :=
  if s = "True".toList then some (.flag true)
  else if s = "False".toList then some (.flag false)
  else (integerOf? s).map .int

/-- What is before and behind the first place where a character stands twice. -/
def cutAtPair? (d : Char) : Text → Option (Text × Text)
  | a :: b :: rest =>
    if a = d ∧ b = d then some ([], rest)
    else (cutAtPair? d (b :: rest)).map fun (left, right) => (a :: left, right)
  | _ => none

/-- The warning that a line commands: the properties of the place, in their order, and a message. -/
def decode (command : Text) : Option Warning := do
  let body ← Text.after? command "::warning ".toList
  let (properties, message) ← cutAtPair? ':' body
  match Text.splitAt ',' properties with
  | [file, line, column] =>
    let path ← Text.after? file "file=".toList
    let line ← (Text.after? line "line=".toList).bind tallyOf?
    let column ← (Text.after? column "col=".toList).bind tallyOf?
    return ⟨unescape path, line, column, unescape message⟩
  | _ => none

/-! ## Messages -/

theorem unescape_cons (c : Char) (rest : Text) (plain : c ≠ '%') :
    unescape (c :: rest) = c :: unescape rest := by
  rw [unescape.eq_4] <;> simp [plain]

theorem unescape_escapeMessage (s : Text) : unescape (escapeMessage s) = s := by
  induction s with
  | nil => rfl
  | cons c s ih =>
    unfold escapeMessage at *
    rw [List.flatMap_cons]
    by_cases percent : c = '%'
    · simp [escapeChar, percent, unescape, ih]
    by_cases return_ : c = '\r'
    · simp [escapeChar, return_, unescape, ih]
    by_cases feed : c = '\n'
    · simp [escapeChar, feed, unescape, ih]
    have plain : escapeChar c = [c] := by simp [escapeChar, percent, return_, feed]
    rw [plain, List.singleton_append, unescape_cons c _ percent, ih]

/-- No end of a line is left in an escaped message. -/
theorem escapeMessage_oneLine (s : Text) :
    '\n' ∉ escapeMessage s ∧ '\r' ∉ escapeMessage s := by
  have each : ∀ c, '\n' ∉ escapeChar c ∧ '\r' ∉ escapeChar c := by
    intro c
    unfold escapeChar
    split
    · decide
    split
    · decide
    split
    · decide
    next noReturn noFeed => simp [Ne.symm noReturn, Ne.symm noFeed]
  constructor
  all_goals
    intro member
    obtain ⟨c, -, inside⟩ := List.mem_flatMap.mp member
  · exact (each c).1 inside
  · exact (each c).2 inside

theorem length_unescape_le (s : Text) : (unescape s).length ≤ s.length := by
  fun_induction unescape s <;> simp only [List.length_cons, List.length_nil] <;> omega

/-! ## Numbers -/

theorem text_int (n : Int) : (Tally.int n).text = Text.ofInt n := rfl

theorem integerOf?_ofInt (n : Int) : integerOf? (Text.ofInt n) = some n := by
  obtain ⟨c, digits, e⟩ := List.exists_cons_of_ne_nil (Text.ofNat_ne_nil n.natAbs)
  have isDigits : (Text.ofNat n.natAbs).all Text.isAsciiDigit = true :=
    List.all_eq_true.mpr (Text.ofNat_digits n.natAbs)
  have notSign : c ≠ '-' := by
    rintro rfl
    simp [e, Text.isAsciiDigit] at isDigits
  have value := Text.decimalValue_ofNat n.natAbs
  rw [e] at isDigits value
  by_cases negative : n < 0
  · have written : Text.ofInt n = '-' :: c :: digits := by simp [Json.ofInt_eq, negative, e]
    simp only [integerOf?, written, List.head?_cons, if_true, List.drop_succ_cons, List.drop_zero,
      isDigits, List.isEmpty_cons, Bool.not_false, Bool.and_self, value]
    congr 1
    omega
  · have written : Text.ofInt n = c :: digits := by simp [Json.ofInt_eq, negative, e]
    simp only [integerOf?, written, List.head?_cons, Option.some.injEq, notSign, if_false,
      isDigits, List.isEmpty_cons, Bool.not_false, Bool.and_self, if_true, value]
    omega

/-- A numeral begins with a digit or a sign, as no word does. -/
theorem tallyOf?_text (n : Tally) : tallyOf? n.text = some n := by
  cases n with
  | flag b => cases b <;> decide
  | int n =>
    have noWord : ∀ word : Text, integerOf? word = none → Text.ofInt n ≠ word := by
      rintro word none rfl
      simp [integerOf?_ofInt] at none
    have notTrue := noWord "True".toList (by decide)
    have notFalse := noWord "False".toList (by decide)
    simp only [text_int, tallyOf?, if_neg notTrue, if_neg notFalse, integerOf?_ofInt,
      Option.map_some]

theorem ofInt_chars (n : Int) : ∀ c ∈ Text.ofInt n, Text.isAsciiDigit c = true ∨ c = '-' := by
  intro c member
  rw [Json.ofInt_eq] at member
  rcases List.mem_append.mp member with sign | digit
  · split at sign <;> simp_all
  · exact .inl (Text.ofNat_digits _ c digit)

/-- A number holds no character that ends a property, a line or all properties. -/
theorem tally_text_notMem (n : Tally) : ∀ c ∈ [',', ':', '\n', '\r'], c ∉ n.text := by
  intro c separator member
  simp only [List.mem_cons, List.not_mem_nil, or_false] at separator
  cases n with
  | flag b =>
    cases b <;> rcases separator with rfl | rfl | rfl | rfl <;> exact absurd member (by decide)
  | int n =>
    have shape := ofInt_chars n c member
    rcases separator with rfl | rfl | rfl | rfl <;> exact absurd shape (by decide)

/-! ## Commands -/

theorem cutAtPair?_firstPair {d : Char} {s left right : Text} (first : FirstPair d s left right) :
    cutAtPair? d s = some (left, right) := by
  obtain ⟨rfl, noPair, last⟩ := first
  induction left with
  | nil => simp [cutAtPair?]
  | cons a left ih =>
    cases left with
    | nil =>
      have differ : a ≠ d := by simpa using last
      simp [cutAtPair?, differ]
    | cons b left =>
      have chain := List.isChain_cons_cons.mp noPair
      have next := ih chain.2 (by simpa using last)
      rw [List.cons_append] at next
      rw [List.cons_append, List.cons_append, cutAtPair?, if_neg chain.1, next]
      rfl

theorem cutAtPair?_noPair {d : Char} {s : Text} (noPair : NoPair d s) : cutAtPair? d s = none := by
  fun_induction cutAtPair? d s with
  | case1 a b rest pair => exact absurd pair (List.isChain_cons_cons.mp noPair).1
  | case2 a b rest single ih =>
    rw [ih (List.isChain_cons_cons.mp noPair).2]
    rfl
  | case3 => rfl

theorem cutAtPair?_iff (d : Char) (s left right : Text) :
    cutAtPair? d s = some (left, right) ↔ FirstPair d s left right := by
  refine ⟨fun cut => ?_, cutAtPair?_firstPair⟩
  rcases Text.noPair_or_firstPair d s with noPair | ⟨left', right', first⟩
  · simp [cutAtPair?_noPair noPair] at cut
  · rw [cutAtPair?_firstPair first] at cut
    cases cut
    exact first

def placeText (path line column : Text) : Text :=
  ("file=".toList ++ path) ++ ',' :: (("line=".toList ++ line) ++ ',' :: ("col=".toList ++ column))

theorem placeText_eq (path line column : Text) : placeText path line column =
    ("file=".toList ++ path) ++ ',' :: (("line=".toList ++ line) ++ ',' ::
      ("col=".toList ++ column)) := rfl

theorem command_eq (path : Text) (v : Violation) :
    command path v = "::warning ".toList ++ (placeText path v.line.text v.column.text ++
      ':' :: ':' :: escapeMessage (warningText v)) := by
  rw [placeText_eq]
  unfold command
  generalize escapeMessage (warningText v) = message
  generalize v.line.text = line
  generalize v.column.text = column
  simp

section Place

variable {path line column : Text}

theorem noPair_place (noPair : NoPair ':' path) (ofLine : ':' ∉ line) (ofColumn : ':' ∉ column) :
    NoPair ':' (placeText path line column) := by
  have front : NoPair ':' "file=".toList := Text.noPair_of_notMem ':' _ (by decide)
  have file : NoPair ':' ("file=".toList ++ path) :=
    Text.noPair_append ':' "file=".toList path front noPair (.inl (by decide))
  have behind : NoPair ':' (',' :: (("line=".toList ++ line) ++ ',' ::
      ("col=".toList ++ column))) := by
    apply Text.noPair_of_notMem
    simp [ofLine, ofColumn]
  exact Text.noPair_append ':' _ _ file behind (.inr (by simp))

theorem place_last (ofColumn : ':' ∉ column) :
    (placeText path line column).getLast? ≠ some ':' := by
  have whole : placeText path line column = ("file=".toList ++ path ++ ",line=".toList ++ line) ++
      (",col=".toList ++ column) := by
    simp [placeText_eq]
  rw [whole, List.getLast?_append_of_ne_nil _ (by simp)]
  intro last
  have member := List.mem_of_getLast? last
  simp [ofColumn] at member

theorem splitAt_place (ofPath : ',' ∉ path) (ofLine : ',' ∉ line) (ofColumn : ',' ∉ column) :
    Text.splitAt ',' (placeText path line column) =
      ["file=".toList ++ path, "line=".toList ++ line, "col=".toList ++ column] := by
  rw [placeText_eq, Text.splitAt_append _ _ _ (by simp [ofPath]),
    Text.splitAt_append _ _ _ (by simp [ofLine]), Text.splitAt_absent _ _ (by simp [ofColumn])]

end Place

theorem after?_append (s rest : Text) : Text.after? (s ++ rest) s = some rest :=
  (Text.after?_iff _ _ _).mpr rfl

theorem decode_plain (path : Text) (v : Violation) (noComma : ',' ∉ path)
    (noPair : NoPair ':' path) :
    decode (command path v) = some ⟨unescape path, v.line, v.column, warningText v⟩ := by
  have line := tally_text_notMem v.line
  have column := tally_text_notMem v.column
  have first : FirstPair ':' (placeText path v.line.text v.column.text ++ ':' :: ':' ::
      escapeMessage (warningText v)) (placeText path v.line.text v.column.text)
        (escapeMessage (warningText v)) :=
    ⟨rfl, noPair_place noPair (line ':' (by simp)) (column ':' (by simp)),
      place_last (column ':' (by simp))⟩
  have pieces := splitAt_place noComma (line ',' (by simp)) (column ',' (by simp))
  simp only [decode, command_eq, after?_append, cutAtPair?_firstPair first, pieces, tallyOf?_text,
    unescape_escapeMessage, Option.bind_eq_bind, Option.bind_some, Option.pure_def]

/-- What is decoded comes from properties before the first two colons, the path from the first of
them. -/
theorem decode_some {line : Text} {a : Warning} (decoded : decode line = some a) :
    ∃ path more message, line = "::warning ".toList ++ ("file=".toList ++ path ++ ',' :: more ++
      ':' :: ':' :: message) ∧ ',' ∉ path ∧ NoPair ':' ("file=".toList ++ path) ∧
        a.path = unescape path := by
  simp only [decode, Option.bind_eq_bind, Option.bind_eq_some_iff] at decoded
  obtain ⟨body, opening, ⟨properties, message⟩, cut, decoded⟩ := decoded
  rw [Text.after?_iff] at opening
  rw [cutAtPair?_iff] at cut
  split at decoded
  next file line column pieces =>
    simp only [Option.bind_eq_some_iff, Option.pure_def, Option.some.injEq] at decoded
    obtain ⟨path, front, _, _, _, _, rfl⟩ := decoded
    rw [Text.after?_iff] at front
    have noComma := Text.splitAt_notMem ',' properties file (by simp [pieces])
    have whole := Text.join_splitAt ',' properties
    simp only [pieces, Text.join, List.append_assoc, List.singleton_append] at whole
    have noPair := cut.noPair
    rw [← whole] at noPair
    refine ⟨path, line ++ ',' :: column, message, ?_, ?_, ?_, rfl⟩
    · rw [opening, cut.whole, ← whole, front]
    · rw [front] at noComma
      exact fun member => noComma (List.mem_append_right _ member)
    · rw [← front]
      exact (List.isChain_append.mp noPair).1
  next => simp at decoded

/-- A command gives its warning back just when its path holds no separator and no escape. -/
theorem decode_command_iff (path : Text) (v : Violation) :
    decode (command path v) = some (warningFor path v) ↔
      ',' ∉ path ∧ ¬ HasPair ':' path ∧ unescape path = path := by
  constructor
  · intro decoded
    obtain ⟨read, more, message, whole, noComma, noPair, same⟩ := decode_some decoded
    have same : path = unescape read := same
    -- After the opening the command goes on with its own path and also with the one that was read.
    obtain ⟨later, rest⟩ : ∃ later, path ++ ',' :: later =
        read ++ ',' :: (more ++ ':' :: ':' :: message) := by
      rw [command_eq, placeText_eq] at whole
      generalize v.line.text = line at whole
      generalize v.column.text = column at whole
      exact ⟨_, by simpa using whole⟩
    have long : path.length ≤ read.length := same ▸ length_unescape_le read
    obtain rfl : path = read := by
      rcases List.append_eq_append_iff.mp rest with ⟨gap, e, behind⟩ | ⟨gap, e, behind⟩
      · cases gap with
        | nil => simpa using e.symm
        | cons c gap =>
          have comma : ',' = c := (List.cons.inj behind).1
          exact absurd (by simp [e, ← comma]) noComma
      · have none : gap = [] := by
          have := congrArg List.length e
          rw [List.length_append] at this
          exact List.length_eq_zero_iff.mp (by omega)
        simpa [none] using e
    have own : NoPair ':' path := (List.isChain_append.mp noPair).2.1
    exact ⟨noComma, own.not_hasPair, same.symm⟩
  · rintro ⟨noComma, noPair, same⟩
    rw [decode_plain path v noComma ((Text.noPair_iff _ _).mpr noPair), same]
    rfl

/-! ## All commands of a report -/

/-- The violations of a report in order, each with the path of its file. -/
def placed (r : Report) : List (Text × Violation) :=
  r.files.flatMap fun f => f.violations.map fun v => (f.path, v)

/-- The text of the commands has one line for each violation, in order and without a carriage
return, and each line is decoded to the warning for its violation. -/
def GivesBack (r : Report) : Prop :=
  (Text.splitAt '\n' (commandText r)).map decode =
      (placed r).map (fun pv => some (warningFor pv.1 pv.2)) ∧
    ∀ line ∈ Text.splitAt '\n' (commandText r), '\r' ∉ line

/-- A path that a command can hold without escapes. -/
structure SafePath (path : Text) : Prop where
  oneLine : '\n' ∉ path ∧ '\r' ∉ path
  noComma : ',' ∉ path
  noColons : ¬ HasPair ':' path
  noEscape : ∀ code ∈ codes, ¬ code <:+: path

/-- An escape that is undone leaves fewer characters. -/
theorem unescaped_ne (a b c d : Char) (rest : Text) : d :: unescape rest ≠ a :: b :: c :: rest := by
  have shorter := length_unescape_le rest
  intro same
  have := congrArg List.length same
  simp only [List.length_cons] at this
  omega

theorem code_inside (code rest : Text) : code <:+: code ++ rest :=
  (List.prefix_append code rest).isInfix

theorem unescape_eq_self_iff (s : Text) : unescape s = s ↔ ∀ code ∈ codes, ¬ code <:+: s := by
  fun_induction unescape s with
  | case5 => decide
  | case4 c rest noPercent noReturn noFeed ih =>
    have front : ∀ code ∈ codes, ¬ code <+: c :: rest := by
      intro code member isPrefix
      obtain ⟨after, e⟩ := isPrefix
      simp only [codes, List.mem_cons, List.not_mem_nil, or_false] at member
      rcases member with rfl | rfl | rfl
      · exact noPercent after (List.cons.inj e).1.symm (List.cons.inj e).2.symm
      · exact noReturn after (List.cons.inj e).1.symm (List.cons.inj e).2.symm
      · exact noFeed after (List.cons.inj e).1.symm (List.cons.inj e).2.symm
    simp only [List.cons.injEq, true_and, ih, List.infix_cons_iff, not_or]
    exact ⟨fun none code member => ⟨front code member, none code member⟩,
      fun none code member => (none code member).2⟩
  | case1 rest =>
    refine iff_of_false (unescaped_ne _ _ _ _ rest) fun none => ?_
    exact none "%25".toList (by simp [codes]) (code_inside _ rest)
  | case2 rest =>
    refine iff_of_false (unescaped_ne _ _ _ _ rest) fun none => ?_
    exact none "%0D".toList (by simp [codes]) (code_inside _ rest)
  | case3 rest =>
    refine iff_of_false (unescaped_ne _ _ _ _ rest) fun none => ?_
    exact none "%0A".toList (by simp [codes]) (code_inside _ rest)

theorem command_feed (path : Text) (v : Violation) {c : Char} (lineEnd : c = '\n' ∨ c = '\r') :
    c ∈ command path v ↔ c ∈ path := by
  have message := escapeMessage_oneLine (warningText v)
  have line := tally_text_notMem v.line c (by rcases lineEnd with rfl | rfl <;> simp)
  have column := tally_text_notMem v.column c (by rcases lineEnd with rfl | rfl <;> simp)
  unfold command
  generalize escapeMessage (warningText v) = text at message ⊢
  rcases lineEnd with rfl | rfl <;> simp [message, line, column]

theorem commandText_eq (r : Report) :
    commandText r = Text.join ['\n'] ((placed r).map fun pv => command pv.1 pv.2) := by
  simp only [commandText, placed, List.map_flatMap, List.map_map]
  rfl

/-- When no command breaks into several lines, the lines are the commands. -/
theorem commandLines_eq (r : Report) (some : placed r ≠ [])
    (oneLine : ∀ pv ∈ placed r, '\n' ∉ command pv.1 pv.2) :
    Text.splitAt '\n' (commandText r) = (placed r).map fun pv => command pv.1 pv.2 := by
  rw [commandText_eq, Text.splitAt_join _ _ (by simpa using some)]
  refine Text.pieces_of_notMem '\n' _ fun line isLine => ?_
  obtain ⟨pv, member, rfl⟩ := List.mem_map.mp isLine
  exact oneLine pv member

/-- With as many lines as violations no command breaks into several. -/
theorem notMem_of_length_lines (r : Report) (some : placed r ≠ [])
    (few : (Text.splitAt '\n' (commandText r)).length = (placed r).length) :
    ∀ pv ∈ placed r, '\n' ∉ command pv.1 pv.2 := by
  rw [commandText_eq, Text.splitAt_join _ _ (by simpa using some)] at few
  have free := Text.notMem_of_length_pieces '\n' ((placed r).map fun pv => command pv.1 pv.2)
    (by rw [few, List.length_map])
  intro pv member
  exact free (command pv.1 pv.2) (List.mem_map.mpr ⟨pv, member, rfl⟩)

theorem givesBack_iff (r : Report) (some : placed r ≠ []) :
    r.GivesBack ↔ ∀ pv ∈ placed r, SafePath pv.1 := by
  have feed := fun path v => command_feed path v (.inl rfl)
  have return_ := fun path v => command_feed path v (.inr rfl)
  constructor
  · rintro ⟨decoded, noReturn⟩ pv member
    have few := congrArg List.length decoded
    rw [List.length_map, List.length_map] at few
    have oneLine := notMem_of_length_lines r some few
    rw [commandLines_eq r some oneLine, List.map_map, List.map_inj_left] at decoded
    rw [commandLines_eq r some oneLine] at noReturn
    obtain ⟨noComma, noColons, same⟩ := (decode_command_iff pv.1 pv.2).mp (decoded pv member)
    have noReturn := noReturn _ (List.mem_map_of_mem member)
    exact ⟨⟨(feed pv.1 pv.2).not.mp (oneLine pv member), (return_ pv.1 pv.2).not.mp noReturn⟩,
      noComma, noColons, (unescape_eq_self_iff pv.1).mp same⟩
  · intro safe
    have oneLine : ∀ pv ∈ placed r, '\n' ∉ command pv.1 pv.2 :=
      fun pv member => (feed pv.1 pv.2).not.mpr (safe pv member).oneLine.1
    rw [GivesBack, commandLines_eq r some oneLine, List.map_map, List.map_inj_left]
    constructor
    · intro pv member
      have path := safe pv member
      exact (decode_command_iff pv.1 pv.2).mpr
        ⟨path.noComma, path.noColons, (unescape_eq_self_iff pv.1).mpr path.noEscape⟩
    · intro line isLine
      obtain ⟨pv, member, rfl⟩ := List.mem_map.mp isLine
      exact (return_ pv.1 pv.2).not.mpr (safe pv member).oneLine.2

theorem mem_placed (r : Report) (pv : Text × Violation) :
    pv ∈ placed r ↔ ∃ f ∈ r.files, ∃ v ∈ f.violations, (f.path, v) = pv := by
  simp only [placed, List.mem_flatMap, List.mem_map]

/-- The commands for a report with violations give back every path, place and message, whatever the
texts of the violations hold, just when the paths of files with violations need no escapes. Lines
and columns are within `Decimal.digitLimit`, as linting and reading a report give them. -/
theorem commands_give_back_iff (r : Report) (some : ∃ f ∈ r.files, f.violations ≠ []) :
    r.GivesBack ↔ ∀ f ∈ r.files, f.violations ≠ [] → SafePath f.path := by
  have nonempty : placed r ≠ [] := by
    obtain ⟨f, file, violations⟩ := some
    obtain ⟨v, more, e⟩ := List.exists_cons_of_ne_nil violations
    have member := (mem_placed r (f.path, v)).mpr ⟨f, file, v, by simp [e], rfl⟩
    exact List.ne_nil_of_mem member
  rw [givesBack_iff r nonempty]
  constructor
  · intro safe f file violations
    obtain ⟨v, more, e⟩ := List.exists_cons_of_ne_nil violations
    exact safe (f.path, v) ((mem_placed r _).mpr ⟨f, file, v, by simp [e], rfl⟩)
  · intro safe pv member
    obtain ⟨f, file, v, violation, rfl⟩ := (mem_placed r pv).mp member
    exact safe f file (List.ne_nil_of_mem violation)

def unrulyViolation : Violation :=
  ⟨.blockName, "50%,\r\n::%0A".toList, "Card".toList, "card".toList, .int 3, .int 7⟩

theorem commands_give_back_iff_colon :
    (∃ f ∈ (Report.ofFiles [⟨"a b/c:d=%.html".toList, [unrulyViolation]⟩]).files,
      f.violations ≠ []) ∧
      (Report.ofFiles [⟨"a b/c:d=%.html".toList, [unrulyViolation]⟩]).GivesBack := by
  have noPair : NoPair ':' "a b/c:d=%.html".toList := by
    unfold NoPair
    decide
  have safe : SafePath "a b/c:d=%.html".toList :=
    ⟨by decide, by decide, noPair.not_hasPair, by decide +kernel⟩
  generalize "a b/c:d=%.html".toList = path at safe ⊢
  have some : ∃ f ∈ (Report.ofFiles [⟨path, [unrulyViolation]⟩]).files, f.violations ≠ [] := by
    simp [Report.ofFiles]
  refine ⟨some, (commands_give_back_iff _ some).mpr ?_⟩
  simpa [Report.ofFiles] using safe

/-- A line feed in the path breaks the command for one violation into two lines. -/
theorem command_broken_by_path :
    ¬ (Report.ofFiles [⟨"a\nb.html".toList, [unrulyViolation]⟩]).GivesBack := by
  rintro ⟨decoded, -⟩
  have lengths := congrArg List.length decoded
  exact absurd lengths (by decide +kernel)

end BemLint.Report
