import BemLint.Proofs.ClassName.Rewriting

/-!
# Names that the rewriting puts in kebab case

Which names of ASCII characters are in kebab case once they are rewritten. Letters and digits come
out as the characters of words whatever their case, and a border parted inside a word leaves a word
on both of its sides. So it hangs on what stands between words: `Hyphenable` says that each gap is a
single hyphen or is written as one. A text is gone through gap by gap, and both that and kebab case
are settled for the first gap by what holds behind it.
-/
namespace BemLint.ClassName

/-! ## Gaps -/

def Alphanumeric (s : Text) : Prop := ∀ c ∈ s, c.isAlphanum = true

/-- Neither letters nor digits of ASCII. -/
def Foreign (s : Text) : Prop := ∀ c ∈ s, c.isAlphanum = false

/-- A longest stretch of a text without letters and digits. -/
def IsGap (s gap : Text) : Prop :=
  ∃ before after, s = before ++ (gap ++ after) ∧ gap ≠ [] ∧ Foreign gap ∧
    (∀ c ∈ before.getLast?, c.isAlphanum = true) ∧ ∀ c ∈ after.head?, c.isAlphanum = true

/-- A single hyphen, or low lines and white space. -/
def WrittenAsHyphen (gap : Text) : Prop := gap = ['-'] ∨ ∀ c ∈ gap, IsSeparator c

/-- The names that the rewriting puts in kebab case: a letter or digit at both ends, and between
words nothing but what is written as one hyphen. -/
structure Hyphenable (s : Text) : Prop where
  head : ∃ c ∈ s.head?, c.isAlphanum = true
  last : ∃ c ∈ s.getLast?, c.isAlphanum = true
  gaps : ∀ gap, IsGap s gap → WrittenAsHyphen gap

/-- A text with something else than letters and digits is cut around its first gap. -/
theorem exists_firstGap (s : Text) :
    Alphanumeric s ∨ ∃ w gap rest, s = w ++ (gap ++ rest) ∧ Alphanumeric w ∧ gap ≠ [] ∧
      Foreign gap ∧ ∀ c ∈ rest.head?, c.isAlphanum = true := by
  obtain ⟨w, behind, rfl, word, stops⟩ := Text.exists_span Char.isAlphanum s
  cases behind with
  | nil =>
    rw [List.append_nil]
    exact .inl word
  | cons c behind =>
    obtain ⟨gap, rest, whole, foreign, opens⟩ :=
      Text.exists_span (!·.isAlphanum) (c :: behind)
    refine .inr ⟨w, gap, rest, by rw [whole], word, ?_, by simpa [Foreign] using foreign,
      by simpa using opens⟩
    rintro rfl
    obtain rfl : c :: behind = rest := whole
    simpa [stops c rfl] using opens c rfl

/-- What holds of texts of letters and digits, and of a text with a gap as soon as it holds of what
follows the first one, holds of all texts. -/
@[elab_as_elim]
theorem gapInduction {motive : Text → Prop} (word : ∀ w, Alphanumeric w → motive w)
    (gap : ∀ w gap rest, Alphanumeric w → gap ≠ [] → Foreign gap →
      (∀ c ∈ rest.head?, c.isAlphanum = true) → motive rest → motive (w ++ (gap ++ rest)))
    (s : Text) : motive s := by
  rcases exists_firstGap s with isWord | ⟨w, first, rest, whole, isWord, filled, foreign, opens⟩
  · exact word s isWord
  · have shorter : rest.length < s.length := by
      have := List.length_pos_iff.mpr filled
      rw [whole, List.length_append, List.length_append]
      omega
    rw [whole]
    exact gap w first rest isWord filled foreign opens (gapInduction word gap rest)
termination_by s.length

theorem Alphanumeric.free {w : Text} (word : Alphanumeric w) : ∀ c ∈ w, ¬ IsSeparator c :=
  fun c member => isAlphanum_notSeparator (word c member)

theorem Alphanumeric.lowered {w : Text} (word : Alphanumeric w) :
    ∀ c ∈ w.map Char.toLower, isKebabChar c = true := by
  intro c member
  obtain ⟨d, inside, rfl⟩ := List.mem_map.mp member
  rw [isKebabChar_toLower, word d inside]

/-- A stretch without letters and digits does not begin with one. -/
theorem Foreign.head {gap : Text} (foreign : Foreign gap) {c : Char} {rest : Text}
    (begins : gap = c :: rest) : c.isAlphanum ≠ true := by
  simp [foreign c (by simp [begins])]

theorem Alphanumeric.not_isGap {w gap : Text} (word : Alphanumeric w) : ¬ IsGap w gap := by
  rintro ⟨before, after, rfl, filled, foreign, -, -⟩
  obtain ⟨c, rest, begins⟩ := List.exists_cons_of_ne_nil filled
  exact foreign.head begins (word c (by simp [begins]))

section FirstGap

variable {w gap rest : Text} (word : Alphanumeric w) (filled : gap ≠ []) (foreign : Foreign gap)
  (opens : ∀ c ∈ rest.head?, c.isAlphanum = true)

include word filled foreign opens

/-- The gaps of a text are its first one and those of what follows it. -/
theorem isGap_iff (run : Text) : IsGap (w ++ (gap ++ rest)) run ↔ run = gap ∨ IsGap rest run := by
  constructor
  · rintro ⟨before, after, whole, filled', foreign', left, right⟩
    obtain ⟨c, more, begins⟩ := List.exists_cons_of_ne_nil filled'
    have here : before = w → run = gap := by
      rintro rfl
      have same := List.append_cancel_left whole
      exact (Text.span_unique (p := (!·.isAlphanum)) same.symm (by simpa [Foreign] using foreign')
        (by simpa [Foreign] using foreign) (by simpa using right) (by simpa using opens)).1
    rcases List.append_eq_append_iff.mp whole with ⟨a, rfl, cut⟩ | ⟨b, rfl, cut⟩
    · rcases List.append_eq_append_iff.mp cut with ⟨a', rfl, behind⟩ | ⟨b', rfl, -⟩
      · refine .inr ⟨a', after, behind, filled', foreign', fun d last => left d ?_, right⟩
        simp [List.getLast?_append, Option.mem_def.mp last]
      · rcases a.eq_nil_or_concat with rfl | ⟨init, d, rfl⟩
        · exact .inl (here (by simp))
        · -- The first gap goes on in front of the other, so that is not a longest stretch.
          have letter := left d (by simp)
          simp [foreign d (by simp)] at letter
    · cases b with
      | nil => exact .inl (here (by simp))
      | cons d b =>
        rw [begins] at cut
        obtain rfl : c = d := (List.cons.inj cut).1
        exact absurd (word c (by simp)) (foreign'.head begins)
  · rintro (rfl | ⟨before, after, rfl, filled', foreign', left, right⟩)
    · exact ⟨w, rest, rfl, filled, foreign, fun c last => word c (List.mem_of_getLast? last), opens⟩
    · refine ⟨w ++ (gap ++ before), after, by simp, filled', foreign', fun c last => ?_, right⟩
      have some : before ≠ [] := by
        rintro rfl
        obtain ⟨d, more, begins⟩ := List.exists_cons_of_ne_nil filled'
        exact foreign'.head begins (opens d (by simp [begins]))
      rw [← List.append_assoc, List.getLast?_append_of_ne_nil _ some] at last
      exact left c last

/-- Whether a text is fit to be rewritten is settled at its first gap by what follows. -/
theorem hyphenable_iff : Hyphenable (w ++ (gap ++ rest)) ↔
    w ≠ [] ∧ WrittenAsHyphen gap ∧ Hyphenable rest := by
  obtain ⟨d, more, begins⟩ := List.exists_cons_of_ne_nil filled
  constructor
  · intro fit
    have gaps := fit.gaps
    simp only [isGap_iff word filled foreign opens] at gaps
    obtain ⟨c, last, letter⟩ := fit.last
    have some : rest ≠ [] := by
      rintro rfl
      rw [List.append_nil, List.getLast?_append_of_ne_nil _ filled] at last
      simp [foreign c (List.mem_of_getLast? last)] at letter
    obtain ⟨e, behind, follows⟩ := List.exists_cons_of_ne_nil some
    refine ⟨?_, gaps gap (.inl rfl), ?_, ?_, fun run isGap => gaps run (.inr isGap)⟩
    · rintro rfl
      obtain ⟨c, head, letter⟩ := fit.head
      obtain rfl : d = c := by simpa [begins] using head
      exact foreign.head begins letter
    · exact ⟨e, by simp [follows], opens e (by simp [follows])⟩
    · rw [← List.append_assoc, List.getLast?_append_of_ne_nil _ some] at last
      exact ⟨c, last, letter⟩
  · rintro ⟨some, written, fit⟩
    obtain ⟨c, more', front⟩ := List.exists_cons_of_ne_nil some
    obtain ⟨e, last, letter⟩ := fit.last
    refine ⟨⟨c, by simp [front], word c (by simp [front])⟩, ⟨e, ?_, letter⟩, fun run isGap => ?_⟩
    · simp [List.getLast?_append, Option.mem_def.mp last]
    · rcases (isGap_iff word filled foreign opens run).mp isGap with rfl | behind
      · exact written
      · exact fit.gaps run behind

end FirstGap

/-! ## Kebab case gap by gap -/

/-- What comes out as a single hyphen is what is written as one. -/
theorem hyphenateRuns_eq_hyphen_iff {gap : Text} (filled : gap ≠ []) :
    hyphenateRuns false gap = ['-'] ↔ WrittenAsHyphen gap := by
  obtain ⟨c, rest, rfl⟩ := List.exists_cons_of_ne_nil filled
  by_cases separator : IsSeparator c
  · have differ : c ≠ '-' := by
      rintro rfl
      exact hyphen_notSeparator separator
    rw [hyphenateRuns_separator separator, if_neg Bool.false_ne_true, List.cons.injEq,
      and_iff_right rfl, hyphenateRuns_eq_nil_iff]
    simp [WrittenAsHyphen, differ, separator]
  · rw [hyphenateRuns_other separator]
    cases rest with
    | nil => simp [WrittenAsHyphen, separator, hyphenateRuns]
    | cons d rest =>
      simp [WrittenAsHyphen, separator, hyphenateRuns_cons_ne_nil d rest]

/-- Kebab case around a stretch that holds no character of a word. -/
theorem kebab_gap_iff {w gap rest : Text} (word : ∀ c ∈ w, isKebabChar c = true)
    (filled : gap ≠ []) (foreign : ∀ c ∈ gap, isKebabChar c = false) :
    Kebab (w ++ (gap ++ rest)) ↔ w ≠ [] ∧ gap = ['-'] ∧ Kebab rest := by
  constructor
  · intro kebab
    have hyphens : ∀ c ∈ gap, c = '-' := fun c member =>
      (kebab.chars c (by simp [member])).resolve_left (by simp [foreign c member])
    have some : w ≠ [] := by
      rintro rfl
      obtain ⟨c, more, rfl⟩ := List.exists_cons_of_ne_nil filled
      exact kebab.head?_ne isKebabChar_hyphen (by simp [hyphens c])
    have single : gap = ['-'] := by
      match gap, filled with
      | [c], _ => rw [hyphens c (by simp)]
      | c :: d :: more, _ =>
        refine absurd ⟨w, more ++ rest, ?_⟩ kebab.noPair.not_hasPair
        simp [hyphens c, hyphens d]
    refine ⟨some, single, ?_⟩
    rw [← isKebab_iff, isKebab, kebabFrom_word w _ true ⟨some, word⟩, single] at kebab
    rw [← isKebab_iff, isKebab]
    simpa [kebabFrom] using kebab
  · rintro ⟨some, rfl, more⟩
    exact .join ⟨some, word⟩ more

/-- In what the first step of the rewriting leaves, put in lower case, the words and gaps of the
text are told apart as before. -/
theorem kebab_hyphenated_iff (s : Text) :
    Kebab ((hyphenateRuns false s).map Char.toLower) ↔ Hyphenable s := by
  induction s using gapInduction with
  | word w word =>
    rw [hyphenateRuns_eq_self word.free]
    constructor
    · intro kebab
      have some : w ≠ [] := by
        rintro rfl
        exact kebab.nonempty rfl
      refine ⟨⟨w.head some, List.head_mem_head? some, word _ (List.head_mem some)⟩,
        ⟨w.getLast some, List.getLast_mem_getLast? some, word _ (List.getLast_mem some)⟩,
        fun gap isGap => absurd isGap word.not_isGap⟩
    · intro fit
      obtain ⟨c, head, -⟩ := fit.head
      have some : w ≠ [] := List.ne_nil_of_mem (List.mem_of_mem_head? head)
      exact .word ⟨by simpa using some, word.lowered⟩
  | gap w gap rest word filled foreign opens ih =>
    have passes : ∀ c ∈ rest.head?, ¬ IsSeparator c := fun c head =>
      isAlphanum_notSeparator (opens c head)
    have hyphens : ∀ c ∈ hyphenateRuns false gap, c.isAlphanum = false := by
      intro c member
      rcases mem_hyphenateRuns member with rfl | ⟨inside, -⟩
      · decide
      · exact foreign c inside
    have same : (hyphenateRuns false gap).map Char.toLower = hyphenateRuns false gap := by
      rw [List.map_congr_left fun c member => toLower_foreign (hyphens c member), List.map_id']
    have outside : ∀ c ∈ hyphenateRuns false gap, isKebabChar c = false := by
      intro c member
      rw [← toLower_foreign (hyphens c member), isKebabChar_toLower, hyphens c member]
    have some : hyphenateRuns false gap ≠ [] := by
      obtain ⟨c, more, rfl⟩ := List.exists_cons_of_ne_nil filled
      exact hyphenateRuns_cons_ne_nil c more
    -- The gap comes out without characters of words, so both sides are settled at it.
    rw [hyphenable_iff word filled foreign opens, ← ih, hyphenateRuns_front word.free,
      hyphenateRuns_append false gap rest passes, List.map_append, List.map_append, same,
      kebab_gap_iff word.lowered some outside, hyphenateRuns_eq_hyphen_iff filled, Ne,
      List.map_eq_nil_iff]

/-! ## Words in camel case -/

/-- A border parted inside a word leaves a word on both of its sides, so kebab case does not hang on
it. -/
theorem kebabFrom_partCamel (fresh : Bool) (s : Text) :
    kebabFrom fresh ((partCamel s).map Char.toLower) = kebabFrom fresh (s.map Char.toLower) := by
  have word {c : Char} (letter : c.isAlphanum = true) (fresh : Bool) (t : Text) :
      kebabFrom fresh (c.toLower :: t) = kebabFrom false t :=
    kebabFrom_word [c.toLower] t fresh ⟨by simp, by simpa [isKebabChar_toLower] using letter⟩
  fun_induction partCamel s generalizing fresh with
  | case1 => rfl
  | case2 c => rfl
  | case3 a b rest border ih =>
    obtain ⟨small, capital⟩ := Bool.and_eq_true_iff.mp border
    have letter : a.isAlphanum = true := (isAlphanum_iff a).mpr (.inl small)
    have letter' : b.isAlphanum = true := (isAlphanum_iff b).mpr (.inr capital)
    have lowered : b.toLower.isAlphanum = true := by
      rw [isAlphanum_iff, isKebabChar_toLower]
      exact .inl letter'
    have hyphen : '-'.toLower = '-' := by decide
    simp only [List.map_cons]
    rw [word letter, word letter, word letter', hyphen, kebabFrom, if_pos rfl, word lowered, ih]
    rfl
  | case4 a b rest plain ih =>
    rw [List.map_cons, List.map_cons, kebabFrom, kebabFrom, ih, ih]

theorem toKebab_ascii {s : Text} (ascii : ∀ c ∈ s, c.toNat < 128) :
    toKebab s = (partCamel (hyphenateRuns false s)).map Char.toLower := by
  refine Text.toLower_ascii fun c member => ?_
  rcases mem_partCamel member with joined | rfl | kebab
  · rcases mem_hyphenateRuns joined with rfl | ⟨inside, -⟩
    · decide
    · exact ascii c inside
  · decide
  · rw [isKebabChar_iff] at kebab
    omega

/-- A text of ASCII characters is rewritten to kebab case just when each of its gaps is written as
one hyphen. -/
theorem kebab_toKebab_iff {s : Text} (ascii : ∀ c ∈ s, c.toNat < 128) :
    Kebab (toKebab s) ↔ Hyphenable s := by
  rw [toKebab_ascii ascii, ← isKebab_iff, isKebab, kebabFrom_partCamel, ← isKebab, isKebab_iff,
    kebab_hyphenated_iff]

end BemLint.ClassName
