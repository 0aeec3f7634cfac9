import BemLint.Text.Blank
import BemLint.Text.Case

/-!
# Lower case

What lower case makes of a character and of a text. A lower-case form is its own lower-case form, so
nothing changes when a text is put in lower case again; the two characters whose form hangs on more
than themselves have such forms as well. What differs from the character it comes of is no white
space and comes no earlier than the small letters of ASCII. On ASCII only the capitals change.
-/
namespace BemLint.Text
open Table

/-! ## The table -/

theorem covers_iff (run : CaseRun) (n : Nat) :
    run.covers n = true ↔ run.first ≤ n ∧ n ≤ run.last ∧ (n - run.first) % run.step = 0 := by
  simp [CaseRun.covers, and_assoc]

/-- Where the forms of a run lie: not before the small letters, nor among the surrogates or white
space. -/
theorem forms_range : ∀ run ∈ lowerRuns, 97 + run.fall ≤ run.first + run.rise ∧
    run.last + run.rise < 0x110000 + run.fall ∧
    ∀ gap ∈ [(0x85, 0xA0), (0x1680, 0x1680), (0x2000, 0x205F), (0x3000, 0x3000), (0xD800, 0xDFFF)],
      run.last + run.rise < gap.1 + run.fall ∨ gap.2 + run.fall < run.first + run.rise := by
  decide +kernel

/-- The forms of one run are no members of another: they lie before or behind it, or between the
members of a run that has every other code point. -/
def formsApart (run other : CaseRun) : Bool :=
  Nat.blt (run.last + run.rise) (other.first + run.fall) ||
    Nat.blt (other.last + run.fall) (run.first + run.rise) ||
    ((run.step == 2 || run.first == run.last) && other.step == 2 &&
      (run.first + run.rise + other.first + run.fall) % 2 == 1)

theorem lowerRuns_formsApart :
    (lowerRuns.all fun run => lowerRuns.all fun other => formsApart run other) = true := by
  decide +kernel

/-- No member of a run is the form of a member of another. -/
theorem covers_form {run other : CaseRun} (member : run ∈ lowerRuns) (member' : other ∈ lowerRuns)
    {n form : Nat} (covers : run.covers n = true) (is : form + run.fall = n + run.rise) :
    other.covers form = false := by
  have apart := List.all_eq_true.mp (List.all_eq_true.mp lowerRuns_formsApart run member) other
    member'
  simp only [formsApart, Bool.or_eq_true, Bool.and_eq_true, Nat.blt_eq, beq_iff_eq] at apart
  rw [Bool.eq_false_iff, Ne, covers_iff]
  rw [covers_iff] at covers
  rintro ⟨first, last, inStep⟩
  rcases apart with (before | behind) | ⟨⟨steps, step'⟩, odd⟩
  · omega
  · omega
  · -- Both go on by twos, and the forms have the parity that the members lack.
    rw [step'] at inStep
    rcases steps with step | single
    · rw [step] at covers
      omega
    · omega

/-- A code point is its own form or has one by a run of the table. -/
theorem lowerCode_cases (n : Nat) :
    lowerCode n = n ∨
      ∃ run ∈ lowerRuns, run.covers n = true ∧ lowerCode n + run.fall = n + run.rise := by
  unfold lowerCode
  split
  next run found =>
    have member := List.mem_of_find?_eq_some found
    have covers : run.covers n = true := by simpa using List.find?_some found
    have range := (forms_range run member).1
    have bounds := (covers_iff run n).mp covers
    exact .inr ⟨run, member, covers, by omega⟩
  next => exact .inl rfl

theorem lowerCode_lowerCode (n : Nat) : lowerCode (lowerCode n) = lowerCode n := by
  rcases lowerCode_cases n with same | ⟨run, member, covers, form⟩
  · rw [same, same]
  rcases lowerCode_cases (lowerCode n) with same | ⟨other, member', covers', -⟩
  · exact same
  · simp [covers_form member member' covers form] at covers'

/-! ## Characters -/

theorem lowerCode_valid (c : Char) : (lowerCode c.toNat).isValidChar := by
  rcases lowerCode_cases c.toNat with same | ⟨run, member, covers, form⟩
  · rw [same]
    exact c.valid
  · obtain ⟨-, last, gaps⟩ := forms_range run member
    have surrogates := gaps (0xD800, 0xDFFF) (by simp)
    rw [covers_iff] at covers
    unfold Nat.isValidChar
    omega

theorem toNat_lowerChar (c : Char) : (lowerChar c).toNat = lowerCode c.toNat := by
  rw [lowerChar, Char.ofNat, dif_pos (lowerCode_valid c)]
  rfl

theorem lowerChar_lowerChar (c : Char) : lowerChar (lowerChar c) = lowerChar c := by
  rw [lowerChar, toNat_lowerChar, lowerCode_lowerCode, ← lowerChar]

/-- A lower-case form that differs is no white space and comes no earlier than small letters. -/
theorem lowerChar_cases (c : Char) :
    lowerChar c = c ∨ 97 ≤ (lowerChar c).toNat ∧ isBlank (lowerChar c) = false := by
  rcases lowerCode_cases c.toNat with same | ⟨run, member, covers, form⟩
  · rw [lowerChar, same, Char.ofNat_toNat]
    exact .inl rfl
  right
  obtain ⟨first, -, gaps⟩ := forms_range run member
  simp only [List.forall_mem_cons] at gaps
  rw [covers_iff] at covers
  rw [isBlank, toNat_lowerChar]
  simp only [Bool.or_eq_false_iff, Bool.and_eq_false_iff, decide_eq_false_iff_not,
    beq_eq_false_iff_ne]
  omega

/-- In ASCII the table has the capitals and nothing else. -/
theorem lowerChar_ascii {c : Char} (ascii : c.toNat < 128) : lowerChar c = c.toLower := by
  have all : ∀ n < 128, lowerChar (Char.ofNat n) = (Char.ofNat n).toLower := by decide +kernel
  simpa using all c.toNat ascii

/-! ## Texts -/

theorem lowerSigma_lower (before after : Text) :
    lowerChar (lowerSigma before after) = lowerSigma before after ∧
      97 ≤ (lowerSigma before after).toNat ∧ isBlank (lowerSigma before after) = false := by
  unfold lowerSigma
  split <;> decide +kernel

/-- What the capital with a dot becomes. -/
theorem dotted_lower : ∀ c ∈ ['i', Char.ofNat 0x307],
    lowerChar c = c ∧ 97 ≤ c.toNat ∧ isBlank c = false := by
  rw [List.forall_mem_cons, List.forall_mem_singleton]
  decide +kernel

/-- Lower case consists of lower-case forms. Those that did not stand in the text are no white space
and come no earlier than small letters. -/
theorem mem_lowerFrom {c : Char} {before s : Text} (member : c ∈ lowerFrom before s) :
    lowerChar c = c ∧ (c ∈ s ∨ 97 ≤ c.toNat ∧ isBlank c = false) := by
  induction s generalizing before with
  | nil => contradiction
  | cons d s ih =>
    rw [lowerFrom, List.mem_append] at member
    rcases member with here | behind
    · split at here
      · obtain rfl := List.mem_singleton.mp here
        exact ⟨(lowerSigma_lower before s).1, .inr (lowerSigma_lower before s).2⟩
      split at here
      · exact ⟨(dotted_lower c here).1, .inr (dotted_lower c here).2⟩
      · obtain rfl := List.mem_singleton.mp here
        refine ⟨lowerChar_lowerChar d, ?_⟩
        rcases lowerChar_cases d with same | other
        · exact .inl (by simp [same])
        · exact .inr other
    · obtain ⟨lower, origin⟩ := ih behind
      exact ⟨lower, origin.imp_left (List.mem_cons_of_mem d)⟩

theorem lowerChar_of_mem_toLower {c : Char} {s : Text} (member : c ∈ toLower s) :
    lowerChar c = c :=
  (mem_lowerFrom member).1

theorem mem_toLower {c : Char} {s : Text} (member : c ∈ toLower s) :
    c ∈ s ∨ 97 ≤ c.toNat ∧ isBlank c = false :=
  (mem_lowerFrom member).2

/-- Where nothing hangs on the neighbours, lower case goes character by character. -/
theorem lowerFrom_eq_map (before s : Text) (plain : ∀ c ∈ s, c.toNat ≠ 0x3A3 ∧ c.toNat ≠ 0x130) :
    lowerFrom before s = s.map lowerChar := by
  induction s generalizing before with
  | nil => rfl
  | cons c s ih =>
    obtain ⟨⟨sigma, dotted⟩, rest⟩ := List.forall_mem_cons.mp plain
    rw [lowerFrom, if_neg sigma, if_neg dotted, ih _ rest]
    rfl

/-- A text of lower-case forms is left as it is. -/
theorem toLower_eq_self {s : Text} (lower : ∀ c ∈ s, lowerChar c = c) : toLower s = s := by
  have changed : lowerCode 0x3A3 ≠ 0x3A3 ∧ lowerCode 0x130 ≠ 0x130 := by decide +kernel
  have plain : ∀ c ∈ s, c.toNat ≠ 0x3A3 ∧ c.toNat ≠ 0x130 := by
    intro c member
    have own := toNat_lowerChar c
    rw [lower c member] at own
    refine ⟨fun code => changed.1 ?_, fun code => changed.2 ?_⟩ <;> rw [← code, ← own]
  rw [toLower, lowerFrom_eq_map [] s plain, List.map_congr_left lower, List.map_id']

theorem toLower_ascii {s : Text} (ascii : ∀ c ∈ s, c.toNat < 128) :
    toLower s = s.map Char.toLower := by
  have plain : ∀ c ∈ s, c.toNat ≠ 0x3A3 ∧ c.toNat ≠ 0x130 := by
    intro c member
    have small := ascii c member
    omega
  rw [toLower, lowerFrom_eq_map [] s plain]
  exact List.map_congr_left fun c member => lowerChar_ascii (ascii c member)

end BemLint.Text
