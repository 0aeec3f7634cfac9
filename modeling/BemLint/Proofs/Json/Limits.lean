import BemLint.Json.Parser
import BemLint.Proofs.Decimal.Digits
import BemLint.Proofs.Results

/-!
# Integers that were read

The reader counts the digits of every numeral, so each integer in a value that it returns is within
the limit, however deep it lies. Such a value can be written again.
-/
namespace BemLint.Json
open Text (Cursor isAsciiDigit)

/-- A value with no integer beyond the limit on digits, neither itself nor inside. -/
inductive Fits : Json → Prop where
  | null : Fits .null
  | bool (value : Bool) : Fits (.bool value)
  | int {n : Int} (small : n.natAbs < 10 ^ Decimal.digitLimit) : Fits (.int n)
  | float (x : Decimal.Binary64) : Fits (.float x)
  | str (s : Text) : Fits (.str s)
  | arr {items : List Json} (each : ∀ item ∈ items, Fits item) : Fits (.arr items)
  | obj {fields : List (Text × Json)} (each : ∀ field ∈ fields, Fits field.2) : Fits (.obj fields)

theorem Fits.field? {fields : List (Text × Json)} (each : ∀ field ∈ fields, Fits field.2)
    {name : Text} {value : Json} (found : Json.field? name fields = some value) : Fits value := by
  fun_induction Json.field? name fields with
  | case1 => cases found
  | case2 value' rest =>
    cases found
    exact each (name, value) (by simp)
  | case3 key old rest other ih =>
    exact ih (fun field member => each field (by simp [member])) found

theorem fits_setField {fields : List (Text × Json)} (each : ∀ field ∈ fields, Fits field.2)
    (name : Text) {value : Json} (fits : Fits value) :
    ∀ field ∈ setField name value fields, Fits field.2 := by
  fun_induction setField name value fields with
  | case1 => simpa using fits
  | case2 old rest =>
    rw [List.forall_mem_cons] at each ⊢
    exact ⟨fits, each.2⟩
  | case3 key old rest other ih =>
    rw [List.forall_mem_cons] at each ⊢
    exact ⟨each.1, ih each.2⟩

/-! ## Scalars -/

theorem integerPart_digits (s : Text) : ∀ c ∈ (integerPart s).1, isAsciiDigit c = true := by
  rw [integerPart.eq_def]
  split
  next =>
    intro c member
    rw [List.mem_singleton.mp member]
    rfl
  next => exact List.all_eq_true.mp List.all_takeWhile

theorem readNumber_fits {c next : Cursor} {value : Json}
    (read : readNumber c = .ok (value, next)) : Fits value := by
  rw [readNumber] at read
  split at read
  next negative unsigned _ =>
  split at read
  next => cases read
  next whole afterWhole _ parts =>
  split at read
  next fraction afterFraction _ =>
  split at read
  next exponent after _ =>
  split at read
  next =>
    split at read
    next => cases read
    next short =>
      cases read
      have digits := integerPart_digits unsigned
      rw [parts] at digits
      have size := Text.decimalValue_lt whole digits
      have room := Nat.pow_le_pow_right (n := 10) (by decide) (Nat.le_of_not_lt short)
      refine .int ?_
      split <;> omega
  next =>
    cases read
    exact .float _

theorem readScalar_fits {c next : Cursor} {value : Json}
    (read : readScalar c = .ok (value, next)) : Fits value := by
  rw [readScalar] at read
  split at read
  next word value' found =>
    cases read
    have known := List.mem_of_find?_eq_some found
    simp only [words, List.mem_cons, Prod.mk.injEq, List.not_mem_nil, or_false] at known
    rcases known with ⟨-, rfl⟩ | ⟨-, rfl⟩ | ⟨-, rfl⟩ | ⟨-, rfl⟩ | ⟨-, rfl⟩ | ⟨-, rfl⟩
    · exact .null
    · exact .bool true
    · exact .bool false
    · exact .float _
    · exact .float _
    · exact .float _
  next => exact readNumber_fits read

/-! ## Values -/

/-- What the reader returns with some fuel: values, items and fields that fit, the latter when those
read before do. -/
structure ReadsFit (fuel : Nat) : Prop where
  value : ∀ {depth c value next}, readValue fuel depth c = .ok (value, next) → Fits value
  items : ∀ {depth c items next}, readItems fuel depth c = .ok (items, next) →
    ∀ item ∈ items, Fits item
  fields : ∀ {depth before c fields next}, (∀ field ∈ before, Fits field.2) →
    readFields fuel depth before c = .ok (fields, next) → ∀ field ∈ fields, Fits field.2

section Step

variable {fuel depth : Nat} {c next : Cursor}

theorem readValue_fits (less : ReadsFit fuel) {value : Json}
    (read : readValue (fuel + 1) depth c = .ok (value, next)) : Fits value := by
  rw [readValue.eq_2] at read
  split at read
  next =>
    obtain ⟨⟨s, after⟩, -, read⟩ := bind_ok read
    cases read
    exact .str s
  next =>
    split at read
    next => cases read
    dsimp only at read
    split at read
    next =>
      cases read
      exact .obj (by simp)
    next =>
      obtain ⟨⟨fields, after⟩, inside, read⟩ := bind_ok read
      cases read
      exact .obj (less.fields (by simp) inside)
  next =>
    split at read
    next => cases read
    dsimp only at read
    split at read
    next =>
      cases read
      exact .arr (by simp)
    next =>
      obtain ⟨⟨items, after⟩, inside, read⟩ := bind_ok read
      cases read
      exact .arr (less.items inside)
  next => exact readScalar_fits read

theorem readItems_fits (less : ReadsFit fuel) {items : List Json}
    (read : readItems (fuel + 1) depth c = .ok (items, next)) : ∀ item ∈ items, Fits item := by
  rw [readItems.eq_2] at read
  obtain ⟨⟨item, afterItem⟩, first, read⟩ := bind_ok read
  have fits := less.value first
  dsimp only at read
  split at read
  next =>
    cases read
    simpa using fits
  next =>
    obtain ⟨⟨others, after⟩, more, read⟩ := bind_ok read
    cases read
    simpa using ⟨fits, less.items more⟩
  next => cases read

theorem readFields_fits (less : ReadsFit fuel) {before fields : List (Text × Json)}
    (each : ∀ field ∈ before, Fits field.2)
    (read : readFields (fuel + 1) depth before c = .ok (fields, next)) :
    ∀ field ∈ fields, Fits field.2 := by
  rw [readFields.eq_2] at read
  split at read
  next =>
    obtain ⟨⟨name, afterName⟩, -, read⟩ := bind_ok read
    dsimp only at read
    split at read
    next =>
      obtain ⟨⟨value, afterValue⟩, inside, read⟩ := bind_ok read
      have added := fits_setField each name (less.value inside)
      dsimp only at read
      split at read
      next =>
        cases read
        exact added
      next => exact less.fields added read
      next => cases read
    next => cases read
  next => cases read

end Step

theorem readsFit (fuel : Nat) : ReadsFit fuel := by
  induction fuel with
  | zero =>
    constructor
    · intro _ _ _ _ read
      cases read
    · intro _ _ _ _ read
      cases read
    · intro _ _ _ _ _ _ read
      cases read
  | succ fuel less => exact ⟨readValue_fits less, readItems_fits less, readFields_fits less⟩

/-- Every integer in a value that a text is read as is within the limit. -/
theorem fits_of_parse {source : Text} {value : Json} (read : parse source = .ok value) :
    Fits value := by
  rw [parse.eq_def] at read
  split at read
  next => cases read
  next =>
    obtain ⟨⟨found, next⟩, inside, read⟩ := bind_ok read
    dsimp only at read
    split at read
    next =>
      cases read
      exact (readsFit _).value inside
    next => cases read

end BemLint.Json
