import BemLint.Proofs.Decimal.Digits
import BemLint.Proofs.Json.Strings

/-!
# Integers of JSON, written and read

The numeral of an integer is read back when it is within the limit on digits and what follows it
does not go on as a number. After a value of a printed text there is a comma, a line feed or
nothing.
-/
namespace BemLint.Json
open Text (Cursor ofNat isAsciiDigit)

/-- A text with which no number goes on. -/
def Stops (tail : Text) : Prop := ∀ c ∈ tail.head?, c = ',' ∨ c = '\n'

theorem Stops.cases {tail : Text} (stops : Stops tail) :
    tail = [] ∨ ∃ rest, tail = ',' :: rest ∨ tail = '\n' :: rest := by
  cases tail with
  | nil => exact .inl rfl
  | cons c rest =>
    rcases stops c (by simp) with rfl | rfl
    · exact .inr ⟨rest, .inl rfl⟩
    · exact .inr ⟨rest, .inr rfl⟩

theorem spanDigits_append (digits tail : Text) (isDigits : ∀ c ∈ digits, isAsciiDigit c = true)
    (stops : Stops tail) : spanDigits (digits ++ tail) = (digits, tail) := by
  rw [spanDigits, List.takeWhile_append_of_pos isDigits, List.dropWhile_append_of_pos isDigits]
  rcases stops.cases with rfl | ⟨rest, rfl | rfl⟩
  · simp
  · simp [isAsciiDigit]
  · simp [isAsciiDigit]

theorem integerPart_ofNat (n : Nat) (tail : Text) (stops : Stops tail) :
    integerPart (ofNat n ++ tail) = (ofNat n, tail) := by
  obtain ⟨c, digits, e⟩ := List.exists_cons_of_ne_nil (Text.ofNat_ne_nil n)
  by_cases zero : c = '0'
  · rw [zero] at e
    rw [e, Text.ofNat_head n digits e]
    rfl
  · have span := spanDigits_append (ofNat n) tail (Text.ofNat_digits n) stops
    rw [← span, e, List.cons_append,
      integerPart.eq_2 _ fun rest same => zero (List.cons.inj same).1]

theorem fractionPart_stops (tail : Text) (stops : Stops tail) : fractionPart tail = ([], tail) := by
  rcases stops.cases with rfl | ⟨rest, rfl | rfl⟩ <;> rfl

theorem exponentPart_stops (tail : Text) (stops : Stops tail) :
    exponentPart tail = (none, tail) := by
  rcases stops.cases with rfl | ⟨rest, rfl | rfl⟩ <;> rfl

/-- A numeral, after the sign that has been taken off: the number of its digits decides. -/
theorem readNumber_digits (n : Nat) (offset : Nat) (negative : Bool) (tail : Text)
    (stops : Stops tail) :
    ∃ next, readNumber ⟨offset, (if negative then ['-'] else []) ++ (ofNat n ++ tail)⟩ =
      if Decimal.digitLimit < (ofNat n).length then .error (.longInteger (ofNat n).length)
      else .ok (.int (if negative then -n else n), ⟨next, tail⟩) := by
  obtain ⟨c, digits, e⟩ := List.exists_cons_of_ne_nil (Text.ofNat_ne_nil n)
  have isDigit := Text.ofNat_digits n c (by simp [e])
  have notSign : c ≠ '-' := by
    rintro rfl
    exact absurd isDigit (by decide)
  have unsigned : minusPart ((if negative then ['-'] else []) ++ (ofNat n ++ tail)) =
      (negative, ofNat n ++ tail) := by
    cases negative with
    | true => rfl
    | false =>
      rw [e]
      exact minusPart.eq_2 _ fun rest same => notSign (List.cons.inj same).1
  have whole := integerPart_ofNat n tail stops
  have value := Text.decimalValue_ofNat n
  rw [e] at unsigned whole value
  rw [e]
  simp only [readNumber, unsigned, whole, fractionPart_stops tail stops,
    exponentPart_stops tail stops, List.isEmpty_nil, Option.isNone_none, Bool.and_self, if_true,
    value]
  exact ⟨_, rfl⟩

theorem reads_digits (n : Nat) (offset : Nat) (negative : Bool) (tail : Text)
    (small : n < 10 ^ Decimal.digitLimit) (stops : Stops tail) :
    Reads (readNumber ⟨offset, (if negative then ['-'] else []) ++ (ofNat n ++ tail)⟩)
      (.int (if negative then -n else n)) tail := by
  obtain ⟨next, read⟩ := readNumber_digits n offset negative tail stops
  rw [if_neg (Nat.not_lt.mpr (Text.length_ofNat_le n small))] at read
  exact ⟨next, read⟩

theorem ofInt_eq (n : Int) :
    Text.ofInt n = (if decide (n < 0) then ['-'] else []) ++ ofNat n.natAbs := by
  cases n with
  | ofNat n => simp [Text.ofInt]
  | negSucc n =>
    have negative : Int.negSucc n < 0 := Int.negSucc_lt_zero n
    simp [Text.ofInt, negative]

/-- What a numeral begins with is no beginning of another value. -/
theorem ofInt_head (n : Int) :
    ∃ c rest, Text.ofInt n = c :: rest ∧ (isAsciiDigit c = true ∨
      (c = '-' ∧ ∃ d digits, rest = d :: digits ∧ isAsciiDigit d = true)) := by
  obtain ⟨d, digits, e⟩ := List.exists_cons_of_ne_nil (Text.ofNat_ne_nil n.natAbs)
  have isDigit := Text.ofNat_digits n.natAbs d (by simp [e])
  rw [ofInt_eq, e]
  by_cases negative : n < 0
  · exact ⟨'-', d :: digits, by simp [negative], .inr ⟨rfl, d, digits, rfl, isDigit⟩⟩
  · exact ⟨d, digits, by simp [negative], .inl isDigit⟩

/-- No word for a value begins as a numeral does, with or without a sign. -/
theorem words_front (word : Text) (value : Json) (member : (word, value) ∈ words) :
    ∃ c d rest, word = c :: d :: rest ∧ isAsciiDigit c = false ∧ isAsciiDigit d = false := by
  simp only [words, List.mem_cons, Prod.mk.injEq, List.not_mem_nil, or_false] at member
  rcases member with ⟨rfl, -⟩ | ⟨rfl, -⟩ | ⟨rfl, -⟩ | ⟨rfl, -⟩ | ⟨rfl, -⟩ | ⟨rfl, -⟩ <;>
    exact ⟨_, _, _, rfl, by decide, by decide⟩

theorem readScalar_number (offset : Nat) (n : Int) (tail : Text) :
    readScalar ⟨offset, Text.ofInt n ++ tail⟩ = readNumber ⟨offset, Text.ofInt n ++ tail⟩ := by
  obtain ⟨x, rest, e, head⟩ := ofInt_head n
  rw [readScalar, List.find?_eq_none.mpr]
  rintro ⟨word, value⟩ member
  obtain ⟨c, d, later, rfl, notDigit, notDigit'⟩ := words_front word value member
  rw [e]
  rcases head with isDigit | ⟨rfl, y, digits, rfl, isDigit⟩
  · have differ : x ≠ c := by
      rintro rfl
      simp [isDigit] at notDigit
    simp [Text.startsWith, differ]
  · have differ : y ≠ d := by
      rintro rfl
      simp [isDigit] at notDigit'
    simp [Text.startsWith, differ]

theorem reads_int (n : Int) (offset : Nat) (tail : Text)
    (small : n.natAbs < 10 ^ Decimal.digitLimit) (stops : Stops tail) :
    Reads (readScalar ⟨offset, Text.ofInt n ++ tail⟩) (.int n) tail := by
  have read := reads_digits n.natAbs offset (decide (n < 0)) tail small stops
  have value : (if decide (n < 0) = true then -(n.natAbs : Int) else n.natAbs) = n := by
    split
    next negative =>
      rw [decide_eq_true_eq] at negative
      omega
    next nonnegative =>
      rw [decide_eq_true_eq] at nonnegative
      omega
  rw [readScalar_number, ofInt_eq, List.append_assoc]
  rwa [value] at read

end BemLint.Json
