import Mathlib.Algebra.Group.Nat.Defs
import BemLint.Decimal.Limit
import BemLint.Text.CharClass

/-!
# Decimal numerals

The numeral of a natural number: decimal digits whose value is the number, with a zero in front for
zero only, and as many as the least power of ten above the number has zeros.
-/
namespace BemLint.Text

theorem ofNat_eq (n : Nat) : ofNat n = Nat.toDigits 10 n := by
  simp [ofNat]

theorem isAsciiDigit_iff (c : Char) : isAsciiDigit c = c.isDigit := rfl

theorem ofNat_digits (n : Nat) : ∀ c ∈ ofNat n, isAsciiDigit c = true := by
  intro c member
  rw [ofNat_eq] at member
  rw [isAsciiDigit_iff]
  exact Nat.isDigit_of_mem_toDigits (by decide) (by decide) member

theorem ofNat_ne_nil (n : Nat) : ofNat n ≠ [] := by
  rw [ofNat_eq]
  exact Nat.toDigits_ne_nil

/-- On digits, the value in base ten is the usual one. -/
theorem decimalValue_eq (digits : Text) (isDigits : ∀ c ∈ digits, isAsciiDigit c = true) :
    decimalValue digits = Nat.ofDigitChars 10 digits 0 := by
  unfold decimalValue digitsValue Nat.ofDigitChars
  generalize 0 = value
  induction digits generalizing value with
  | nil => rfl
  | cons c digits ih =>
    have digit := isDigits c (by simp)
    have step : value * 10 + hexValue c = 10 * value + (c.toNat - '0'.toNat) := by
      rw [hexValue, if_pos digit, Nat.mul_comm]
      rfl
    rw [List.foldl_cons, List.foldl_cons, step]
    exact ih (fun d member => isDigits d (by simp [member])) _

/-- Digits have a value below the power of ten with as many zeros. -/
theorem decimalValue_lt (digits : Text) (isDigits : ∀ c ∈ digits, isAsciiDigit c = true) :
    decimalValue digits < 10 ^ digits.length := by
  rw [decimalValue_eq digits isDigits]
  induction digits with
  | nil => exact Nat.one_pos
  | cons c digits ih =>
    have digit := isDigits c (by simp)
    have rest := ih fun d member => isDigits d (by simp [member])
    simp only [isAsciiDigit, Bool.and_eq_true, decide_eq_true_eq] at digit
    have last : c.toNat ≤ 57 := digit.2
    have zero : '0'.toNat = 48 := rfl
    have bound : 10 ^ digits.length * (c.toNat - '0'.toNat) ≤ 10 ^ digits.length * 9 :=
      Nat.mul_le_mul_left _ (by omega)
    rw [Nat.ofDigitChars_cons, Nat.mul_zero, Nat.zero_add, Nat.ofDigitChars_eq_ofDigitChars_zero,
      List.length_cons, Nat.pow_succ]
    omega

theorem decimalValue_ofNat (n : Nat) : decimalValue (ofNat n) = n := by
  rw [decimalValue_eq _ (ofNat_digits n), ofNat_eq]
  exact Nat.ofDigitChars_ten_toDigits

theorem length_ofNat_le (n : Nat) (small : n < 10 ^ Decimal.digitLimit) :
    (ofNat n).length ≤ Decimal.digitLimit := by
  rw [ofNat_eq]
  exact (Nat.length_toDigits_le_iff (by decide) (by decide)).mpr small

theorem lt_length_ofNat (n : Nat) (large : 10 ^ Decimal.digitLimit ≤ n) :
    Decimal.digitLimit < (ofNat n).length := by
  rw [ofNat_eq]
  refine Nat.lt_of_not_le fun short => ?_
  exact Nat.not_lt.mpr large ((Nat.length_toDigits_le_iff (by decide) (by decide)).mp short)

/-- The least number beyond the limit has one digit more than it allows. -/
theorem length_ofNat_limit :
    (ofNat (10 ^ Decimal.digitLimit)).length = Decimal.digitLimit + 1 := by
  have more := lt_length_ofNat (10 ^ Decimal.digitLimit) (Nat.le_refl _)
  have atMost : (ofNat (10 ^ Decimal.digitLimit)).length ≤ Decimal.digitLimit + 1 := by
    rw [ofNat_eq]
    exact (Nat.length_toDigits_le_iff (by decide) (by decide)).mpr
      (Nat.pow_lt_pow_right (by decide) (Nat.lt_succ_self _))
  omega

/-- Only zero begins with a zero. -/
theorem ofNat_head (n : Nat) (rest : Text) (zero : ofNat n = '0' :: rest) : rest = [] := by
  rw [ofNat_eq] at zero
  induction n using Nat.strongRecOn generalizing rest with
  | ind n ih =>
    rw [Nat.toDigits_eq_if (by decide)] at zero
    split at zero
    · exact (List.cons.inj zero).2.symm
    next large =>
      have positive : 0 < n / 10 := by omega
      cases e : Nat.toDigits 10 (n / 10) with
      | nil => exact absurd e Nat.toDigits_ne_nil
      | cons c digits =>
        rw [e] at zero
        have head : c = '0' := (List.cons.inj zero).1
        have alone := ih (n / 10) (by omega) digits (by rw [e, head])
        -- A single zero in front is the numeral of zero, and the quotient is not zero.
        have value := Nat.ofDigitChars_ten_toDigits (n := n / 10)
        rw [e, head, alone] at value
        have : n / 10 = 0 := value.symm
        omega

end BemLint.Text
