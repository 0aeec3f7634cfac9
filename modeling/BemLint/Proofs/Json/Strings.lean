import BemLint.Json.Parser
import BemLint.Json.Printer

/-!
# Strings of JSON, written and read

A string is written with escapes for the quote, the backslash and the control characters, and every
other character as it is. Reading takes back one character at a time, whatever comes after the
closing quote.
-/
namespace BemLint.Json
open Text (Cursor)

/-- A reader succeeds with a value and leaves a text. The offset is only for messages. -/
def Reads {α : Type} (result : Except Refusal (α × Cursor)) (value : α) (tail : Text) : Prop :=
  ∃ offset, result = .ok (value, ⟨offset, tail⟩)

theorem isHexDigit_hexDigit : ∀ d, d < 16 → Text.isHexDigit (Text.hexDigit d) = true := by decide

theorem hexValue_hexDigit : ∀ d, d < 16 → Text.hexValue (Text.hexDigit d) = d := by decide

/-- Four hexadecimal digits are read as the number that they were written for. -/
theorem hexQuad?_hexDigits (n : Nat) (rest : Text) (small : n < 65536) :
    hexQuad? (Text.hexDigits 4 n ++ rest) = some n := by
  have digits : Text.hexDigits 4 n = [Text.hexDigit (n / 16 / 16 / 16 % 16),
      Text.hexDigit (n / 16 / 16 % 16), Text.hexDigit (n / 16 % 16), Text.hexDigit (n % 16)] := rfl
  have value := fun m : Nat => hexValue_hexDigit (m % 16) (Nat.mod_lt m (by decide))
  have isDigit := fun m : Nat => isHexDigit_hexDigit (m % 16) (Nat.mod_lt m (by decide))
  rw [digits]
  simp only [List.cons_append, List.nil_append, hexQuad?, List.all_cons, List.all_nil, isDigit,
    Bool.and_true, if_true, Text.digitsValue, List.foldl_cons, List.foldl_nil, value]
  congr 1
  omega

theorem hexDigits_length (width n : Nat) : (Text.hexDigits width n).length = width := by
  induction width generalizing n with
  | zero => rfl
  | succ width ih => simp [Text.hexDigits, ih]

section Step

variable {start fuel : Nat} {rest s tail : Text}

/-- A letter after a backslash is read as what it stands for. -/
theorem reads_escape (offset : Nat) (letter c : Char) (notUnicode : letter ≠ 'u')
    (stands : shortEscape? letter = some c)
    (later : ∀ next, Reads (stringFrom start fuel next rest) s tail) :
    Reads (stringFrom start (fuel + 1) offset ('\\' :: letter :: rest)) (c :: s) tail := by
  obtain ⟨stop, read⟩ := later (offset + 2)
  refine ⟨stop, ?_⟩
  rw [stringFrom.eq_6 _ _ _ _ _ notUnicode, stands]
  simp [read, bind, Except.bind]

/-- A control character is read from its number. -/
theorem reads_control (offset : Nat) (c : Char) (control : c.toNat < 32) (more : rest ≠ [])
    (later : ∀ next, Reads (stringFrom start fuel next rest) s tail) :
    Reads (stringFrom start (fuel + 1) offset (unitEscape c.toNat ++ rest)) (c :: s) tail := by
  obtain ⟨stop, read⟩ := later (offset + 6)
  have positive := List.length_pos_iff.mpr more
  have size := hexDigits_length 4 c.toNat
  have code := hexQuad?_hexDigits c.toNat rest (by omega)
  have after : (Text.hexDigits 4 c.toNat ++ rest).drop 4 = rest := by
    rw [← size]
    exact List.drop_left
  have enough : ¬ (Text.hexDigits 4 c.toNat ++ rest).length ≤ 4 := by
    rw [List.length_append]
    omega
  have high : ¬ (0xD800 ≤ c.toNat ∧ c.toNat ≤ 0xDBFF) := by omega
  have low : ¬ (0xDC00 ≤ c.toNat ∧ c.toNat ≤ 0xDFFF) := by omega
  refine ⟨stop, ?_⟩
  have front : unitEscape c.toNat ++ rest = '\\' :: 'u' :: (Text.hexDigits 4 c.toNat ++ rest) := rfl
  rw [front, stringFrom.eq_5, if_neg enough, code]
  simp only [after, if_neg high, read, bind, Except.bind, low, if_false, Char.ofNat_toNat]

/-- Any other character is read as it is. -/
theorem reads_plain (offset : Nat) (c : Char) (notQuote : c ≠ '"') (notBackslash : c ≠ '\\')
    (visible : ¬ c.toNat < 32)
    (later : ∀ next, Reads (stringFrom start fuel next rest) s tail) :
    Reads (stringFrom start (fuel + 1) offset (c :: rest)) (c :: s) tail := by
  obtain ⟨stop, read⟩ := later (offset + 1)
  refine ⟨stop, ?_⟩
  rw [stringFrom.eq_7 _ _ _ _ _ notQuote (fun same => absurd same notBackslash)
    (fun _ same => absurd same notBackslash) (fun _ _ same => absurd same notBackslash),
    if_neg visible]
  simp [read, bind, Except.bind]

theorem reads_writeChar (offset : Nat) (c : Char) (more : rest ≠ [])
    (later : ∀ next, Reads (stringFrom start fuel next rest) s tail) :
    Reads (stringFrom start (fuel + 1) offset (writeChar .unicode c ++ rest)) (c :: s) tail := by
  have byCode : ∀ n, c.toNat = n → c = Char.ofNat n := by
    rintro n rfl
    exact (Char.ofNat_toNat c).symm
  simp only [writeChar]
  split
  next same => exact reads_escape offset '"' c (by decide) (by rw [same]; rfl) later
  split
  next same => exact reads_escape offset '\\' c (by decide) (by rw [same]; rfl) later
  split
  next same => exact reads_escape offset 'n' c (by decide) (by rw [same]; rfl) later
  split
  next same => exact reads_escape offset 'r' c (by decide) (by rw [same]; rfl) later
  split
  next same => exact reads_escape offset 't' c (by decide) (by rw [same]; rfl) later
  split
  next same => exact reads_escape offset 'b' c (by decide) (by rw [byCode 8 same]; rfl) later
  split
  next same => exact reads_escape offset 'f' c (by decide) (by rw [byCode 12 same]; rfl) later
  split
  next control => exact reads_control offset c control more later
  next notQuote notBackslash _ _ _ _ _ visible =>
    exact reads_plain offset c notQuote notBackslash visible later

end Step

theorem writeChar_ne_nil (c : Char) : 0 < (writeChar .unicode c).length := by
  simp only [writeChar]
  repeat' split
  all_goals simp [unitEscape]

/-- The body of a string is read up to its closing quote. -/
theorem reads_body (s tail : Text) (start fuel offset : Nat)
    (enough : (s.flatMap (writeChar .unicode)).length < fuel) :
    Reads (stringFrom start fuel offset (s.flatMap (writeChar .unicode) ++ '"' :: tail)) s
      tail := by
  induction s generalizing fuel offset with
  | nil =>
    cases fuel with
    | zero => omega
    | succ fuel => exact ⟨offset + 1, rfl⟩
  | cons c s ih =>
    have written := writeChar_ne_nil c
    rw [List.flatMap_cons, List.length_append] at enough
    cases fuel with
    | zero => omega
    | succ fuel =>
      rw [List.flatMap_cons, List.append_assoc]
      exact reads_writeChar offset c (by simp) fun next => ih fuel next (by omega)

/-- A written string is read, once its opening quote has been passed. -/
theorem reads_string (s tail : Text) (offset : Nat) :
    Reads (readString ⟨offset, s.flatMap (writeChar .unicode) ++ '"' :: tail⟩) s tail := by
  refine reads_body s tail _ _ _ ?_
  simp only [List.length_append, List.length_cons]
  omega

end BemLint.Json
