import BemLint.Text.CodePoint

/-!
# UTF-8, encoded and decoded

What a text is encoded to is well formed, and decoding gives the text back. The ranges that the
decoder puts on a second byte hold for every character, since no character is a surrogate and each
is encoded in the fewest bytes. Code points are encoded as the text that they are, up to the first
surrogate.
-/
namespace BemLint.Text.Utf8

theorem toUInt8_toNat (n : Nat) (small : n < 256) : n.toUInt8.toNat = n :=
  UInt8.toNat_ofNat_of_lt' small

/-- What a character is not: a surrogate, or beyond the last code point. -/
theorem toNat_valid (c : Char) : c.toNat < 0xD800 ∨ 0xDFFF < c.toNat ∧ c.toNat < 0x110000 :=
  c.valid

/-- A continuation byte within its range adds six bits. -/
theorem readTails_byte (tails low high value used n : Nat) (rest : List UInt8)
    (least : low ≤ 0x80 + n % 64) (most : 0x80 + n % 64 ≤ high) :
    readTails (tails + 1) low high value used ((0x80 + n % 64).toUInt8 :: rest) =
      readTails tails 0x80 0xBF (value * 64 + n % 64) (used + 1) rest := by
  have byte := toUInt8_toNat (0x80 + n % 64) (by omega)
  have bits : (0x80 + n % 64) % 64 = n % 64 := by omega
  simp only [readTails, byte, bits, decide_eq_true least, decide_eq_true most, Bool.and_self,
    if_true]

theorem lead?_two (n : Nat) (least : 0x80 ≤ n) (most : n < 0x800) :
    lead? (0xC0 + n / 64) = some ⟨1, 0x80, 0xBF, n / 64⟩ := by
  rw [lead?, if_neg (by omega), if_neg (by omega), if_pos (by omega), Nat.add_sub_cancel_left]

/-- Three bytes: the range of the second one depends on the first. -/
theorem lead?_three (n : Nat) (least : 0x800 ≤ n) (most : n < 0x10000)
    (noSurrogate : n < 0xD800 ∨ 0xDFFF < n) :
    ∃ low high, lead? (0xE0 + n / 4096) = some ⟨2, low, high, n / 4096⟩ ∧
      low ≤ 0x80 + n / 64 % 64 ∧ 0x80 + n / 64 % 64 ≤ high := by
  rw [lead?, if_neg (by omega), if_neg (by omega), if_neg (by omega)]
  by_cases zero : n / 4096 = 0
  · exact ⟨0xA0, 0xBF, by simp [zero], by omega, by omega⟩
  by_cases thirteen : n / 4096 = 13
  · exact ⟨0x80, 0x9F, by simp [thirteen], by omega, by omega⟩
  · refine ⟨0x80, 0xBF, ?_, by omega, by omega⟩
    rw [if_neg (by omega), if_neg (by omega), if_pos (by omega), Nat.add_sub_cancel_left]

theorem lead?_four (n : Nat) (least : 0x10000 ≤ n) (most : n < 0x110000) :
    ∃ low high, lead? (0xF0 + n / 262144) = some ⟨3, low, high, n / 262144⟩ ∧
      low ≤ 0x80 + n / 4096 % 64 ∧ 0x80 + n / 4096 % 64 ≤ high := by
  rw [lead?, if_neg (by omega), if_neg (by omega), if_neg (by omega), if_neg (by omega),
    if_neg (by omega), if_neg (by omega)]
  by_cases zero : n / 262144 = 0
  · exact ⟨0x90, 0xBF, by simp [zero], by omega, by omega⟩
  by_cases four : n / 262144 = 4
  · exact ⟨0x80, 0x8F, by simp [four], by omega, by omega⟩
  · refine ⟨0x80, 0xBF, ?_, by omega, by omega⟩
    rw [if_neg (by omega), if_pos (by omega), Nat.add_sub_cancel_left]

/-- The bytes of a character are scanned as that character, whatever follows them. -/
theorem scan_encodeChar (c : Char) (rest : List UInt8) :
    ∃ first more, encodeChar c = first :: more ∧
      scan first (more ++ rest) = (more.length + 1, .ok c.toNat) := by
  have valid := toNat_valid c
  simp only [encodeChar]
  split
  next one =>
    refine ⟨_, [], rfl, ?_⟩
    rw [scan, toUInt8_toNat c.toNat (by omega), lead?, if_pos one]
    rfl
  split
  next two =>
    refine ⟨_, _, rfl, ?_⟩
    rw [scan, toUInt8_toNat _ (by omega), lead?_two c.toNat (by omega) two]
    simp only [List.cons_append, List.nil_append]
    rw [readTails_byte _ _ _ _ _ _ _ (by omega) (by omega), readTails]
    simp only [List.length_cons, List.length_nil]
    congr 2
    omega
  split
  next three =>
    obtain ⟨low, high, lead, least, most⟩ := lead?_three c.toNat (by omega) three (by omega)
    refine ⟨_, _, rfl, ?_⟩
    rw [scan, toUInt8_toNat _ (by omega), lead]
    simp only [List.cons_append, List.nil_append]
    rw [readTails_byte _ _ _ _ _ _ _ least most, readTails_byte _ _ _ _ _ _ _ (by omega) (by omega),
      readTails]
    simp only [List.length_cons, List.length_nil]
    congr 2
    omega
  next =>
    obtain ⟨low, high, lead, least, most⟩ := lead?_four c.toNat (by omega) (by omega)
    refine ⟨_, _, rfl, ?_⟩
    rw [scan, toUInt8_toNat _ (by omega), lead]
    simp only [List.cons_append, List.nil_append]
    rw [readTails_byte _ _ _ _ _ _ _ least most, readTails_byte _ _ _ _ _ _ _ (by omega) (by omega),
      readTails_byte _ _ _ _ _ _ _ (by omega) (by omega), readTails]
    simp only [List.length_cons, List.length_nil]
    congr 2
    omega

/-- Bytes that are accounted for are passed over. -/
theorem decodeFrom_skip (position : Nat) (bytes rest : List UInt8) :
    decodeFrom position bytes.length (bytes ++ rest) =
      decodeFrom (position + bytes.length) 0 rest := by
  induction bytes generalizing position with
  | nil => rfl
  | cons byte bytes ih =>
    rw [List.length_cons, List.cons_append, decodeFrom, ih]
    congr 1
    omega

theorem decodeFrom_encode (position : Nat) (s : Text) :
    decodeFrom position 0 (encode s) = .ok s := by
  induction s generalizing position with
  | nil => rfl
  | cons c s ih =>
    obtain ⟨first, more, e, scanned⟩ := scan_encodeChar c (encode s)
    have bytes : encode (c :: s) = first :: (more ++ encode s) := by
      rw [← List.cons_append, ← e]
      rfl
    rw [bytes, decodeFrom, scanned]
    simp only [Nat.add_sub_cancel, decodeFrom_skip, ih, Char.ofNat_toNat]
    rfl

/-- The bytes of a text are decoded to the text. -/
theorem decode_encode (s : Text) : decode (encode s) = .ok s := decodeFrom_encode 0 s

/-! ## Code points -/

/-- Code points are the characters of a text, unless a first surrogate stands behind such. -/
theorem chars_or_surrogate (s : List CodePoint) :
    (∃ t : Text, s = t.map .char) ∨
      ∃ (front : Text) (first : Fin 2048) (rest : List CodePoint),
        s = front.map .char ++ .surrogate first :: rest := by
  induction s with
  | nil => exact .inl ⟨[], rfl⟩
  | cons c s ih =>
    cases c with
    | surrogate first => exact .inr ⟨[], first, s, rfl⟩
    | char c =>
      obtain ⟨t, rfl⟩ | ⟨front, first, rest, rfl⟩ := ih
      · exact .inl ⟨c :: t, rfl⟩
      · exact .inr ⟨c :: front, first, rest, rfl⟩

theorem dropWhile_char (front : Text) (rest : List CodePoint) :
    (front.map CodePoint.char ++ rest).dropWhile (!·.isSurrogate) =
      rest.dropWhile (!·.isSurrogate) :=
  List.dropWhile_append_of_pos (by simp [CodePoint.isSurrogate])

theorem encodePoints_char (s : Text) : encodePoints (s.map .char) = .ok (encode s) := by
  have noSurrogate := dropWhile_char s []
  rw [List.append_nil] at noSurrogate
  have chars : (s.map CodePoint.char).filterMap (·.char?) = s := by
    rw [List.filterMap_map]
    exact List.filterMap_some
  simp only [encodePoints, noSurrogate, List.dropWhile_nil, chars]

theorem encodePoints_surrogate (front : Text) (first : Fin 2048) (rest : List CodePoint) :
    encodePoints (front.map .char ++ .surrogate first :: rest) =
      .error ⟨front.length, first, (rest.takeWhile (·.isSurrogate)).length⟩ := by
  have before : (front.map CodePoint.char ++ .surrogate first :: rest).takeWhile
      (!·.isSurrogate) = front.map .char := by
    rw [List.takeWhile_append_of_pos (by simp [CodePoint.isSurrogate])]
    simp [CodePoint.isSurrogate]
  have behind : (CodePoint.surrogate first :: rest).dropWhile (!·.isSurrogate) =
      .surrogate first :: rest := rfl
  simp only [encodePoints, dropWhile_char, behind, before, List.length_map]

/-- Encoding stops exactly at a surrogate. -/
theorem encodePoints_error_iff (s : List CodePoint) :
    (∃ run, encodePoints s = .error run) ↔ ∃ c ∈ s, c.isSurrogate = true := by
  obtain ⟨t, rfl⟩ | ⟨front, first, rest, rfl⟩ := chars_or_surrogate s
  · simp [encodePoints_char, CodePoint.isSurrogate]
  · exact ⟨fun _ => ⟨.surrogate first, by simp, rfl⟩, fun _ => ⟨_, encodePoints_surrogate ..⟩⟩

example : encodePoints [.char 'a', .surrogate 0, .surrogate 0x4FF, .char 'b'] =
    .error ⟨1, 0, 1⟩ := rfl

end BemLint.Text.Utf8
