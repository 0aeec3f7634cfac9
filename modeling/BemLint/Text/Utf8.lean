import BemLint.Text.Basic

/-!
# UTF-8

Bytes to text and back. Decoding looks at one character or one ill-formed stretch at a time; an
ill-formed stretch is the longest beginning of a well-formed sequence that the bytes hold, and
one byte when no sequence begins with it. The lenient decoder puts one replacement character for
each stretch, the strict one stops at the first and says where it is.
-/
namespace BemLint.Text.Utf8

inductive Fault where
  | badStart
  | badContinuation
  | unexpectedEnd
deriving DecidableEq, Repr

/-- An ill-formed stretch of bytes: where it begins, how long it is, and its first byte. -/
structure Broken where
  position : Nat
  length : Nat
  first : UInt8
  fault : Fault
deriving DecidableEq, Repr

/-- What a first byte announces: the number of bytes that follow, the range of the next one, and
the bits that the byte itself contributes. -/
structure Lead where
  tails : Nat
  low : Nat
  high : Nat
  bits : Nat
deriving DecidableEq, Repr

/-- What a byte announces when a character may begin with it. The range of the second byte
excludes longer forms than needed, surrogates and numbers beyond the last code point. -/
def lead? (byte : Nat) : Option Lead :=
  if byte < 0x80 then some ⟨0, 0, 0, byte⟩
  else if byte < 0xC2 then none
  else if byte < 0xE0 then some ⟨1, 0x80, 0xBF, byte - 0xC0⟩
  else if byte = 0xE0 then some ⟨2, 0xA0, 0xBF, 0⟩
  else if byte = 0xED then some ⟨2, 0x80, 0x9F, 13⟩
  else if byte < 0xF0 then some ⟨2, 0x80, 0xBF, byte - 0xE0⟩
  else if byte = 0xF0 then some ⟨3, 0x90, 0xBF, 0⟩
  else if byte < 0xF4 then some ⟨3, 0x80, 0xBF, byte - 0xF0⟩
  else if byte = 0xF4 then some ⟨3, 0x80, 0x8F, 4⟩
  else none

/-- Read the bytes that a first byte announced. The first component counts the bytes that belong
together, well formed or not. -/
def readTails : (tails low high : Nat) → (value used : Nat) → List UInt8 → Nat × Except Fault Nat
  | 0, _, _, value, used, _ => (used, .ok value)
  | _ + 1, _, _, _, used, [] => (used, .error .unexpectedEnd)
  | tails + 1, low, high, value, used, byte :: rest =>
    if low ≤ byte.toNat && byte.toNat ≤ high then
      readTails tails 0x80 0xBF (value * 64 + byte.toNat % 64) (used + 1) rest
    else (used, .error .badContinuation)

/-- The character or the ill-formed stretch at the front of some bytes, with its length. -/
def scan (first : UInt8) (rest : List UInt8) : Nat × Except Fault Nat :=
  match lead? first.toNat with
  | none => (1, .error .badStart)
  | some lead => readTails lead.tails lead.low lead.high lead.bits 1 rest

/-- Lenient decoding, with `skip` bytes already accounted for. -/
def decodeLossyFrom : (skip : Nat) → List UInt8 → Text
  | _, [] => []
  | skip + 1, _ :: rest => decodeLossyFrom skip rest
  | 0, byte :: rest =>
    match scan byte rest with
    | (used, .ok code) => Char.ofNat code :: decodeLossyFrom (used - 1) rest
    | (used, .error _) => Char.ofNat 0xFFFD :: decodeLossyFrom (used - 1) rest

def decodeLossy (bytes : List UInt8) : Text := decodeLossyFrom 0 bytes

/-- Strict decoding from a position, with `skip` bytes already accounted for. -/
def decodeFrom : (position skip : Nat) → List UInt8 → Except Broken Text
  | _, _, [] => .ok []
  | position, skip + 1, _ :: rest => decodeFrom (position + 1) skip rest
  | position, 0, byte :: rest =>
    match scan byte rest with
    | (used, .ok code) => (decodeFrom (position + 1) (used - 1) rest).map (Char.ofNat code :: ·)
    | (used, .error fault) => .error ⟨position, used, byte, fault⟩

def decode (bytes : List UInt8) : Except Broken Text := decodeFrom 0 0 bytes

def encodeChar (c : Char) : List UInt8 :=
  let n := c.toNat
  if n < 0x80 then [n.toUInt8]
  else if n < 0x800 then [(0xC0 + n / 64).toUInt8, (0x80 + n % 64).toUInt8]
  else if n < 0x10000 then
    [(0xE0 + n / 4096).toUInt8, (0x80 + n / 64 % 64).toUInt8, (0x80 + n % 64).toUInt8]
  else
    [(0xF0 + n / 262144).toUInt8, (0x80 + n / 4096 % 64).toUInt8, (0x80 + n / 64 % 64).toUInt8,
      (0x80 + n % 64).toUInt8]

def encode (s : Text) : List UInt8 := s.flatMap encodeChar

end BemLint.Text.Utf8
