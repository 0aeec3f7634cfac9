import BemLint.Decimal.Binary64
import BemLint.Text.Basic

/-!
# Shortest decimals

The text of a double-precision number: the fewest digits that read back as the same number, the
nearest of those to it. The point stands in place from the fourth zero after it up to the
sixteenth digit before it; elsewhere an exponent of at least two digits follows.
-/
namespace BemLint.Decimal

/-- The numbers that round to a double-precision number lie between two quotients over a common
denominator; the ends belong to them when the mantissa is even. -/
structure Bracket where
  low : Nat
  value : Nat
  high : Nat
  den : Nat
  closed : Bool
deriving DecidableEq, Repr

/-- The bracket of a positive finite number. Below a power of two the neighbour is half as far. -/
def bracket (mantissa : Nat) (exponent : Int) : Bracket :=
  let narrow := mantissa = 1 <<< 52 ∧ leastExponent < exponent
  let (unit, den) := scaleByTwo 1 4 exponent
  ⟨(4 * mantissa - (if narrow then 1 else 2)) * unit, 4 * mantissa * unit,
    (4 * mantissa + 2) * unit, den, mantissa % 2 = 0⟩

/-- The quotient of the bracket scaled by a power of ten, as a bracket. -/
def Bracket.scale (b : Bracket) (power : Int) : Bracket :=
  if 0 ≤ power then
    let factor := tenTo power.toNat
    ⟨b.low * factor, b.value * factor, b.high * factor, b.den, b.closed⟩
  else ⟨b.low, b.value, b.high, b.den * tenTo (-power).toNat, b.closed⟩

def Bracket.holds (b : Bracket) (n : Nat) : Bool :=
  let x := n * b.den
  if b.closed then b.low ≤ x && x ≤ b.high else b.low < x && x < b.high

/-- The integer of the bracket nearest to the value among the value's two neighbours, the even one
when both are as near. -/
def Bracket.nearest? (b : Bracket) : Option Nat :=
  let down := b.value / b.den
  let rest := 2 * (b.value % b.den)
  match b.holds down, b.holds (down + 1) with
  | false, false => none
  | true, false => some down
  | false, true => some (down + 1)
  | true, true =>
    some (if rest < b.den then down else if b.den < rest then down + 1 else down + down % 2)

/-- The number of decimal digits before the point of a positive quotient, negative for zeros after
it: the least `p` from a starting point on with `num / den < 10 ^ p`. -/
def pointOf (num den : Nat) : (steps : Nat) → (start : Int) → Int
  | 0, start => start
  | steps + 1, start =>
    let small := if 0 ≤ start then num < den * tenTo start.toNat
      else num * tenTo (-start).toNat < den
    if small then start else pointOf num den steps (start + 1)

/-- Search the grids of ever more digits for one that meets the bracket. -/
def searchDigits (b : Bracket) (point : Int) : (steps count : Nat) → Nat × Nat
  | 0, count => (b.value / b.den, count)
  | steps + 1, count =>
    match (b.scale (count - point)).nearest? with
    | some n => (n, count)
    | none => searchDigits b point steps (count + 1)

/-- The digits of a positive finite number and the place of the point after the first of them. -/
def shortestDigits (mantissa : Nat) (exponent : Int) : Text × Int :=
  let b := bracket mantissa exponent
  let guess : Int := ((b.value.log2 : Int) - b.den.log2) * 30103 / 100000 - 1
  let point := pointOf b.value b.den 6 guess
  let (n, count) := searchDigits b point 17 1
  let digits := Text.ofNat n
  let kept := (digits.reverse.dropWhile (· = '0')).reverse
  (kept, point + digits.length - count)

/-- Digits with a point, or with an exponent where too many zeros would be needed. -/
def placePoint (digits : Text) (point : Int) : Text :=
  if -4 < point ∧ point ≤ 16 then
    if point ≤ 0 then
      ['0', '.'] ++ List.replicate (-point).toNat '0' ++ digits
    else if (digits.length : Int) ≤ point then
      digits ++ List.replicate (point.toNat - digits.length) '0' ++ ['.', '0']
    else digits.take point.toNat ++ '.' :: digits.drop point.toNat
  else
    let fraction := match digits.drop 1 with
      | [] => []
      | rest => '.' :: rest
    let power := point - 1
    let sign := if power < 0 then '-' else '+'
    digits.take 1 ++ fraction ++ ['e', sign] ++ Text.padLeft '0' 2 (Text.ofNat power.natAbs)

def Binary64.text : Binary64 → Text
  | .nan => "nan".toList
  | .infinity negative => if negative then "-inf".toList else "inf".toList
  | .finite negative mantissa exponent =>
    let sign := if negative then ['-'] else []
    if mantissa = 0 then sign ++ "0.0".toList
    else
      let (digits, point) := shortestDigits mantissa exponent
      sign ++ placePoint digits point

end BemLint.Decimal
