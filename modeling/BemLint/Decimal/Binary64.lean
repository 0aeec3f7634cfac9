/-!
# Double-precision numbers

A number of IEEE 754 binary64 as an integer times a power of two, and the one that a decimal
numeral denotes: the nearest, and of two nearest the one with the even mantissa. All arithmetic is
on natural numbers.
-/
namespace BemLint.Decimal

/-- A double-precision number. A finite one is `mantissa * 2 ^ exponent` with its sign. -/
inductive Binary64 where
  | nan
  | infinity (negative : Bool)
  | finite (negative : Bool) (mantissa : Nat) (exponent : Int)
deriving DecidableEq, Repr

/-- A quotient rounded to the nearest integer, a half to the even neighbour. -/
def roundDiv (num den : Nat) : Nat :=
  let q := num / den
  let twice := 2 * (num % den)
  if twice < den then q else if den < twice then q + 1 else q + q % 2

def tenTo (n : Nat) : Nat := Nat.pow 10 n

/-- A quotient as numerator and denominator after multiplication by a power of two. -/
def scaleByTwo (num den : Nat) (exponent : Int) : Nat × Nat :=
  if 0 ≤ exponent then (num <<< exponent.toNat, den) else (num, den <<< (-exponent).toNat)

/-- The least exponent of a finite number. -/
def leastExponent : Int := -1074

/-- The greatest exponent that a number with a full mantissa can have. -/
def greatestExponent : Int := 971

/-- The nearest number to a positive quotient. -/
def ofQuotient (negative : Bool) (num den : Nat) : Binary64 :=
  let guess : Int := num.log2 - den.log2
  let below := let (n, d) := scaleByTwo num den (-guess); n < d
  let exponent := max (guess - (if below then 53 else 52)) leastExponent
  let (n, d) := scaleByTwo num den (-exponent)
  let mantissa := roundDiv n d
  let (mantissa, exponent) :=
    if mantissa = 1 <<< 53 then (1 <<< 52, exponent + 1) else (mantissa, exponent)
  if greatestExponent < exponent then .infinity negative else .finite negative mantissa exponent

/-- The nearest number to `digits * 10 ^ exponent`. Exponents that leave no doubt about the answer
are decided without the power of ten. -/
def ofDecimal (negative : Bool) (digits : Nat) (exponent : Int) : Binary64 :=
  if digits = 0 then .finite negative 0 leastExponent
  else if 400 < exponent then .infinity negative
  else if 0 ≤ exponent then ofQuotient negative (digits * tenTo exponent.toNat) 1
  else if (digits.log2 : Int) + 1101 < 3 * -exponent then .finite negative 0 leastExponent
  else ofQuotient negative digits (tenTo (-exponent).toNat)

end BemLint.Decimal
