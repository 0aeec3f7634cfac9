import BemLint.Text.Basic

/-!
# The limit on digits

Integers are read and written up to a number of decimal digits.
-/
namespace BemLint.Decimal

/-- The most digits that an integer may have. -/
def digitLimit : Nat := 4300

def longIntegerMessage (digits : Nat) : Text :=
  "Exceeds the limit (".toList ++ Text.ofNat digitLimit ++
    " digits) for integer string conversion: value has ".toList ++ Text.ofNat digits ++
    " digits; use sys.set_int_max_str_digits() to increase the limit".toList

/-- The wording for an integer that is not written out because it exceeds the limit. -/
def unwrittenIntegerMessage : Text :=
  "Exceeds the limit (".toList ++ Text.ofNat digitLimit ++
    " digits) for integer string conversion; use sys.set_int_max_str_digits() to increase the limit".toList

end BemLint.Decimal
