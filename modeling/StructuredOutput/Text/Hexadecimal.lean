/-!
# Hexadecimal digits

The numbers that hexadecimal digits denote, small letters and capitals alike.
-/

namespace StructuredOutput.Text

/-- The number that a hexadecimal digit denotes. -/
def hexDigit? (c : Char) : Option Nat :=
  if '0' ≤ c ∧ c ≤ '9' then some (c.toNat - '0'.toNat)
  else if 'a' ≤ c ∧ c ≤ 'f' then some (c.toNat - 'a'.toNat + 10)
  else if 'A' ≤ c ∧ c ≤ 'F' then some (c.toNat - 'A'.toNat + 10)
  else none

/-- The number that hexadecimal digits denote; `none` if one of them is no digit. -/
def hexadecimal? (digits : List Char) : Option Nat :=
  digits.foldlM (fun n d => (16 * n + ·) <$> hexDigit? d) 0

end StructuredOutput.Text
