import BurstLoad.Text.Blank
import BurstLoad.Text.Digit

/-!
Integer texts: one optional plus sign and at most 4300 decimal digits of any script, with blanks
around them. There is no minus sign, no separator and no exponent.
-/

set_option autoImplicit false

namespace BurstLoad.Text

/-- The greatest number of digits that an integer text may have. -/
def maxDigits : Nat := 4300

/-- A text without its plus sign. -/
def dropPlus : List Char → List Char
  | '+' :: s => s
  | s => s

def readNatural? (s : List Char) : Option Nat :=
  let digits := dropPlus (trim s)
  if !digits.isEmpty && digits.length ≤ maxDigits && digits.all isDecimal then
    some (digitsValue digits)
  else none

end BurstLoad.Text
