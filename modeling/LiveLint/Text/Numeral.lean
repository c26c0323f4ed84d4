import LiveLint.Text.Digit
import LiveLint.Text.Quoted

/-!
# Numerals

A numeral is a run of decimal digits, of any script and of several at once. It has at least one
digit and 4300 at most.
-/

namespace LiveLint

namespace Numeral

/-- The digits of the longest numeral. -/
def maxDigits : Nat := 4300

/-- Why a text is not read as a number. -/
inductive Error where
  /-- Something else than a run of digits. -/
  | notANumeral (t : Text)
  | tooLong (digits : Nat)
deriving DecidableEq

/-- The wording of an error; a long text is shown in part. -/
def Error.message : Error → Text
  | .notANumeral t => Text.ofString "invalid literal for int() with base 10: " ++ t.quoted.take 200
  | .tooLong digits =>
    Text.ofString "Exceeds the limit (4300 digits) for integer string conversion: value has "
      ++ Text.ofNat digits ++ " digits; use sys.set_int_max_str_digits() to increase the limit"

/-- The number that a numeral stands for. A text that starts with too many digits is too long,
whatever follows them. -/
def read (t : Text) : Except Error Nat :=
  let digits := t.takeWhile CodePoint.isDecimal
  if maxDigits < digits.length then .error (.tooLong digits.length)
  else if t.isEmpty || digits.length < t.length then .error (.notANumeral t)
  else .ok (decimalValue (digits.filterMap CodePoint.digit?))

end Numeral

end LiveLint
