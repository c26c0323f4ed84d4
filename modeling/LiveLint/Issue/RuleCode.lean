import LiveLint.Text.Blank
import LiveLint.Text.Digit

/-!
# Rule codes

A linter may put the code of the rule in front of a message, as in `AM04: message`. A code is two or
three capital letters, up to three digits, and optionally a point with further digits; a colon and
white space end it. The digits may be those of any script.
-/

namespace LiveLint

namespace RuleCode

/-- What may follow the digits of a code: nothing, or a point with digits. -/
def takeExtension (t : Text) : Text × Text :=
  match t with
  | c :: rest =>
    if c = CodePoint.ofChar '.' then
      match rest.takeWhile CodePoint.isDecimal with
      | [] => ([], t)
      | digits => (c :: digits, rest.dropWhile CodePoint.isDecimal)
    else ([], t)
  | [] => ([], [])

/-- The text goes on with a colon and white space. -/
def endsCode : Text → Bool
  | c :: d :: _ => c = CodePoint.ofChar ':' && d.isBlank
  | _ => false

/-- The code in front of a message. -/
def ofMessage? (message : Text) : Option Text :=
  let letters := message.takeWhile CodePoint.isAsciiUpper
  let rest := message.dropWhile CodePoint.isAsciiUpper
  let digits := rest.takeWhile CodePoint.isDecimal
  let rest := rest.dropWhile CodePoint.isDecimal
  let (extension, rest) := takeExtension rest
  if 2 ≤ letters.length && letters.length ≤ 3 && digits.length ≤ 3 && endsCode rest then
    some (letters ++ digits ++ extension)
  else none

end RuleCode

end LiveLint
