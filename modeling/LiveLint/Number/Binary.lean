import LiveLint.Text.Basic

/-!
# Exact values of floating-point numbers

A finite double is `m · 2 ^ q` for integers `m` and `q`. From that form every decimal digit of it is
known, so that rounding to a number of places is exact, with a half going to the even neighbour. The
way back reads a decimal `d · 10 ^ e` as the nearest double. `Double` keeps a number as its bits,
which tell undefined numbers apart that arithmetic does not.
-/

namespace LiveLint

/-- A double-precision number by its 64 bits. -/
structure Double where
  bits : UInt64
deriving DecidableEq

namespace Double

/-- The double that a number is stored as. -/
def ofFloat (x : Float) : Double := ⟨x.toBits⟩

/-- Whether a number has these bits. Only one of the patterns for undefined numbers is that of
one. -/
instance (b : BitVec Float.Model.Format.binary64.numBits) :
    Decidable (Float.Model.Format.binary64.Valid b) :=
  decidable_of_decidable_of_iff
    (p := Float.Model.UnpackedFloat.unpackExponent b = -1#_ →
      Float.Model.UnpackedFloat.unpackMantissa b ≠ 0#_ →
      b = Float.Model.UnpackedFloat.packedNaN Float.Model.Format.binary64)
    ⟨.mk, fun h => h.eq_packedNaN⟩

/-- The number that a double stores. -/
def toFloat (d : Double) : Float :=
  if h : Float.Model.Format.binary64.Valid d.bits.toBitVec then .ofModel ⟨d.bits, h⟩
  else .ofBits d.bits

/-- A number is stored without loss. -/
theorem toFloat_ofFloat (x : Float) : (ofFloat x).toFloat = x := dif_pos x.toModel.valid

/-- The undefined number, with or without its sign bit. -/
def undefined (negative : Bool) : Double :=
  ⟨if negative then 0xFFF8000000000000 else 0x7FF8000000000000⟩

end Double

/-- The absolute value of a floating-point number. -/
inductive Magnitude where
  | notANumber
  | infinite
  /-- The number `m · 2 ^ q`. -/
  | finite (m : Nat) (q : Int)
deriving DecidableEq

/-- A floating-point number taken apart into sign and absolute value. -/
structure Binary where
  negative : Bool
  magnitude : Magnitude
deriving DecidableEq

namespace Binary

/-- The parts of a double. -/
def ofDouble (x : Double) : Binary :=
  let bits : Nat := x.bits.toNat
  let exponent : Nat := bits / 0x10000000000000 % 0x800
  let fraction : Nat := bits % 0x10000000000000
  { negative := bits / 0x8000000000000000 == 1
    magnitude :=
      if exponent = 2047 then (if fraction = 0 then .infinite else .notANumber)
      else if exponent = 0 then .finite fraction (-1074)
      else .finite (0x10000000000000 + fraction) ((exponent : Int) - 1075) }

/-- The parts of a number. -/
def ofFloat (x : Float) : Binary := ofDouble (Double.ofFloat x)

/-- The quotient `n / d` rounded to an integer, a half to the even neighbour. -/
def roundHalfEven (n d : Nat) : Nat :=
  let floor := n / d
  let twice := 2 * (n % d)
  if twice < d then floor
  else if d < twice then floor + 1
  else if floor % 2 = 0 then floor else floor + 1

/-- `m · 2 ^ q` times `10 ^ places`, rounded to an integer. -/
def scaled (places m : Nat) (q : Int) : Nat :=
  let top := m * Nat.pow 10 places
  if 0 ≤ q then top * Nat.pow 2 q.toNat else roundHalfEven top (Nat.pow 2 (-q).toNat)

/-- A number of tenths, hundredths, … with a point before the last `places` digits. -/
def withPoint (places n : Nat) : Text :=
  let fraction := Nat.toDigits 10 (n % Nat.pow 10 places)
  let padded := List.replicate (places - fraction.length) '0' ++ fraction
  Text.ofNat (n / Nat.pow 10 places) ++ (CodePoint.ofChar '.' :: padded.map CodePoint.ofChar)

/-- The number with `places` digits after the point. -/
def fixed (places : Nat) (b : Binary) : Text :=
  let sign : Text := if b.negative then "-" else []
  match b.magnitude with
  | .notANumber => "nan"
  | .infinite => sign ++ "inf"
  | .finite m q => sign ++ withPoint places (scaled places m q)

/-- The number with all its digits: reading them gives the same number. -/
def exact (b : Binary) : Text :=
  let sign : Text := if b.negative then "-" else []
  match b.magnitude with
  | .notANumber => "NaN"
  | .infinite => sign ++ "Infinity"
  | .finite m q =>
    if 0 ≤ q then sign ++ withPoint 1 (m * Nat.pow 2 q.toNat * 10)
    else sign ++ withPoint (-q).toNat (m * Nat.pow 5 (-q).toNat)

/-- The integer that the number is, when it has no fraction. -/
def integer? (b : Binary) : Option Int :=
  match b.magnitude with
  | .finite m q =>
    let value? : Option Nat :=
      if 0 ≤ q then some (m * Nat.pow 2 q.toNat)
      else
        let d := Nat.pow 2 (-q).toNat
        if m % d = 0 then some (m / d) else none
    value?.map fun n => if b.negative then -(n : Int) else (n : Int)
  | _ => none

/-- Neither infinite nor undefined. -/
def isFinite (b : Binary) : Bool :=
  match b.magnitude with
  | .finite .. => true
  | _ => false

end Binary

/-- The double nearest to `digits · 10 ^ exponent`. Beyond the range of doubles on either side the
answer is known without the power: a double has fewer than 310 digits before the point and no digit
beyond the 1100th after it. -/
def floatOfDecimal (negative : Bool) (digits : Nat) (exponent : Int) : Float :=
  let order : Int := exponent + (Nat.toDigits 10 digits).length
  let size : Float :=
    if digits = 0 || order < -400 then 0
    else if 400 < order then 1 / 0
    else if 0 ≤ exponent then Float.ofScientific digits false exponent.toNat
    else Float.ofScientific digits true (-exponent).toNat
  if negative then -size else size

/-- The double that stands for an unlimited amount. -/
def infinity : Float := 1 / 0

/-- The double that stands for no number. -/
def notANumber : Float := 0 / 0

end LiveLint
