import KnowledgeBase.Number.Binary

/-!
# Double and single precision numbers

Doubles are read from decimals and integers with one rounding, compared by their bits, and
narrowed to or widened from single precision.

## Main definitions

* `Double.ofDecimal`, `Double.ofInt` — the double nearest to a decimal or an integer.
* `Double.compare?` — the order of doubles, with no answer when one of them is no number.
* `Double.hex` — the sixteen hexadecimal digits of the bit pattern.
* `Single.ofDouble`, `Single.toDouble` — narrowing with one rounding, and widening.

## Main results

* `Double.compare?_eq_none_iff` — exactly the pairs with a NaN are not comparable.
-/

namespace KnowledgeBase

namespace Double

/-- The bit pattern without the sign. -/
def magnitude (x : Float) : Nat := x.toBits.toNat % BinaryFormat.double.signBit

/-- Whether the sign bit is set. -/
def isNegative (x : Float) : Bool := BinaryFormat.double.signBit ≤ x.toBits.toNat

/-- Neither infinite nor NaN. -/
def isFinite (x : Float) : Bool := magnitude x < BinaryFormat.double.infinity

/-- Not a number. -/
def isNaN (x : Float) : Bool := BinaryFormat.double.infinity < magnitude x

/-- The double with the given sign and magnitude. -/
def ofMagnitude (negative : Bool) (magnitude : Nat) : Float :=
  Float.ofBits (UInt64.ofNat (magnitude + if negative then BinaryFormat.double.signBit else 0))

/-- A whole number whose order is that of the numeric doubles; both zeros have key zero. -/
def key (x : Float) : Int :=
  if isNegative x then -(magnitude x : Int) else magnitude x

/-- The order of two doubles.  A NaN is comparable with nothing. -/
def compare? (x y : Float) : Option Ordering :=
  if isNaN x || isNaN y then none else some (compare (key x) (key y))

theorem compare?_eq_none_iff (x y : Float) :
    compare? x y = none ↔ (isNaN x = true ∨ isNaN y = true) := by
  unfold compare?
  split <;> simp_all

/-- The double nearest to an integer. -/
def ofInt (n : Int) : Float :=
  let f := BinaryFormat.double
  ofMagnitude (decide (n < 0)) (f.round (n.natAbs * 2 ^ f.unitScale) 1)

/-- The magnitude nearest to `digits * 10 ^ exponent`.  Exponents far outside the range of the
format are answered without computing the power. -/
def roundDecimal (f : BinaryFormat) (digits : Nat) (exponent : Int) : Nat :=
  if digits = 0 then 0
  else if 400 < exponent then f.infinity
  else if exponent + (digits.log2 : Int) < -1200 then 0
  else if 0 ≤ exponent then f.round (digits * 10 ^ exponent.toNat * 2 ^ f.unitScale) 1
  else f.round (digits * 2 ^ f.unitScale) (10 ^ (-exponent).toNat)

/-- The double nearest to a decimal. -/
def ofDecimal (negative : Bool) (digits : Nat) (exponent : Int) : Float :=
  ofMagnitude negative (roundDecimal BinaryFormat.double digits exponent)

/-- Positive infinity. -/
def inf : Float := ofMagnitude false BinaryFormat.double.infinity

/-- Negative infinity. -/
def negInf : Float := ofMagnitude true BinaryFormat.double.infinity

/-- The NaN. -/
def nan : Float := ofMagnitude false (BinaryFormat.double.infinity + 2 ^ 51)

/-- The lower-case hexadecimal digit of a number below sixteen. -/
def hexDigit (n : Nat) : Char :=
  if n < 10 then Char.ofNat (0x30 + n) else Char.ofNat (0x57 + n)

/-- The lowest `width` hexadecimal digits of a number. -/
def hexDigits : Nat → Nat → List Char
  | 0, _ => []
  | width + 1, n => hexDigits width (n / 16) ++ [hexDigit (n % 16)]

/-- The bit pattern in sixteen lower-case hexadecimal digits; every NaN has the same one. -/
def hex (x : Float) : String :=
  let x := if isNaN x then nan else x
  String.ofList (hexDigits 16 x.toBits.toNat)

end Double

namespace Single

/-- The bit pattern without the sign. -/
def magnitude (x : Float32) : Nat := x.toBits.toNat % BinaryFormat.single.signBit

/-- Whether the sign bit is set. -/
def isNegative (x : Float32) : Bool := BinaryFormat.single.signBit ≤ x.toBits.toNat

/-- Neither infinite nor NaN. -/
def isFinite (x : Float32) : Bool := magnitude x < BinaryFormat.single.infinity

/-- The single with the given sign and magnitude. -/
def ofMagnitude (negative : Bool) (magnitude : Nat) : Float32 :=
  Float32.ofBits (UInt32.ofNat (magnitude + if negative then BinaryFormat.single.signBit else 0))

/-- The single nearest to an integer. -/
def ofInt (n : Int) : Float32 :=
  let f := BinaryFormat.single
  ofMagnitude (decide (n < 0)) (f.round (n.natAbs * 2 ^ f.unitScale) 1)

/-- How many times the smallest double goes into the smallest single, as a power of two. -/
def scaleGap : Nat := BinaryFormat.double.unitScale - BinaryFormat.single.unitScale

/-- The single nearest to a double; too great a double becomes infinite. -/
def ofDouble (x : Float) : Float32 :=
  let m := Double.magnitude x
  if Double.isNaN x then Float32.ofBits 0x7fc00000
  else if BinaryFormat.double.infinity ≤ m then
    ofMagnitude (Double.isNegative x) BinaryFormat.single.infinity
  else
    ofMagnitude (Double.isNegative x)
      (BinaryFormat.single.round (BinaryFormat.double.units m) (2 ^ scaleGap))

/-- The double with the value of a single. -/
def toDouble (x : Float32) : Float :=
  let m := magnitude x
  if BinaryFormat.single.infinity < m then Double.nan
  else if BinaryFormat.single.infinity ≤ m then
    Double.ofMagnitude (isNegative x) BinaryFormat.double.infinity
  else
    Double.ofMagnitude (isNegative x)
      (BinaryFormat.double.round (BinaryFormat.single.units m * 2 ^ scaleGap) 1)

end Single

end KnowledgeBase
