/-!
# Binary floating-point formats

A format is given by the width of its fraction and of its exponent.  Every finite magnitude of a
format is a natural multiple of the smallest positive one, so magnitudes are compared, widened and
rounded as natural numbers.

## Main definitions

* `BinaryFormat` — the widths; `BinaryFormat.double` and `BinaryFormat.single`.
* `BinaryFormat.units` — the value of a magnitude, in smallest positive magnitudes.
* `BinaryFormat.round` — the magnitude nearest to a quotient, ties to the even one.

## Main results

* `roundHalfEven_mul` — rounding a whole quotient returns it.
-/

namespace KnowledgeBase

/-- Powers of numbers are those of the core library, whatever other powers are in scope. -/
@[default_instance 20000]
instance (priority := 20000) corePow : Pow Nat Nat := instPowNat

/-- The quotient rounded to the nearest whole number, a half going to the even neighbour. -/
def roundHalfEven (num den : Nat) : Nat :=
  let q := num / den
  let r := num % den
  if 2 * r < den then q
  else if den < 2 * r then q + 1
  else q + q % 2

theorem roundHalfEven_mul (q den : Nat) (h : 0 < den) : roundHalfEven (q * den) den = q := by
  simp [roundHalfEven, Nat.mul_div_cancel _ h, h]

/-- The greatest `k` with `2 ^ k * den ≤ num`, and `0` for a quotient below two. -/
def logQuotient (num den : Nat) : Nat :=
  let k := num.log2 - den.log2
  if den * 2 ^ k ≤ num then k else k - 1

/-- The widths of the fraction and of the exponent of a binary floating-point format.  A magnitude
is the bit pattern without the sign bit. -/
structure BinaryFormat where
  fraction : Nat
  exponent : Nat

namespace BinaryFormat

/-- Sixty-four bits: eleven of exponent, fifty-two of fraction. -/
def double : BinaryFormat := ⟨52, 11⟩

/-- Thirty-two bits: eight of exponent, twenty-three of fraction. -/
def single : BinaryFormat := ⟨23, 8⟩

/-- The number of magnitudes, which is the weight of the sign bit. -/
def signBit (f : BinaryFormat) : Nat := 2 ^ (f.exponent + f.fraction)

/-- The magnitude of infinity.  Smaller magnitudes are finite, greater ones are no numbers. -/
def infinity (f : BinaryFormat) : Nat := (2 ^ f.exponent - 1) * 2 ^ f.fraction

/-- One is this power of two smallest positive magnitudes. -/
def unitScale (f : BinaryFormat) : Nat := 2 ^ (f.exponent - 1) - 2 + f.fraction

/-- The value of a magnitude, counted in smallest positive magnitudes. -/
def units (f : BinaryFormat) (magnitude : Nat) : Nat :=
  let e := magnitude / 2 ^ f.fraction
  let m := magnitude % 2 ^ f.fraction
  if e = 0 then m else (2 ^ f.fraction + m) * 2 ^ (e - 1)

/-- The magnitude nearest to `num / den`, counted in smallest positive magnitudes.  The quotient is
cut at `shift` bits so that `fraction + 1` bits remain; a carry out of them moves the exponent up by
itself. -/
def round (f : BinaryFormat) (num den : Nat) : Nat :=
  let shift := logQuotient num den - f.fraction
  min f.infinity (shift * 2 ^ f.fraction + roundHalfEven num (den * 2 ^ shift))

end BinaryFormat

end KnowledgeBase
