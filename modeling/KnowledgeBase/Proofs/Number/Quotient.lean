import KnowledgeBase.Proofs.Number.Sum

/-!
# The quotient of positive doubles

What is divided by a positive double may vanish, but it is a number unless both are infinite.  A
number that is not negative is so too when it is packed into a double.

## Main results

* `Double.NotNegative.div` — the quotient of a finite and a positive double is not negative.
* `Double.NotNegative.unpack_pack`, `Double.Positive.unpack_pack` — signs survive packing.
* `Double.isNaN_of_notNegative` — what is not negative is a number.
-/

namespace KnowledgeBase.Double

open Float.Model Float.Model.UnpackedFloat

/-! ### Dividing -/

/-- **The quotient of a finite and a positive double is not negative.** -/
theorem NotNegative.div {m : Nat} {e : Int} {h : 0 < m} {y : UnpackedFloat} (hy : Positive y) :
    NotNegative (UnpackedFloat.div Format.binary64 (.finite .positive m e h) y) := by
  cases hy with
  | infinity => exact .inl rfl
  | finite hm he => exact .roundWithAccuracy _ _ _

/-! ### Packing -/

/-- What is not negative is packed into a pattern that is neither that of a NaN nor signed. -/
theorem NotNegative.pack_le {x : UnpackedFloat} (hx : NotNegative x) :
    (UnpackedFloat.pack Format.binary64 x).toNat ≤ BinaryFormat.double.infinity := by
  rcases hx with rfl | hx
  · decide
  · exact hx.pack_bounds.2

/-- The pattern of a positive number is that of a positive number. -/
theorem Positive.unpack_pack {x : UnpackedFloat} (hx : Positive x) :
    Positive (UnpackedFloat.unpack Format.binary64 (UnpackedFloat.pack Format.binary64 x)) := by
  obtain ⟨hpos, hle⟩ := hx.pack_bounds
  have hself : BitVec.ofNat 64 (UnpackedFloat.pack Format.binary64 x).toNat =
      UnpackedFloat.pack Format.binary64 x :=
    (BitVec.ofNat_toNat 64 _).trans (BitVec.setWidth_eq _)
  have hunpack := Positive.unpack hpos hle
  rwa [hself] at hunpack

theorem NotNegative.unpack_pack {x : UnpackedFloat} (hx : NotNegative x) :
    NotNegative (UnpackedFloat.unpack Format.binary64 (UnpackedFloat.pack Format.binary64 x)) := by
  rcases hx with rfl | hx
  · exact .inl rfl
  · exact .inr hx.unpack_pack

/-- **What is not negative is a number.** -/
theorem isNaN_of_notNegative {x : Float} (hx : NotNegative x.toModel.unpack) :
    isNaN x = false := by
  have hpack : UnpackedFloat.pack Format.binary64 x.toModel.unpack = x.toBits.toBitVec :=
    Packing.pack_unpack (by decide) x.toModel.valid
  have hle := hx.pack_le
  rw [hpack] at hle
  exact decide_eq_false (Nat.not_lt.2 (Nat.le_trans (Nat.mod_le _ _) hle))

/-! ### Reciprocals -/

theorem unpack_one :
    (Double.ofInt 1).toModel.unpack = .finite .positive (2 ^ 52) (-52) (by decide) := by
  have hcast : (1 : Int) = (1 : Nat) := rfl
  have hround : BinaryFormat.double.round (1 * 2 ^ BinaryFormat.double.unitScale) 1 =
      1023 * 2 ^ 52 := by decide +kernel
  rw [hcast, ofInt_natCast, unpack_ofMagnitude (round_le_infinity _ _), hround]
  rfl

/-- A quotient of doubles is packed. -/
theorem NotNegative.div_unpack {x y : Float} {m : Nat} {e : Int} {h : 0 < m}
    (hx : x.toModel.unpack = .finite .positive m e h) (hy : Positive y.toModel.unpack) :
    NotNegative (x / y).toModel.unpack := by
  have hquotient : NotNegative (UnpackedFloat.div Format.binary64 x.toModel.unpack
      y.toModel.unpack) := by
    rw [hx]
    exact .div hy
  exact hquotient.unpack_pack

/-- **The reciprocal of the sum of a natural number and a positive one is not negative**, rounded as
both are. -/
theorem NotNegative.one_div (k : Nat) {n : Nat} (hn : 0 < n) :
    NotNegative (Double.ofInt 1 / (Double.ofInt k + Double.ofInt n)).toModel.unpack :=
  NotNegative.div_unpack unpack_one (Positive.unpack_pack (.add (.ofInt k) (.ofInt hn)))

end KnowledgeBase.Double
