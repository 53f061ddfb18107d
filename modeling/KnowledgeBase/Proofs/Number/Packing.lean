import KnowledgeBase.Number.Double

/-!
# Packing floating-point numbers

A number of any binary format is packed into a pattern of three fields: the sign, the biased
exponent, and the mantissa without its leading bit.  Taking a valid pattern apart and putting it
together again returns it.

## Main results

* `Packing.packComponents_unpack` — a pattern consists of its fields.
* `Packing.pack_unpack` — a valid pattern is returned.
* `Double.ofBits_toBits`, `Single.ofBits_toBits` — a number is made of its bits.
-/

namespace KnowledgeBase

namespace Packing

open Float.Model Float.Model.UnpackedFloat

variable {spec : Format} {b : BitVec spec.numBits}

/-! ### Fields -/

/-- A pattern consists of its fields. -/
theorem packComponents_unpack (b : BitVec spec.numBits) :
    packComponents spec (Sign.ofBitVec (unpackSign b)) (unpackExponent b) (unpackMantissa b) =
      b := by
  have hsign : (Sign.ofBitVec (unpackSign b)).toBitVec = unpackSign b := by
    rcases BitVec.eq_zero_or_eq_one (unpackSign b) with h | h <;> rw [h] <;> rfl
  have hm := spec.hm
  have he := spec.he
  rw [packComponents, hsign]
  -- each bit lies in one of the three fields
  apply BitVec.eq_of_getLsbD_eq
  intro i hi
  unfold unpackSign unpackExponent unpackMantissa
  simp only [BitVec.getLsbD_append, BitVec.getLsbD_cast, BitVec.getLsbD_extractLsb]
  grind

/-- The leading bit is put before the mantissa. -/
theorem toNat_leading (b : BitVec spec.numBits) :
    (1#1 ++ unpackMantissa b).toNat =
      2 ^ spec.mantissaBitsWithoutImplicit + (unpackMantissa b).toNat := by
  rw [BitVec.toNat_append, ← Nat.shiftLeft_add_eq_or_of_lt (unpackMantissa b).isLt,
    Nat.shiftLeft_eq]
  simp

/-- The greatest exponent is that of infinity and of the NaN. -/
theorem toNat_exponent_lt (hexp : unpackExponent b ≠ -1#_) :
    (unpackExponent b).toNat + 1 < 2 ^ spec.exponentBits := by
  have hlt := (unpackExponent b).isLt
  have hne : (unpackExponent b).toNat ≠ 2 ^ spec.exponentBits - 1 := by
    intro hlast
    apply hexp
    apply BitVec.eq_of_toNat_eq
    rw [hlast, BitVec.neg_one_eq_allOnes, BitVec.toNat_allOnes]
  omega

/-! ### Putting patterns together -/

/-- A number whose mantissa has its leading bit, with an exponent in range. -/
theorem pack_normal {s : Sign} {m : Nat} {e : Int} {h : 0 < m}
    (hexp : (e + spec.exponentBias + spec.mantissaBitsWithoutImplicit).toNat + 1 <
      2 ^ spec.exponentBits)
    (hlow : 2 ^ spec.mantissaBitsWithoutImplicit ≤ m)
    (hhigh : m < 2 ^ (spec.mantissaBitsWithoutImplicit + 1)) :
    UnpackedFloat.pack spec (.finite s m e h) =
      packComponents spec s
        (BitVec.ofNat _ (e + spec.exponentBias + spec.mantissaBitsWithoutImplicit).toNat)
        (BitVec.ofNat _ m) := by
  have hle := (Nat.le_log2 (Nat.ne_of_gt h)).2 hlow
  have hlt := (Nat.log2_lt (Nat.ne_of_gt h)).2 hhigh
  unfold UnpackedFloat.pack Format.mantissaBits
  simp only
  rw [if_neg (Nat.not_le.2 hexp), if_pos (by omega)]

/-- A mantissa without its leading bit is kept as it is. -/
theorem pack_subnormal {s : Sign} {m : Nat} {e : Int} {h : 0 < m}
    (hexp : (e + spec.exponentBias + spec.mantissaBitsWithoutImplicit).toNat + 1 <
      2 ^ spec.exponentBits)
    (hhigh : m < 2 ^ spec.mantissaBitsWithoutImplicit) :
    UnpackedFloat.pack spec (.finite s m e h) = packComponents spec s 0#_ (BitVec.ofNat _ m) := by
  have hlt := (Nat.log2_lt (Nat.ne_of_gt h)).2 hhigh
  unfold UnpackedFloat.pack Format.mantissaBits
  simp only
  rw [if_neg (Nat.not_le.2 hexp), if_neg (by omega)]

/-- Infinities and the one not-a-number are returned. -/
theorem pack_unpack_of_greatest (hvalid : spec.Valid b) (hgreatest : unpackExponent b = -1#_) :
    UnpackedFloat.pack spec (UnpackedFloat.unpack spec b) = b := by
  have hfields := packComponents_unpack b
  unfold UnpackedFloat.unpack
  rw [if_pos hgreatest]
  by_cases hmant : unpackMantissa b = 0#_
  · rw [if_pos hmant]
    rw [hgreatest, hmant] at hfields
    exact hfields
  · rw [if_neg hmant]
    exact (hvalid.eq_packedNaN hgreatest hmant).symm

/-- Zeros and subnormal numbers are returned. -/
theorem pack_unpack_of_least (hwidth : 2 ≤ spec.exponentBits)
    (hgreatest : unpackExponent b ≠ -1#_) (hleast : unpackExponent b = 0#_) :
    UnpackedFloat.pack spec (UnpackedFloat.unpack spec b) = b := by
  have hm : (unpackMantissa b).toNat < 2 ^ spec.mantissaBitsWithoutImplicit :=
    (unpackMantissa b).isLt
  have hwide : 2 ^ 2 ≤ 2 ^ spec.exponentBits := Nat.pow_le_pow_right (by decide) hwidth
  have hfields := packComponents_unpack b
  rw [hleast] at hfields
  unfold UnpackedFloat.unpack
  rw [if_neg hgreatest, if_pos hleast]
  by_cases hmant : unpackMantissa b = 0#_
  · rw [dif_pos hmant]
    rw [hmant] at hfields
    exact hfields
  · rw [dif_neg hmant, pack_subnormal _ hm, BitVec.ofNat_toNat, BitVec.setWidth_eq]
    · exact hfields
    · rw [hleast, BitVec.toNat_zero]
      omega

/-- Normal numbers are returned: the leading bit is added, and left out again. -/
theorem pack_unpack_of_between (hwidth : 2 ≤ spec.exponentBits)
    (hgreatest : unpackExponent b ≠ -1#_) (hleast : unpackExponent b ≠ 0#_) :
    UnpackedFloat.pack spec (UnpackedFloat.unpack spec b) = b := by
  have hm : (unpackMantissa b).toNat < 2 ^ spec.mantissaBitsWithoutImplicit :=
    (unpackMantissa b).isLt
  have hwide : 2 ^ 2 ≤ 2 ^ spec.exponentBits := Nat.pow_le_pow_right (by decide) hwidth
  have hlt := toNat_exponent_lt hgreatest
  have hbiased : (((unpackExponent b).toNat : Int) -
      (spec.exponentBias + spec.mantissaBitsWithoutImplicit) + spec.exponentBias +
        spec.mantissaBitsWithoutImplicit).toNat = (unpackExponent b).toNat := by omega
  have hdrop : BitVec.ofNat spec.mantissaBitsWithoutImplicit
      (2 ^ spec.mantissaBitsWithoutImplicit + (unpackMantissa b).toNat) = unpackMantissa b := by
    apply BitVec.eq_of_toNat_eq
    rw [BitVec.toNat_ofNat, Nat.add_mod_left, Nat.mod_eq_of_lt hm]
  unfold UnpackedFloat.unpack
  rw [if_neg hgreatest, if_neg hleast, pack_normal, hbiased, toNat_leading, hdrop,
    BitVec.ofNat_toNat, BitVec.setWidth_eq]
  · exact packComponents_unpack b
  · rw [hbiased]
    exact hlt
  · rw [toNat_leading]
    omega
  · rw [toNat_leading, Nat.pow_succ]
    omega

/-- **A valid pattern is returned** when it is taken apart and put together. -/
theorem pack_unpack (hwidth : 2 ≤ spec.exponentBits) (hvalid : spec.Valid b) :
    UnpackedFloat.pack spec (UnpackedFloat.unpack spec b) = b := by
  by_cases hgreatest : unpackExponent b = -1#_
  · exact pack_unpack_of_greatest hvalid hgreatest
  · by_cases hleast : unpackExponent b = 0#_
    · exact pack_unpack_of_least hwidth hgreatest hleast
    · exact pack_unpack_of_between hwidth hgreatest hleast

end Packing

/-- A double is made of its bits. -/
theorem Double.ofBits_toBits (x : Float) : Float.ofBits x.toBits = x := by
  obtain ⟨⟨bits, hvalid⟩⟩ := x
  have hbits : (Float.ofBits bits).toBits = bits :=
    UInt64.toBitVec_inj.1 (Packing.pack_unpack (by decide) hvalid)
  exact congrArg Float.ofModel ((Float.Model.mk.injEq ..).mpr hbits)

/-- A single is made of its bits. -/
theorem Single.ofBits_toBits (x : Float32) : Float32.ofBits x.toBits = x := by
  obtain ⟨⟨bits, hvalid⟩⟩ := x
  have hbits : (Float32.ofBits bits).toBits = bits :=
    UInt32.toBitVec_inj.1 (Packing.pack_unpack (by decide) hvalid)
  exact congrArg Float32.ofModel ((Float32.Model.mk.injEq ..).mpr hbits)

end KnowledgeBase
