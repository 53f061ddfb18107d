import KnowledgeBase.Proofs.Number.Packing

/-!
# The bits of a double

A double is a sign, an exponent and a mantissa, which its bit pattern holds side by side.  The
pattern of a double is the one that it was made from, unless that is one of the many of a NaN.

## Main results

* `Double.toBits_ofBits` — a pattern that is no NaN is that of the double made from it.
* `Double.magnitude_ofMagnitude` — a double has the magnitude that it was made with.
-/

namespace KnowledgeBase.Double

open Float.Model Float.Model.UnpackedFloat

/-! ### Fields -/

theorem toNat_unpackMantissa (b : BitVec Format.binary64.numBits) :
    (unpackMantissa b).toNat = b.toNat % 2 ^ 52 := by
  change (b.extractLsb 51 0).toNat = _
  rw [BitVec.extractLsb_toNat, Nat.shiftRight_eq_div_pow, Nat.pow_zero, Nat.div_one]

theorem toNat_unpackExponent (b : BitVec Format.binary64.numBits) :
    (unpackExponent b).toNat = b.toNat / 2 ^ 52 % 2 ^ 11 := by
  change (b.extractLsb 62 52).toNat = _
  rw [BitVec.extractLsb_toNat, Nat.shiftRight_eq_div_pow]

/-- The pattern without the sign consists of the exponent and the mantissa. -/
theorem toNat_mod_signBit (b : BitVec Format.binary64.numBits) :
    b.toNat % 2 ^ 63 = (unpackExponent b).toNat * 2 ^ 52 + (unpackMantissa b).toNat := by
  rw [toNat_unpackMantissa, toNat_unpackExponent]
  omega

theorem toNat_unpackSign (b : BitVec Format.binary64.numBits) :
    (unpackSign b).toNat = b.toNat / 2 ^ 63 := by
  have hlt : b.toNat < 2 ^ 64 := b.isLt
  change (b.extractLsb 63 63).toNat = _
  rw [BitVec.extractLsb_toNat, Nat.shiftRight_eq_div_pow]
  omega

theorem toNat_packComponents (s : Sign) (e : BitVec 11) (m : BitVec 52) :
    (packComponents Format.binary64 s e m).toNat =
      s.toBitVec.toNat * 2 ^ 63 + e.toNat * 2 ^ 52 + m.toNat := by
  change (s.toBitVec ++ e ++ m).toNat = _
  rw [BitVec.toNat_append, BitVec.toNat_append, ← Nat.shiftLeft_add_eq_or_of_lt e.isLt,
    ← Nat.shiftLeft_add_eq_or_of_lt m.isLt, Nat.shiftLeft_eq, Nat.shiftLeft_eq]
  omega

/-! ### Taking patterns apart -/

/-- The number of a pattern: an infinity or a NaN at the greatest exponent, and at the least one a
number whose mantissa has no leading bit. -/
theorem unpack_eq (b : BitVec Format.binary64.numBits) :
    UnpackedFloat.unpack Format.binary64 b =
      if unpackExponent b = -1#_ then
        if unpackMantissa b = 0#_ then .infinity (Sign.ofBitVec (unpackSign b)) else .notANumber
      else if unpackExponent b = 0#_ then
        if h : unpackMantissa b = 0#_ then .zero (Sign.ofBitVec (unpackSign b))
        else .finite (Sign.ofBitVec (unpackSign b)) (unpackMantissa b).toNat
          ((unpackExponent b).toNat - 1075 + 1)
          (Nat.pos_of_ne_zero fun h' => h (BitVec.eq_of_toNat_eq h'))
      else .finite (Sign.ofBitVec (unpackSign b)) (1#1 ++ unpackMantissa b).toNat
        ((unpackExponent b).toNat - 1075) (by rw [Packing.toNat_leading]; omega) := rfl

/-- In a pattern that is no NaN the greatest exponent is that of infinity. -/
theorem unpack_infinity {b : BitVec Format.binary64.numBits}
    (h : b.toNat % 2 ^ 63 ≤ BinaryFormat.double.infinity) (hexp : unpackExponent b = -1#_) :
    unpackMantissa b = 0#_ ∧
      UnpackedFloat.unpack Format.binary64 b = .infinity (Sign.ofBitVec (unpackSign b)) := by
  have hmant : unpackMantissa b = 0#_ := by
    have hfields := toNat_mod_signBit b
    rw [hexp] at hfields
    change b.toNat % 2 ^ 63 = 2047 * 2 ^ 52 + _ at hfields
    change b.toNat % 2 ^ 63 ≤ 2047 * 2 ^ 52 at h
    apply BitVec.eq_of_toNat_eq
    change _ = 0
    omega
  refine ⟨hmant, ?_⟩
  rw [unpack_eq, if_pos hexp, if_pos hmant]

theorem unpack_subnormal {b : BitVec Format.binary64.numBits} (hexp : unpackExponent b = 0#_)
    (hmant : unpackMantissa b ≠ 0#_) :
    UnpackedFloat.unpack Format.binary64 b =
      .finite (Sign.ofBitVec (unpackSign b)) (unpackMantissa b).toNat (-1074)
        (Nat.pos_of_ne_zero fun h => hmant (BitVec.eq_of_toNat_eq h)) := by
  have hne : unpackExponent b ≠ -1#_ := by
    rw [hexp]
    decide
  rw [unpack_eq, if_neg hne, if_pos hexp, dif_neg hmant, UnpackedFloat.finite.injEq]
  refine ⟨rfl, rfl, ?_⟩
  rw [hexp]
  rfl

/-- Neither least nor greatest is the exponent of a number whose leading bit the pattern leaves
out. -/
theorem unpack_normal {b : BitVec Format.binary64.numBits} (hleast : unpackExponent b ≠ 0#_)
    (hgreatest : unpackExponent b ≠ -1#_) :
    UnpackedFloat.unpack Format.binary64 b = .finite (Sign.ofBitVec (unpackSign b))
      (2 ^ 52 + (unpackMantissa b).toNat) ((unpackExponent b).toNat - 1075 : Int) (by omega) := by
  rw [unpack_eq, if_neg hgreatest, if_neg hleast, UnpackedFloat.finite.injEq]
  exact ⟨rfl, Packing.toNat_leading b, rfl⟩

/-! ### Putting patterns together -/

/-- The pattern of a finite number, which is that of infinity if the exponent is too great. -/
theorem pack_eq (s : Sign) (m : Nat) (e : Int) (h : 0 < m) :
    UnpackedFloat.pack Format.binary64 (.finite s m e h) =
      if 2048 ≤ (e + 1023 + 52).toNat + 1 then packedInfinity Format.binary64 s
      else if m.log2 + 1 = 53 then
        packComponents Format.binary64 s (BitVec.ofNat 11 (e + 1023 + 52).toNat) (BitVec.ofNat 52 m)
      else packComponents Format.binary64 s 0#11 (BitVec.ofNat 52 m) := rfl

theorem pack_normal {s : Sign} {m : Nat} {e : Int} {h : 0 < m} (hm : 2 ^ 52 ≤ m)
    (hm' : m < 2 ^ 53) (he : e ≤ 971) :
    UnpackedFloat.pack Format.binary64 (.finite s m e h) =
      packComponents Format.binary64 s (BitVec.ofNat 11 (e + 1023 + 52).toNat)
        (BitVec.ofNat 52 m) := by
  have hle := (Nat.le_log2 (by omega)).2 hm
  have hlt := (Nat.log2_lt (by omega)).2 hm'
  rw [pack_eq, if_neg (by omega), if_pos (by omega)]

/-- A mantissa without its leading bit is kept as it is. -/
theorem pack_subnormal {s : Sign} {m : Nat} {e : Int} {h : 0 < m} (hm : m < 2 ^ 52)
    (he : e ≤ 971) :
    UnpackedFloat.pack Format.binary64 (.finite s m e h) =
      packComponents Format.binary64 s 0#11 (BitVec.ofNat 52 m) := by
  have hlt := (Nat.log2_lt (by omega)).2 hm
  rw [pack_eq, if_neg (by omega), if_neg (by omega)]

/-- A pattern that is no NaN is valid. -/
theorem valid_of_le_infinity {b : BitVec Format.binary64.numBits}
    (h : b.toNat % 2 ^ 63 ≤ BinaryFormat.double.infinity) : Format.binary64.Valid b :=
  ⟨fun hexp hmant => absurd (unpack_infinity h hexp).1 hmant⟩

/-- **A pattern that is no NaN is that of the double made from it.** -/
theorem toBits_ofBits {b : UInt64} (h : b.toNat % 2 ^ 63 ≤ BinaryFormat.double.infinity) :
    (Float.ofBits b).toBits = b :=
  UInt64.toBitVec_inj.1 (Packing.pack_unpack (by decide) (valid_of_le_infinity h))

/-- A double is made of its bits. -/
theorem unpack_ofBits {b : UInt64} (h : b.toNat % 2 ^ 63 ≤ BinaryFormat.double.infinity) :
    (Float.ofBits b).toModel.unpack = UnpackedFloat.unpack Format.binary64 b.toBitVec :=
  congrArg (UnpackedFloat.unpack Format.binary64)
    (Packing.pack_unpack (by decide) (valid_of_le_infinity h))

/-! ### Magnitudes -/

theorem toBits_ofMagnitude {negative : Bool} {m : Nat} (h : m ≤ BinaryFormat.double.infinity) :
    (ofMagnitude negative m).toBits.toNat =
      m + if negative then BinaryFormat.double.signBit else 0 := by
  have hlt : m ≤ 2047 * 2 ^ 52 := h
  have hbits : (UInt64.ofNat (m + if negative then BinaryFormat.double.signBit else 0)).toNat =
      m + if negative then BinaryFormat.double.signBit else 0 := by
    rw [UInt64.toNat_ofNat']
    change (m + if negative then 2 ^ 63 else 0) % 2 ^ 64 = m + if negative then 2 ^ 63 else 0
    split <;> omega
  rw [ofMagnitude, toBits_ofBits, hbits]
  rw [hbits]
  change (m + if negative then 2 ^ 63 else 0) % 2 ^ 63 ≤ 2047 * 2 ^ 52
  split <;> omega

/-- **A double has the magnitude that it was made with.** -/
theorem magnitude_ofMagnitude {negative : Bool} {m : Nat}
    (h : m ≤ BinaryFormat.double.infinity) : magnitude (ofMagnitude negative m) = m := by
  have hlt : m ≤ 2047 * 2 ^ 52 := h
  rw [magnitude, toBits_ofMagnitude h]
  change (m + if negative then 2 ^ 63 else 0) % 2 ^ 63 = m
  split <;> omega

theorem isNegative_ofMagnitude {negative : Bool} {m : Nat}
    (h : m ≤ BinaryFormat.double.infinity) : isNegative (ofMagnitude negative m) = negative := by
  have hlt : m ≤ 2047 * 2 ^ 52 := h
  rw [isNegative, toBits_ofMagnitude h]
  change decide (2 ^ 63 ≤ m + if negative then 2 ^ 63 else 0) = negative
  cases negative with
  | true => exact decide_eq_true (Nat.le_add_left _ m)
  | false => exact decide_eq_false (by change ¬ 2 ^ 63 ≤ m + 0; omega)

theorem unpack_ofMagnitude {m : Nat} (h : m ≤ BinaryFormat.double.infinity) :
    (ofMagnitude false m).toModel.unpack =
      UnpackedFloat.unpack Format.binary64 (BitVec.ofNat 64 m) := by
  have hlt : m ≤ 2047 * 2 ^ 52 := h
  refine unpack_ofBits ?_
  rw [UInt64.toNat_ofNat']
  change (m + 0) % 2 ^ 64 % 2 ^ 63 ≤ 2047 * 2 ^ 52
  omega

end KnowledgeBase.Double
