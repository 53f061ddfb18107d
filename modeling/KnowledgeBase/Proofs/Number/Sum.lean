import KnowledgeBase.Proofs.Number.Bits

/-!
# The sum of whole numbers as doubles

A sum of doubles is rounded, and a rounded number may vanish.  The sum of a whole number and a
positive one does not.

## Main definitions

* `Double.Positive` — positive, with an exponent in range.
* `Double.NotNegative` — positive or zero.

## Main results

* `Double.Positive.add` — a sum with a positive double stays positive.
* `Double.magnitude_add_ofInt` — the sum of a natural number and a positive one is not zero.
-/

namespace KnowledgeBase.Double

open Float.Model Float.Model.UnpackedFloat

/-- A positive number, not smaller than the doubles reach. -/
inductive Positive : UnpackedFloat → Prop where
  | infinity : Positive (.infinity .positive)
  | finite {m : Nat} {e : Int} {h : 0 < m} (hm : m < 2 ^ 53) (he : -1074 ≤ e) :
    Positive (.finite .positive m e h)

/-- A positive number or the positive zero. -/
def NotNegative (x : UnpackedFloat) : Prop := x = .zero .positive ∨ Positive x

/-! ### Rounding -/

theorem mantissa_shiftRight (em : ExtendedMantissa) (n : Nat) :
    (em >>> n).mantissa = em.mantissa / 2 ^ n := by
  change (n.repeat ExtendedMantissa.shiftRightOne em).mantissa = _
  induction n with
  | zero => exact (Nat.div_one _).symm
  | succ n ih =>
    rw [Nat.repeat, ExtendedMantissa.shiftRightOne, ih, Nat.div_div_eq_div_mul, Nat.pow_succ]

theorem mantissa_le_rounded (em : ExtendedMantissa) : em.mantissa ≤ em.roundedMantissa := by
  rw [ExtendedMantissa.roundedMantissa]
  cases em.accuracy with
  | exact => exact Nat.le_refl _
  | inexact half =>
    cases half with
    | lt => exact Nat.le_refl _
    | eq => exact Nat.le_add_right _ _
    | gt => exact Nat.le_add_right _ 1

theorem targetExponent_eq (m : Nat) (e : Int) :
    Format.binary64.targetExponent (totalExponent m e) = max (m.log2 + 1 + e - 53) (-1074) := rfl

/-- The number of bits that are shifted out. -/
def shiftAmount (m : Nat) (e : Int) : Nat := (max (m.log2 + 1 + e - 53) (-1074) - e).toNat

/-- A mantissa is shifted to a known place. -/
theorem mantissa_shiftToTarget (m : Nat) (e : Int) (accuracy : Accuracy) :
    (shiftToTargetExponent Format.binary64 m e accuracy).1.mantissa = m / 2 ^ shiftAmount m e := by
  have hmantissa : (ExtendedMantissa.ofMantissaAndAccuracy m accuracy).mantissa = m := by
    cases accuracy with
    | exact => rfl
    | inexact half => cases half <;> rfl
  change (ExtendedMantissa.ofMantissaAndAccuracy m accuracy >>> shiftAmount m e).mantissa = _
  rw [mantissa_shiftRight, hmantissa]

/-- At most 53 bits of a mantissa are kept, with an exponent that is not too small. -/
theorem shiftToTarget_bounds (m : Nat) (e : Int) (accuracy : Accuracy) :
    (shiftToTargetExponent Format.binary64 m e accuracy).1.mantissa < 2 ^ 53 ∧
      -1074 ≤ (shiftToTargetExponent Format.binary64 m e accuracy).2 := by
  have hamount : shiftAmount m e = (max (m.log2 + 1 + e - 53) (-1074) - e).toNat := rfl
  have hhigh : m < 2 ^ (m.log2 + 1) := Nat.lt_log2_self
  constructor
  · rw [mantissa_shiftToTarget, Nat.div_lt_iff_lt_mul (Nat.two_pow_pos _), ← Nat.pow_add]
    exact Nat.lt_of_lt_of_le hhigh (Nat.pow_le_pow_right (by decide) (by omega))
  · change -1074 ≤ e + (shiftAmount m e : Int)
    omega

/-- The leading bit of a mantissa is kept if its exponent is not too small already. -/
theorem shiftToTarget_pos {m : Nat} {e : Int} (hm : 0 < m) (he : -1074 ≤ e) (accuracy : Accuracy) :
    0 < (shiftToTargetExponent Format.binary64 m e accuracy).1.mantissa := by
  have hamount : shiftAmount m e = (max (m.log2 + 1 + e - 53) (-1074) - e).toNat := rfl
  have hlow : 2 ^ m.log2 ≤ m := Nat.log2_self_le (by omega)
  rw [mantissa_shiftToTarget]
  refine Nat.div_pos ?_ (Nat.two_pow_pos _)
  exact Nat.le_trans (Nat.pow_le_pow_right (by decide) (by omega)) hlow

/-- What is rounded is shifted, rounded, and shifted once more for a carry. -/
theorem roundWithAccuracy_eq (s : Sign) (m : Nat) (e : Int) (accuracy : Accuracy) :
    let first := shiftToTargetExponent Format.binary64 m e accuracy
    let second := shiftToTargetExponent Format.binary64 first.1.roundedMantissa first.2 .exact
    UnpackedFloat.roundWithAccuracy Format.binary64 s m e accuracy =
      if h : second.1.mantissa = 0 then .zero s
      else .finite s second.1.mantissa second.2 (Nat.pos_of_ne_zero h) := rfl

/-- What is rounded with a positive sign may vanish, but is not too small otherwise. -/
theorem NotNegative.roundWithAccuracy (m : Nat) (e : Int) (accuracy : Accuracy) :
    NotNegative (UnpackedFloat.roundWithAccuracy Format.binary64 .positive m e accuracy) := by
  rw [roundWithAccuracy_eq]
  generalize shiftToTargetExponent Format.binary64 m e accuracy = first
  have hbounds := shiftToTarget_bounds first.1.roundedMantissa first.2 .exact
  generalize shiftToTargetExponent Format.binary64 first.1.roundedMantissa first.2 .exact = second
    at hbounds ⊢
  by_cases hzero : second.1.mantissa = 0
  · rw [dif_pos hzero]
    exact .inl rfl
  · rw [dif_neg hzero]
    exact .inr (.finite hbounds.1 hbounds.2)

/-- What is positive and not too small stays so when it is rounded. -/
theorem Positive.roundWithAccuracy {m : Nat} {e : Int} (hm : 0 < m) (he : -1074 ≤ e) :
    Positive (UnpackedFloat.roundWithAccuracy Format.binary64 .positive m e .exact) := by
  refine (NotNegative.roundWithAccuracy m e .exact).resolve_left ?_
  have hfirst := shiftToTarget_pos hm he .exact
  have hsecond := shiftToTarget_pos (Nat.lt_of_lt_of_le hfirst (mantissa_le_rounded _))
    (shiftToTarget_bounds m e .exact).2 .exact
  rw [roundWithAccuracy_eq, dif_neg (Nat.ne_of_gt hsecond)]
  exact UnpackedFloat.noConfusion

theorem Positive.round {m : Nat} {e : Int} (hm : 0 < m) (he : -1074 ≤ e) :
    Positive (UnpackedFloat.round Format.binary64 .positive m e) := by
  rw [UnpackedFloat.round]
  refine Positive.roundWithAccuracy ?_ ?_
  · rw [Nat.shiftLeft_eq]
    exact Nat.mul_pos hm (Nat.two_pow_pos _)
  · rw [targetExponent_eq]
    omega

theorem Positive.normalize {n : Nat} {e : Int} {s : Sign} (hn : 0 < n) (he : -1074 ≤ e) :
    Positive (UnpackedFloat.normalize Format.binary64 n e s) := by
  have hcompare : compare (n : Int) 0 = .gt := Int.compare_eq_gt.2 (by omega)
  rw [UnpackedFloat.normalize, hcompare]
  exact Positive.round hn he

/-! ### Adding and packing -/

/-- **A sum with a positive double stays positive.** -/
theorem Positive.add {x y : UnpackedFloat} (hx : NotNegative x) (hy : Positive y) :
    Positive (UnpackedFloat.add Format.binary64 x y) := by
  rcases hx with rfl | hx
  · cases hy with
    | infinity => exact .infinity
    | finite hm he => exact .finite hm he
  · cases hx with
    | infinity => cases hy <;> exact .infinity
    | @finite m e h hm he =>
      cases hy with
      | infinity => exact .infinity
      | @finite m' e' h' hm' he' =>
        have hpos (k n : Nat) (hk : 0 < k) : 0 < k <<< n := by
          rw [Nat.shiftLeft_eq]
          exact Nat.mul_pos hk (Nat.two_pow_pos n)
        have hsum := Nat.add_pos_left (hpos m (e - min e e').toNat h) (m' <<< (e' - min e e').toNat)
        exact Positive.normalize hsum (by omega)

theorem NotNegative.add {x y : UnpackedFloat} (hx : NotNegative x) (hy : NotNegative y) :
    NotNegative (UnpackedFloat.add Format.binary64 x y) := by
  rcases hy with rfl | hy
  · rcases hx with rfl | hx
    · exact .inl rfl
    · cases hx with
      | infinity => exact .inr .infinity
      | finite hm he => exact .inr (.finite hm he)
  · exact .inr (.add hx hy)

/-- A positive number is packed into a pattern without a sign, which is neither zero nor a NaN. -/
theorem Positive.pack_bounds {x : UnpackedFloat} (hx : Positive x) :
    0 < (UnpackedFloat.pack Format.binary64 x).toNat ∧
      (UnpackedFloat.pack Format.binary64 x).toNat ≤ BinaryFormat.double.infinity := by
  cases hx with
  | infinity => decide
  | @finite m e h hm he =>
    -- too great a number is packed as infinity, which is the greatest of these patterns
    by_cases hover : 971 < e
    · rw [pack_eq, if_pos (by omega)]
      decide
    by_cases hnormal : 2 ^ 52 ≤ m
    · rw [pack_normal hnormal hm (by omega), toNat_packComponents, BitVec.toNat_ofNat,
        BitVec.toNat_ofNat]
      change 0 < 0 * 2 ^ 63 + _ % 2 ^ 11 * 2 ^ 52 + _ ∧
        0 * 2 ^ 63 + _ % 2 ^ 11 * 2 ^ 52 + _ ≤ 2047 * 2 ^ 52
      omega
    · rw [pack_subnormal (by omega) (by omega), toNat_packComponents, BitVec.toNat_ofNat]
      change 0 < 0 * 2 ^ 63 + 0 * 2 ^ 52 + m % 2 ^ 52 ∧
        0 * 2 ^ 63 + 0 * 2 ^ 52 + m % 2 ^ 52 ≤ 2047 * 2 ^ 52
      omega

/-- The pattern of a positive magnitude is that of a positive number. -/
theorem Positive.unpack {m : Nat} (hpos : 0 < m) (hm : m ≤ BinaryFormat.double.infinity) :
    Positive (UnpackedFloat.unpack Format.binary64 (BitVec.ofNat 64 m)) := by
  have hlt : m ≤ 2047 * 2 ^ 52 := hm
  obtain ⟨b, hb⟩ : ∃ b : BitVec Format.binary64.numBits, b = BitVec.ofNat 64 m := ⟨_, rfl⟩
  have hnat : b.toNat = m := by
    rw [hb]
    change m % 2 ^ 64 = m
    omega
  have hsign : Sign.ofBitVec (unpackSign b) = .positive := by
    have hzero : unpackSign b = 0#1 := by
      apply BitVec.eq_of_toNat_eq
      rw [toNat_unpackSign, hnat]
      change _ = 0
      omega
    rw [hzero]
    rfl
  have hmant : (unpackMantissa b).toNat < 2 ^ 52 := (unpackMantissa b).isLt
  have hfields := toNat_mod_signBit b
  rw [← hb]
  by_cases hgreatest : unpackExponent b = -1#_
  · have hle : b.toNat % 2 ^ 63 ≤ BinaryFormat.double.infinity :=
      Nat.le_trans (Nat.mod_le _ _) (hnat ▸ hm)
    rw [(unpack_infinity hle hgreatest).2, hsign]
    exact .infinity
  by_cases hleast : unpackExponent b = 0#_
  · have hne : unpackMantissa b ≠ 0#_ := by
      intro hzero
      rw [hleast, hzero] at hfields
      change b.toNat % 2 ^ 63 = 0 at hfields
      omega
    rw [unpack_subnormal hleast hne, hsign]
    exact .finite (by omega) (by decide)
  · have hexp : (unpackExponent b).toNat ≠ 0 := by
      intro hzero
      exact hleast (BitVec.eq_of_toNat_eq hzero)
    rw [unpack_normal hleast hgreatest, hsign]
    exact .finite (by omega) (by omega)

/-! ### Whole numbers -/

theorem round_le_infinity (num den : Nat) :
    BinaryFormat.double.round num den ≤ BinaryFormat.double.infinity := Nat.min_le_left _ _

/-- A positive whole number is not rounded to zero. -/
theorem round_units_pos {n : Nat} (hn : 0 < n) :
    0 < BinaryFormat.double.round (n * 2 ^ BinaryFormat.double.unitScale) 1 := by
  have hlog : 54 ≤ (n * 2 ^ BinaryFormat.double.unitScale).log2 := by
    rw [Nat.le_log2 (Nat.ne_of_gt (Nat.mul_pos hn (Nat.two_pow_pos _)))]
    exact Nat.le_trans (Nat.pow_le_pow_right (by decide) (by decide))
      (Nat.le_mul_of_pos_left _ hn)
  have hshift : 0 < logQuotient (n * 2 ^ BinaryFormat.double.unitScale) 1 - 52 := by
    generalize n * 2 ^ BinaryFormat.double.unitScale = num at *
    rw [logQuotient]
    have hone : Nat.log2 1 = 0 := rfl
    split <;> omega
  refine Nat.lt_min.2 ⟨by decide, Nat.add_pos_left (Nat.mul_pos hshift ?_) _⟩
  exact Nat.two_pow_pos _

theorem ofInt_natCast (n : Nat) : ofInt n =
    ofMagnitude false (BinaryFormat.double.round (n * 2 ^ BinaryFormat.double.unitScale) 1) := by
  have hsign : decide ((n : Int) < 0) = false := by
    rw [decide_eq_false_iff_not]
    omega
  rw [ofInt, hsign, Int.natAbs_natCast]

theorem Positive.ofInt {n : Nat} (hn : 0 < n) : Positive (ofInt n).toModel.unpack := by
  rw [ofInt_natCast, unpack_ofMagnitude (round_le_infinity _ _)]
  exact .unpack (round_units_pos hn) (round_le_infinity _ _)

theorem NotNegative.ofInt (n : Nat) : NotNegative (ofInt n).toModel.unpack := by
  rcases Nat.eq_zero_or_pos n with rfl | hn
  · left
    rw [ofInt_natCast, Nat.zero_mul, unpack_ofMagnitude (round_le_infinity _ _)]
    rfl
  · exact .inr (.ofInt hn)

/-- **The sum of a natural number and a positive one is not zero**, rounded as it is. -/
theorem magnitude_add_ofInt (k : Nat) {n : Nat} (hn : 0 < n) :
    magnitude (ofInt k + ofInt n) ≠ 0 := by
  obtain ⟨hpos, hle⟩ := Positive.pack_bounds (.add (.ofInt k) (.ofInt hn))
  have hlt := Nat.lt_of_le_of_lt hle (by decide : _ < BinaryFormat.double.signBit)
  exact Nat.ne_of_gt (Nat.lt_of_lt_of_eq hpos (Nat.mod_eq_of_lt hlt).symm)

end KnowledgeBase.Double
