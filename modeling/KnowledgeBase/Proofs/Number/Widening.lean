import KnowledgeBase.Proofs.Number.Bits

/-!
# Widening singles

A finite magnitude is a significand shifted by a number of bits.  A number with such a form is its
own nearest magnitude, so that a single is widened without rounding, and narrowing gives it back.

## Main definitions

* `BinaryFormat.Scaled` — a significand that fills the fraction whenever it is shifted.

## Main results

* `BinaryFormat.units_scaled`, `BinaryFormat.round_scaled` — the value of a magnitude, and the
  magnitude of a value.
* `Single.ofDouble_toDouble` — a finite single is widened without loss.
-/

namespace KnowledgeBase

namespace BinaryFormat

variable {f : BinaryFormat} {q s : Nat}

/-- A significand `q` that is to be shifted by `s` bits: it fits the fraction with its leading bit,
and fills it unless it is not shifted. -/
structure Scaled (f : BinaryFormat) (q s : Nat) : Prop where
  fits : q < 2 ^ (f.fraction + 1)
  fills : 0 < s → 2 ^ f.fraction ≤ q

/-- Every magnitude is a significand with its shift. -/
theorem exists_scaled (f : BinaryFormat) (m : Nat) :
    ∃ q s, f.Scaled q s ∧ m = s * 2 ^ f.fraction + q := by
  have hfraction := Nat.mod_lt m (Nat.two_pow_pos f.fraction)
  have hfields := Nat.div_add_mod' m (2 ^ f.fraction)
  rcases Nat.eq_zero_or_pos (m / 2 ^ f.fraction) with hzero | hpos
  · refine ⟨m, 0, ⟨?_, by omega⟩, by omega⟩
    rw [hzero] at hfields
    rw [Nat.pow_succ]
    omega
  · refine ⟨2 ^ f.fraction + m % 2 ^ f.fraction, m / 2 ^ f.fraction - 1, ⟨?_, by omega⟩, ?_⟩
    · rw [Nat.pow_succ]
      omega
    · rw [Nat.sub_one_mul]
      have hle := Nat.le_mul_of_pos_left (2 ^ f.fraction) hpos
      omega

/-- The value of a magnitude is its significand, shifted. -/
theorem units_scaled (h : f.Scaled q s) : f.units (s * 2 ^ f.fraction + q) = q * 2 ^ s := by
  have hpow := Nat.two_pow_pos f.fraction
  have hfits := h.fits
  rw [Nat.pow_succ] at hfits
  rw [units]
  by_cases hlow : q < 2 ^ f.fraction
  · have hs : s = 0 := by
      have hfills := h.fills
      omega
    subst hs
    rw [Nat.zero_mul, Nat.zero_add, Nat.div_eq_of_lt hlow, Nat.mod_eq_of_lt hlow]
    simp
  · have hq : s * 2 ^ f.fraction + q = (q - 2 ^ f.fraction) + 2 ^ f.fraction * (s + 1) := by
      rw [Nat.mul_succ, Nat.mul_comm s]
      omega
    have hrest : q - 2 ^ f.fraction < 2 ^ f.fraction := by omega
    rw [hq, Nat.add_mul_div_left _ _ hpow, Nat.add_mul_mod_self_left, Nat.div_eq_of_lt hrest,
      Nat.mod_eq_of_lt hrest, if_neg (by omega), Nat.zero_add, Nat.add_sub_cancel,
      Nat.add_sub_cancel' (Nat.not_lt.1 hlow)]

theorem log2_mul_pow {n k : Nat} (hn : n ≠ 0) : (n * 2 ^ k).log2 = n.log2 + k := by
  rw [Nat.log2_eq_iff (Nat.ne_of_gt (Nat.mul_pos (Nat.pos_of_ne_zero hn) (Nat.two_pow_pos k)))]
  have hlow := Nat.log2_self_le hn
  have hhigh := Nat.lt_log2_self (n := n)
  constructor
  · rw [Nat.pow_add]
    exact Nat.mul_le_mul_right _ hlow
  · rw [Nat.add_right_comm, Nat.pow_add]
    exact Nat.mul_lt_mul_of_pos_right hhigh (Nat.two_pow_pos k)

theorem logQuotient_pow (n g : Nat) : logQuotient (n * 2 ^ g) (2 ^ g) = n.log2 := by
  rw [logQuotient]
  rcases Nat.eq_zero_or_pos n with rfl | hn
  · have hpow := Nat.two_pow_pos g
    simp
  · have hlow : 2 ^ g * 2 ^ n.log2 ≤ n * 2 ^ g := by
      rw [Nat.mul_comm]
      exact Nat.mul_le_mul_right _ (Nat.log2_self_le (Nat.ne_of_gt hn))
    rw [log2_mul_pow (Nat.ne_of_gt hn), Nat.log2_two_pow, Nat.add_sub_cancel, if_pos hlow]

/-- Exactly the shifted bits are cut off. -/
theorem log2_scaled (h : f.Scaled q s) : (q * 2 ^ s).log2 - f.fraction = s := by
  rcases Nat.eq_zero_or_pos q with rfl | hq
  · have hs : ¬ 0 < s := by
      intro hs
      have hfills := h.fills hs
      have hpow := Nat.two_pow_pos f.fraction
      omega
    rw [Nat.zero_mul]
    change 0 - f.fraction = s
    omega
  · have hlt := (Nat.log2_lt (Nat.ne_of_gt hq)).2 h.fits
    rw [log2_mul_pow (Nat.ne_of_gt hq)]
    rcases Nat.eq_zero_or_pos s with rfl | hs
    · omega
    · have hle := (Nat.le_log2 (Nat.ne_of_gt hq)).2 (h.fills hs)
      omega

/-- **A value that a magnitude has is rounded to that magnitude**, in whatever unit it is
counted. -/
theorem round_scaled (h : f.Scaled q s) (g : Nat) :
    f.round (q * 2 ^ s * 2 ^ g) (2 ^ g) = min f.infinity (s * 2 ^ f.fraction + q) := by
  have hwhole : roundHalfEven (q * 2 ^ s * 2 ^ g) (2 ^ g * 2 ^ s) = q := by
    rw [Nat.mul_assoc, Nat.mul_comm (2 ^ s)]
    exact roundHalfEven_mul q _ (Nat.mul_pos (Nat.two_pow_pos g) (Nat.two_pow_pos s))
  rw [round, logQuotient_pow, log2_scaled h, hwhole]

/-- A finite magnitude is nearest to its own value. -/
theorem round_units {m : Nat} (hm : m < f.infinity) (g : Nat) :
    f.round (f.units m * 2 ^ g) (2 ^ g) = m := by
  obtain ⟨q, s, h, rfl⟩ := exists_scaled f m
  rw [units_scaled h, round_scaled h, Nat.min_eq_right (Nat.le_of_lt hm)]

/-- A significand is moved up until it fills the fraction. -/
theorem scaled_fill (hpos : 0 < q) (hlog : q.log2 ≤ f.fraction) :
    f.Scaled (q * 2 ^ (f.fraction - q.log2)) s := by
  have hlow := Nat.mul_le_mul_right (2 ^ (f.fraction - q.log2))
    (Nat.log2_self_le (Nat.ne_of_gt hpos))
  have hhigh := Nat.mul_lt_mul_of_pos_right (Nat.lt_log2_self (n := q))
    (Nat.two_pow_pos (f.fraction - q.log2))
  rw [← Nat.pow_add, Nat.add_sub_cancel' hlog] at hlow
  rw [← Nat.pow_add, Nat.add_right_comm, Nat.add_sub_cancel' hlog] at hhigh
  exact ⟨hhigh, fun _ => hlow⟩

end BinaryFormat

namespace Single

open BinaryFormat

/-- Every finite single has a value that doubles have too. -/
theorem exists_double {m : Nat} (hm : m < single.infinity) :
    ∃ n < double.infinity, double.units n = single.units m * 2 ^ scaleGap := by
  obtain ⟨q, s, h, rfl⟩ := exists_scaled single m
  replace hm : s * 2 ^ 23 + q < 255 * 2 ^ 23 := hm
  have hq : q < 2 ^ 24 := h.fits
  rw [units_scaled h]
  rcases Nat.eq_zero_or_pos q with rfl | hpos
  · refine ⟨0, by decide, ?_⟩
    rw [Nat.zero_mul, Nat.zero_mul]
    rfl
  have hlog := (Nat.log2_lt (Nat.ne_of_gt hpos)).2 hq
  have hscaled : double.Scaled (q * 2 ^ (52 - q.log2)) (s + 925 - (52 - q.log2)) :=
    scaled_fill hpos (Nat.le_trans (Nat.le_of_lt_succ hlog) (by decide))
  refine ⟨(s + 925 - (52 - q.log2)) * 2 ^ 52 + q * 2 ^ (52 - q.log2), ?_, ?_⟩
  · have hfits : q * 2 ^ (52 - q.log2) < 2 ^ 53 := hscaled.fits
    have hshift : s + 925 - (52 - q.log2) ≤ 1179 := by omega
    calc (s + 925 - (52 - q.log2)) * 2 ^ 52 + q * 2 ^ (52 - q.log2)
        < 1179 * 2 ^ 52 + 2 ^ 53 := Nat.add_lt_add_of_le_of_lt (Nat.mul_le_mul_right _ hshift) hfits
      _ < double.infinity := by decide
  · have hshifts : 52 - q.log2 + (s + 925 - (52 - q.log2)) = s + 925 := by omega
    have hgap : scaleGap = 925 := by decide
    have hunits := units_scaled hscaled
    rw [show double.fraction = 52 from rfl] at hunits
    rw [hunits, Nat.mul_assoc, Nat.mul_assoc, ← Nat.pow_add, ← Nat.pow_add, hgap, hshifts]

/-- A single is its sign and its magnitude. -/
theorem ofMagnitude_magnitude (x : Float32) : ofMagnitude (isNegative x) (magnitude x) = x := by
  have hlt : x.toBits.toNat < 2 ^ 32 := x.toBits.toNat_lt
  have hsum : magnitude x + (if isNegative x then single.signBit else 0) = x.toBits.toNat := by
    rw [magnitude, isNegative]
    change x.toBits.toNat % 2 ^ 31 + (if decide (2 ^ 31 ≤ x.toBits.toNat) then 2 ^ 31 else 0) = _
    simp only [decide_eq_true_eq]
    split <;> omega
  rw [ofMagnitude, hsum, UInt32.ofNat_toNat, ofBits_toBits]

/-- Widening keeps the sign and the value. -/
theorem toDouble_eq {x : Float32} (hx : isFinite x) :
    ∃ n < double.infinity, double.units n = single.units (magnitude x) * 2 ^ scaleGap ∧
      toDouble x = Double.ofMagnitude (isNegative x) n := by
  have hm : magnitude x < single.infinity := of_decide_eq_true hx
  obtain ⟨n, hn, hunits⟩ := exists_double hm
  have hround : double.round (single.units (magnitude x) * 2 ^ scaleGap) 1 = n := by
    have hround := round_units hn 0
    rw [Nat.pow_zero, Nat.mul_one] at hround
    rw [← hunits, hround]
  refine ⟨n, hn, hunits, ?_⟩
  rw [toDouble, if_neg (by omega), if_neg (by omega), hround]

theorem isFinite_toDouble {x : Float32} (hx : isFinite x) : Double.isFinite (toDouble x) := by
  obtain ⟨n, hn, -, heq⟩ := toDouble_eq hx
  rw [heq, Double.isFinite, Double.magnitude_ofMagnitude (Nat.le_of_lt hn)]
  exact decide_eq_true hn

/-- **A finite single is widened without loss**: narrowing gives it back. -/
theorem ofDouble_toDouble {x : Float32} (hx : isFinite x) : ofDouble (toDouble x) = x := by
  have hm : magnitude x < single.infinity := of_decide_eq_true hx
  obtain ⟨n, hn, hunits, heq⟩ := toDouble_eq hx
  have hmagnitude : Double.magnitude (Double.ofMagnitude (isNegative x) n) = n :=
    Double.magnitude_ofMagnitude (Nat.le_of_lt hn)
  have hnumber : Double.isNaN (Double.ofMagnitude (isNegative x) n) = false := by
    rw [Double.isNaN, hmagnitude, decide_eq_false_iff_not]
    omega
  rw [heq, ofDouble, hnumber, hmagnitude, if_neg (by decide), if_neg (by omega),
    Double.isNegative_ofMagnitude (Nat.le_of_lt hn), hunits, round_units hm,
    ofMagnitude_magnitude]

end Single

end KnowledgeBase
