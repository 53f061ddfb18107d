import Mathlib.Tactic.ByContra
import KnowledgeBase.Proofs.Search.Exactness

/-!
# When candidates can be put in order at all

Scores that cannot be compared count as equal, so that ids decide between them.  Among three
candidates this may go round in a circle: one is before another by its score, and a third one, whose
score is a NaN, is after the other and before the one by its id.  No list of all candidates is then
in order, and what fusion answers depends on the order in which it meets them.  This is the only way
in which that can happen.

## Main definitions

* `Fusion.Consistent` — a list in which nothing stands before what it has to stand after.
* `Fusion.Clash` — three candidates that go round in a circle.

## Main results

* `Fusion.Clash.not_consistent` — with a clash no list of the candidates is consistent.
* `Fusion.consistent_sorted` — without one they are sorted into such a list.
* `Fusion.consistent_iff` — fusion is consistent when there is no clash, and only then.
-/

namespace KnowledgeBase.Fusion

open Std

/-- No candidate compares strictly after one that follows it. -/
def Consistent (fs : List (Fused Float)) : Prop := fs.Pairwise fun a b => order a b ≠ .gt

instance (fs : List (Fused Float)) : Decidable (Consistent fs) :=
  inferInstanceAs (Decidable (fs.Pairwise fun a b => order a b ≠ .gt))

/-- Three candidates, of which the first has a greater score than the last, and the last a smaller
id than the first; between them by its id is one whose score is a NaN. -/
def Clash (fs : List (Fused Float)) : Prop :=
  ∃ x ∈ fs, ∃ y ∈ fs, ∃ z ∈ fs, Score.compare? x.score z.score = some .gt ∧
    Double.isNaN y.score = true ∧ Text.bytes z.id < Text.bytes y.id ∧
      Text.bytes y.id < Text.bytes x.id

instance (fs : List (Fused Float)) : Decidable (Clash fs) :=
  inferInstanceAs (Decidable (∃ x ∈ fs, ∃ y ∈ fs, ∃ z ∈ fs, _))

theorem Clash.mono {fs gs : List (Fused Float)} (h : Clash fs) (hsub : fs ⊆ gs) : Clash gs := by
  obtain ⟨x, hx, y, hy, z, hz, hclash⟩ := h
  exact ⟨x, hsub hx, y, hsub hy, z, hsub hz, hclash⟩

/-! ### Comparing candidates -/

theorem compare_id_eq_lt {s t : String} : compare s t = .lt ↔ Text.bytes s < Text.bytes t := by
  rw [← Text.lt_iff_bytes_lt]
  exact compareOfLessAndEq_eq_lt

section

variable {a b : Fused Float}

/-- Next to a NaN the ids decide. -/
theorem order_of_nan (h : Double.isNaN a.score = true ∨ Double.isNaN b.score = true) :
    order a b = compare a.id b.id := by
  have hnone : Score.compare? b.score a.score = none :=
    (Double.compare?_eq_none_iff b.score a.score).2 h.symm
  rw [order, hnone]
  rfl

theorem comparable_pair (ha : Double.isNaN a.score = false) (hb : Double.isNaN b.score = false) :
    Comparable Double.key [a, b] := by
  refine comparable_of_not_nan ?_
  simp [ha, hb]

/-- Elsewhere the order is that of the keys. -/
theorem order_of_not_nan (ha : Double.isNaN a.score = false) (hb : Double.isNaN b.score = false) :
    order a b = keyOrder Double.key a b :=
  (comparable_pair ha hb).order_eq (by simp) (by simp)

theorem compare?_of_not_nan (ha : Double.isNaN a.score = false)
    (hb : Double.isNaN b.score = false) :
    Score.compare? a.score b.score = some (compare (Double.key a.score) (Double.key b.score)) :=
  comparable_pair ha hb a (by simp) b (by simp)

/-- Turned round, the order is the opposite one. -/
theorem order_swap (a b : Fused Float) : order b a = (order a b).swap := by
  by_cases hnan : Double.isNaN a.score = true ∨ Double.isNaN b.score = true
  · rw [order_of_nan hnan, order_of_nan hnan.symm]
    exact OrientedOrd.eq_swap
  · rw [not_or, Bool.not_eq_true, Bool.not_eq_true] at hnan
    rw [order_of_not_nan hnan.1 hnan.2, order_of_not_nan hnan.2 hnan.1]
    exact OrientedCmp.eq_swap

/-- Only candidates of one id are level. -/
theorem id_eq_of_order (h : order a b = .eq) : a.id = b.id := by
  rw [order, Ordering.then_eq_eq] at h
  exact LawfulEqOrd.eq_of_compare h.2

/-- The candidate with the greater score comes first. -/
theorem order_of_gt (h : Score.compare? a.score b.score = some .gt) : order a b = .lt := by
  have hnan : ¬ (Double.isNaN a.score = true ∨ Double.isNaN b.score = true) := by
    rw [← Double.compare?_eq_none_iff]
    intro hnone
    cases hnone.symm.trans h
  rw [not_or, Bool.not_eq_true, Bool.not_eq_true] at hnan
  rw [compare?_of_not_nan hnan.1 hnan.2, Option.some_inj] at h
  rw [order, compare?_of_not_nan hnan.2 hnan.1, Option.getD_some, OrientedCmp.lt_of_gt h]
  rfl

/-- Of two candidates in order, the first has the greater score, or the ids are in order too. -/
theorem gt_or_id_of_isLE (ha : Double.isNaN a.score = false) (hb : Double.isNaN b.score = false)
    (h : (order a b).isLE = true) :
    Score.compare? a.score b.score = some .gt ∨ (compare a.id b.id).isLE = true := by
  rw [order, compare?_of_not_nan hb ha, Option.getD_some] at h
  rw [compare?_of_not_nan ha hb]
  cases hcmp : compare (Double.key b.score) (Double.key a.score) with
  | lt => exact .inl (congrArg some (OrientedCmp.gt_of_lt hcmp))
  | eq =>
    rw [hcmp] at h
    exact .inr h
  | gt =>
    rw [hcmp] at h
    cases h

/-- Of two candidates whose ids are in order, they are so themselves, or the second has the greater
score. -/
theorem isLE_or_gt_of_id (ha : Double.isNaN a.score = false) (hb : Double.isNaN b.score = false)
    (h : (compare a.id b.id).isLE = true) :
    (order a b).isLE = true ∨ Score.compare? b.score a.score = some .gt := by
  rw [order, compare?_of_not_nan hb ha, Option.getD_some]
  cases hcmp : compare (Double.key b.score) (Double.key a.score) with
  | lt => exact .inl rfl
  | eq => exact .inl h
  | gt => exact .inr rfl

end

/-! ### Without a clash -/

section

variable {fs : List (Fused Float)}

/-- Ids in order, of which the first and the last are not level with the one between them, are
strictly so. -/
theorem bytes_lt_of_isLE {s t : String} (h : (compare s t).isLE = true) (hne : s ≠ t) :
    Text.bytes s < Text.bytes t := by
  rw [← compare_id_eq_lt]
  cases hcmp : compare s t with
  | lt => rfl
  | eq => exact absurd (LawfulEqOrd.eq_of_compare hcmp) hne
  | gt =>
    rw [hcmp] at h
    cases h

theorem bytes_lt_of_not_isLE {s t : String} (h : ¬ (compare s t).isLE = true) :
    Text.bytes t < Text.bytes s := by
  rw [← compare_id_eq_lt]
  cases hcmp : compare s t with
  | gt => exact OrientedCmp.lt_of_gt hcmp
  | lt =>
    rw [hcmp] at h
    exact absurd rfl h
  | eq =>
    rw [hcmp] at h
    exact absurd rfl h

/-- A candidate whose score is a NaN has an id of its own. -/
theorem id_ne_of_nan (hids : ∀ a ∈ fs, ∀ b ∈ fs, a.id = b.id → a = b) {a b : Fused Float}
    (ha : a ∈ fs) (hb : b ∈ fs) (hnan : Double.isNaN a.score = true)
    (hnot : Double.isNaN b.score = false) : a.id ≠ b.id := by
  intro hid
  rw [hids a ha b hb hid, hnot] at hnan
  cases hnan

/-- **Without a clash the order is transitive.**  Where two of the three candidates are compared by
their scores and the third has none, the ids go the same way, or there would be a clash. -/
theorem isLE_trans_of_not_clash (hids : ∀ a ∈ fs, ∀ b ∈ fs, a.id = b.id → a = b)
    (hclash : ¬ Clash fs) {a b c : Fused Float} (ha : a ∈ fs) (hb : b ∈ fs) (hc : c ∈ fs)
    (hab : (order a b).isLE = true) (hbc : (order b c).isLE = true) : (order a c).isLE = true := by
  cases hna : Double.isNaN a.score with
  | true =>
    rw [order_of_nan (.inl hna)] at hab ⊢
    cases hnb : Double.isNaN b.score with
    | true =>
      rw [order_of_nan (.inl hnb)] at hbc
      exact TransCmp.isLE_trans hab hbc
    | false =>
      cases hnc : Double.isNaN c.score with
      | true =>
        rw [order_of_nan (.inr hnc)] at hbc
        exact TransCmp.isLE_trans hab hbc
      | false =>
        rcases gt_or_id_of_isLE hnb hnc hbc with hgt | hid
        · by_contra hca
          have hlt := bytes_lt_of_isLE hab (id_ne_of_nan hids ha hb hna hnb)
          exact hclash ⟨b, hb, a, ha, c, hc, hgt, hna, bytes_lt_of_not_isLE hca, hlt⟩
        · exact TransCmp.isLE_trans hab hid
  | false =>
    cases hnb : Double.isNaN b.score with
    | true =>
      rw [order_of_nan (.inr hnb)] at hab
      rw [order_of_nan (.inl hnb)] at hbc
      have hac := TransCmp.isLE_trans hab hbc
      cases hnc : Double.isNaN c.score with
      | true =>
        rw [order_of_nan (.inr hnc)]
        exact hac
      | false =>
        rcases isLE_or_gt_of_id hna hnc hac with hle | hgt
        · exact hle
        · have hlt := bytes_lt_of_isLE hab (id_ne_of_nan hids hb ha hnb hna).symm
          have hlt' := bytes_lt_of_isLE hbc (id_ne_of_nan hids hb hc hnb hnc)
          exact absurd ⟨c, hc, b, hb, a, ha, hgt, hnb, hlt, hlt'⟩ hclash
    | false =>
      cases hnc : Double.isNaN c.score with
      | true =>
        rw [order_of_nan (.inr hnc)] at hbc ⊢
        rcases gt_or_id_of_isLE hna hnb hab with hgt | hid
        · by_contra hca
          have hlt := bytes_lt_of_isLE hbc (id_ne_of_nan hids hc hb hnc hnb).symm
          exact hclash ⟨a, ha, c, hc, b, hb, hgt, hnc, hlt, bytes_lt_of_not_isLE hca⟩
        · exact TransCmp.isLE_trans hid hbc
      | false =>
        rw [order_of_not_nan hna hnb] at hab
        rw [order_of_not_nan hnb hnc] at hbc
        rw [order_of_not_nan hna hnc]
        exact TransCmp.isLE_trans hab hbc

/-- **Without a clash candidates are sorted consistently.** -/
theorem consistent_sorted (hids : ∀ a ∈ fs, ∀ b ∈ fs, a.id = b.id → a = b)
    (hclash : ¬ Clash fs) : Consistent (sorted fs) := by
  -- on the candidates alone the order is transitive, so they are sorted as a type of their own
  have hsorted : (fs.attach.mergeSort fun a b => (order a.1 b.1).isLE).Pairwise
      fun a b => (order a.1 b.1).isLE = true := by
    refine List.pairwise_mergeSort ?_ ?_ fs.attach
    · intro a b c
      exact isLE_trans_of_not_clash hids hclash a.2 b.2 c.2
    · intro a b
      rw [order_swap a.1 b.1]
      cases order a.1 b.1 <;> rfl
  have hmap : (fs.attach.mergeSort fun a b => (order a.1 b.1).isLE).map Subtype.val =
      sorted fs := by
    rw [List.map_mergeSort (s := fun a b => (order a b).isLE) fun _ _ _ _ => rfl,
      List.attach_map_subtype_val]
    rfl
  rw [Consistent, ← hmap, List.pairwise_map]
  refine hsorted.imp ?_
  intro a b hle hgt
  rw [hgt] at hle
  cases hle

/-- Two consistent lists of the same candidates are the same. -/
theorem Consistent.eq_of_perm (hids : ∀ a ∈ fs, ∀ b ∈ fs, a.id = b.id → a = b)
    {out out' : List (Fused Float)} (h : Consistent out) (h' : Consistent out')
    (hperm : out.Perm fs) (hperm' : out'.Perm fs) : out = out' := by
  refine List.Perm.eq_of_pairwise ?_ h h' (hperm.trans hperm'.symm)
  intro a b ha hb hab hba
  refine hids a (hperm.mem_iff.1 ha) b (hperm'.mem_iff.1 hb) ?_
  rw [order_swap] at hba
  cases hcmp : order a b with
  | eq => exact id_eq_of_order hcmp
  | lt =>
    rw [hcmp] at hba
    exact absurd rfl hba
  | gt => exact absurd hcmp hab

/-! ### With a clash -/

/-- Where one candidate comes before another, it stands before it. -/
theorem Consistent.lt_of_order {out : List (Fused Float)} (h : Consistent out) {i j : Nat}
    (hi : i < out.length) (hj : j < out.length) (hlt : order out[i] out[j] = .lt) : i < j := by
  have hgt : order out[j] out[i] = .gt := by
    rw [order_swap, hlt]
    rfl
  by_contra hle
  rcases Nat.lt_or_eq_of_le (Nat.not_lt.1 hle) with hji | rfl
  · exact List.pairwise_iff_getElem.1 h j i hj hi hji hgt
  · rw [hlt] at hgt
    cases hgt

/-- **With a clash no list of the candidates is consistent.** -/
theorem Clash.not_consistent (h : Clash fs) {out : List (Fused Float)} (hperm : out.Perm fs) :
    ¬ Consistent out := by
  intro hout
  obtain ⟨x, hx, y, hy, z, hz, hscore, hnan, hzy, hyx⟩ := h
  have hxz : order x z = .lt := order_of_gt hscore
  have hzy' : order z y = .lt := by
    rw [order_of_nan (.inr hnan)]
    exact compare_id_eq_lt.2 hzy
  have hyx' : order y x = .lt := by
    rw [order_of_nan (.inl hnan)]
    exact compare_id_eq_lt.2 hyx
  obtain ⟨i, hi, rfl⟩ := List.getElem_of_mem (hperm.mem_iff.2 hx)
  obtain ⟨j, hj, rfl⟩ := List.getElem_of_mem (hperm.mem_iff.2 hy)
  obtain ⟨k, hk, rfl⟩ := List.getElem_of_mem (hperm.mem_iff.2 hz)
  have hik := hout.lt_of_order hi hk hxz
  have hkj := hout.lt_of_order hk hj hzy'
  have hji := hout.lt_of_order hj hi hyx'
  omega

end

/-! ### Fusion -/

/-- The list of candidates that fusion gives when it visits the ids in some order. -/
def fused (mode : FusionMode) (p : FusionParams Float) (vector text : List (Hit Float))
    (limit : Nat) (ids : List String) : List (Fused Float) :=
  (sorted (ids.map (candidate mode p vector text))).take limit

/-- Candidates are told apart by their ids. -/
theorem eq_of_id_described {mode : FusionMode} {p : FusionParams Float}
    {vector text : List (Hit Float)} :
    ∀ a ∈ described mode p vector text, ∀ b ∈ described mode p vector text,
      a.id = b.id → a = b := by
  intro a ha b hb hid
  obtain ⟨i, -, rfl⟩ := List.mem_map.1 ha
  obtain ⟨j, -, rfl⟩ := List.mem_map.1 hb
  have hij : i = j := hid
  rw [hij]

/-- **Fusion is consistent exactly when there is no clash.**  Then the lists of all lengths are, and
they do not depend on the order in which the ids are visited.  With a clash the list of all
candidates is not, whatever that order is, and neither is any other list of them. -/
theorem consistent_iff (mode : FusionMode) (p : FusionParams Float)
    (vector text : List (Hit Float)) :
    (∀ ids, Entries vector text ids →
      ((∀ limit, Consistent (fused mode p vector text limit ids)) ↔
        ¬ Clash (described mode p vector text))) ∧
    (¬ Clash (described mode p vector text) → ∀ ids, Entries vector text ids → ∀ limit,
      fused mode p vector text limit ids = fuse vector text mode p limit) ∧
    (Clash (described mode p vector text) → ∀ out, out.Perm (described mode p vector text) →
      ¬ Consistent out) := by
  have hsorted : ¬ Clash (described mode p vector text) → ∀ ids, Entries vector text ids →
      sorted (ids.map (candidate mode p vector text)) =
        sorted (described mode p vector text) := by
    intro hclash ids hentries
    have hperm := hentries.perm_described mode p
    refine Consistent.eq_of_perm eq_of_id_described (consistent_sorted ?_ ?_)
      (consistent_sorted eq_of_id_described hclash) ((sorted_perm _).trans hperm) (sorted_perm _)
    · intro a ha b hb
      exact eq_of_id_described a (hperm.subset ha) b (hperm.subset hb)
    · intro h
      exact hclash (h.mono hperm.subset)
  refine ⟨?_, ?_, fun hclash out hperm => hclash.not_consistent hperm⟩
  · intro ids hentries
    constructor
    · intro hall hclash
      have hperm := (sorted_perm (ids.map (candidate mode p vector text))).trans
        (hentries.perm_described mode p)
      have hwhole := hall (ids.map (candidate mode p vector text)).length
      rw [fused, ← (sorted_perm (ids.map (candidate mode p vector text))).length_eq,
        List.take_length] at hwhole
      exact hclash.not_consistent hperm hwhole
    · intro hclash limit
      rw [fused, hsorted hclash ids hentries]
      exact (consistent_sorted eq_of_id_described hclash).sublist (List.take_sublist _ _)
  · intro hclash ids hentries limit
    rw [fused, hsorted hclash ids hentries, fuse_eq]

/-- Three hits, of which the second is after the first by its score, the third after the second by
its id, and the first after the third by its id. -/
def circular : List (Hit Float) :=
  [⟨"z", Double.ofInt 2⟩, ⟨"a", Double.ofInt 1⟩, ⟨"m", Double.nan⟩]

/-- No list of these hits is in order, and two orders of visiting them give two lists. -/
theorem not_consistent_circular :
    (∀ out, out.Perm (described .weighted evenParams circular []) → ¬ Consistent out) ∧
      Entries circular [] ["z", "a", "m"] ∧ Entries circular [] ["z", "m", "a"] ∧
      (fused .weighted evenParams circular [] 3 ["z", "a", "m"]).map Fused.id =
        ["m", "z", "a"] ∧
      (fused .weighted evenParams circular [] 3 ["z", "m", "a"]).map Fused.id =
        ["a", "m", "z"] := by
  have hclash : Clash (described .weighted evenParams circular []) := by decide +kernel
  have hza : (order (candidate .weighted evenParams circular [] "z")
      (candidate .weighted evenParams circular [] "a")).isLE = true := by decide +kernel
  have hzm : (order (candidate .weighted evenParams circular [] "z")
      (candidate .weighted evenParams circular [] "m")).isLE = false := by decide +kernel
  have hma : (order (candidate .weighted evenParams circular [] "m")
      (candidate .weighted evenParams circular [] "a")).isLE = false := by decide +kernel
  refine ⟨fun out hperm => hclash.not_consistent hperm, ⟨by decide, ?_⟩, ⟨by decide, ?_⟩, ?_, ?_⟩
  · intro id
    simp [circular, eq_comm]
  · intro id
    simp [circular, eq_comm, or_comm]
  · simp [fused, sorted, List.mergeSort, hza, hzm]
    simp [candidate]
  · simp [fused, sorted, List.mergeSort, hzm, hma]
    simp [candidate]

end KnowledgeBase.Fusion
