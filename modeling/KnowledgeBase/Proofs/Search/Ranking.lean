import KnowledgeBase.Search.Fusion
import KnowledgeBase.Proofs.Text.ByteOrder

/-!
# The order of candidates

Fusion sorts candidates by descending scores, and by ids where scores are equal.  Not all scores are
comparable, but among candidates whose scores are, this is a strict order of the ids, and the sorted
list does not depend on the order in which the candidates were given.

## Main definitions

* `Fusion.Before` — the strict order of candidates.
* `Fusion.Comparable` — candidates whose scores are ordered by a key.
* `Fusion.sorted` — candidates as fusion sorts them.

## Main results

* `Fusion.Comparable.pairwise_sorted` — comparable candidates are strictly ordered when sorted.
* `Fusion.Comparable.sorted_eq_of_perm` — the order in which they were given is forgotten.
-/

namespace KnowledgeBase.Fusion

open Std

variable {R K : Type} [Score R] [Ord K]

/-- A candidate is before another if its score is greater, or its score is equal and its id is
smaller byte by byte. -/
def Before (a b : Fused R) : Prop :=
  Score.compare? a.score b.score = some .gt ∨
    Score.compare? a.score b.score = some .eq ∧ Text.bytes a.id < Text.bytes b.id

/-- Any two of the candidates have comparable scores, in the order of their keys. -/
def Comparable (key : R → K) (fs : List (Fused R)) : Prop :=
  ∀ a ∈ fs, ∀ b ∈ fs,
    Score.compare? a.score b.score = some (compare (key a.score) (key b.score))

/-- The candidates as fusion sorts them. -/
def sorted (fs : List (Fused R)) : List (Fused R) :=
  fs.mergeSort fun a b => (order a b).isLE

theorem sorted_perm (fs : List (Fused R)) : (sorted fs).Perm fs := List.mergeSort_perm _ _

/-! ### The order by a key -/

/-- The order of candidates with the scores replaced by their keys, which orders all candidates. -/
def keyOrder (key : R → K) : Fused R → Fused R → Ordering :=
  compareLex (fun a b => compareOn (fun f => key f.score) b a) (compareOn Fused.id)

instance [TransOrd K] (key : R → K) : TransCmp (keyOrder key) :=
  inferInstanceAs
    (TransCmp (compareLex (fun a b => compareOn (fun f => key f.score) b a) (compareOn Fused.id)))

namespace Comparable

variable {key : R → K} {fs gs : List (Fused R)}

theorem of_subset (h : Comparable key fs) (hsub : gs ⊆ fs) : Comparable key gs :=
  fun a ha b hb => h a (hsub ha) b (hsub hb)

/-- The order of fusion is that of the keys. -/
theorem order_eq (h : Comparable key fs) {a b : Fused R} (ha : a ∈ fs) (hb : b ∈ fs) :
    order a b = keyOrder key a b := by
  rw [order, h b hb a ha, Option.getD_some]
  rfl

theorem sorted_eq (h : Comparable key fs) :
    sorted fs = fs.mergeSort fun a b => (keyOrder key a b).isLE := by
  have hmap := List.map_mergeSort (f := id) (l := fs) (r := fun a b => (order a b).isLE)
    (s := fun a b => (keyOrder key a b).isLE) fun a ha b hb => by
      rw [h.order_eq ha hb, id, id]
  rwa [List.map_id, List.map_id] at hmap

variable [TransOrd K]

/-- One candidate is before another exactly if the keys put it first. -/
theorem before_iff (h : Comparable key fs) {a b : Fused R} (ha : a ∈ fs) (hb : b ∈ fs) :
    Before a b ↔ keyOrder key a b = .lt := by
  have hgt : compare (key a.score) (key b.score) = .gt ↔
      compare (key b.score) (key a.score) = .lt := OrientedCmp.gt_iff_lt
  have heq : compare (key a.score) (key b.score) = .eq ↔
      compare (key b.score) (key a.score) = .eq := OrientedCmp.eq_comm
  have hid : compare a.id b.id = .lt ↔ Text.bytes a.id < Text.bytes b.id := by
    rw [← Text.lt_iff_bytes_lt]
    exact compareOfLessAndEq_eq_lt
  rw [Before, h a ha b hb, Option.some_inj, Option.some_inj, hgt, heq, ← hid]
  exact Ordering.then_eq_lt.symm

theorem before_asymm (h : Comparable key fs) {a b : Fused R} (ha : a ∈ fs) (hb : b ∈ fs)
    (hab : Before a b) : ¬ Before b a := by
  rw [h.before_iff ha hb] at hab
  rw [h.before_iff hb ha, OrientedCmp.gt_of_lt hab]
  decide

/-- Comparable candidates with different ids are strictly ordered when sorted. -/
theorem pairwise_sorted (h : Comparable key fs) (hids : (fs.map Fused.id).Nodup) :
    (sorted fs).Pairwise Before := by
  have hle : (sorted fs).Pairwise fun a b => (keyOrder key a b).isLE = true := by
    rw [h.sorted_eq]
    refine List.pairwise_mergeSort (fun a b c => TransCmp.isLE_trans) ?_ fs
    intro a b
    have hswap : keyOrder key b a = (keyOrder key a b).swap := OrientedCmp.eq_swap
    rw [hswap]
    cases keyOrder key a b <;> rfl
  have hne : (sorted fs).Pairwise fun a b => a.id ≠ b.id :=
    List.pairwise_map.1 ((sorted_perm fs).map Fused.id |>.nodup_iff.2 hids)
  -- no two ids are equal, so that the order of the keys is strict
  refine (hle.and hne).imp_of_mem ?_
  rintro a b ha hb ⟨hab, hab'⟩
  rw [h.before_iff ((sorted_perm fs).mem_iff.1 ha) ((sorted_perm fs).mem_iff.1 hb)]
  cases hcmp : keyOrder key a b with
  | lt => rfl
  | eq => exact absurd (LawfulEqOrd.eq_of_compare (Ordering.then_eq_eq.1 hcmp).2) hab'
  | gt => rw [hcmp] at hab; exact absurd hab (by decide)

/-- The order in which comparable candidates with different ids are given is forgotten. -/
theorem sorted_eq_of_perm (h : Comparable key fs) (hids : (fs.map Fused.id).Nodup)
    (hperm : gs.Perm fs) : sorted gs = sorted fs := by
  have hgs : Comparable key gs := h.of_subset hperm.subset
  refine List.Perm.eq_of_pairwise ?_
    (hgs.pairwise_sorted ((hperm.map Fused.id).nodup_iff.2 hids)) (h.pairwise_sorted hids)
    ((sorted_perm gs).trans (hperm.trans (sorted_perm fs).symm))
  intro a b ha hb hab hba
  have ha' : a ∈ fs := hperm.mem_iff.1 ((sorted_perm gs).mem_iff.1 ha)
  exact absurd hba (h.before_asymm ha' ((sorted_perm fs).mem_iff.1 hb) hab)

end Comparable

end KnowledgeBase.Fusion
