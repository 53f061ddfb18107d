import Mathlib.Data.List.Nodup
import KnowledgeBase.Schema.Migration

/-!
# What is pending, and in which order

A list of migrations may hold them in any order, and versions may repeat.  What is due in a phase is
selected and then sorted by version, so that entries of one version keep the order of the list.  A
list that is sorted by version is determined by its entries of each version, which is why sorting
and selecting can be exchanged.

## Main definitions

* `Migration.Due` — a migration is due in a phase.
* `Migration.byVersion` — the order by version.

## Main results

* `Migration.filter_version_mergeSort` — sorting keeps the entries of a version as they are.
* `Migration.eq_of_filter_version` — entries of each version determine a sorted list.
* `Migration.mergeSort_filter` — sorting and selecting can be exchanged.
* `Migration.pending_exact` — what is pending, how often, in which order, and what that order does
  not depend on.
-/

namespace KnowledgeBase.Migration

open Schema

/-! ### Selection -/

/-- A migration is due in a phase: it belongs to the phase, its tables exist and its version is not
applied. -/
def Due (applied : List Int32) (phase : Phase) (m : Modules) (x : Migration) : Prop :=
  x.phase = phase ∧ x.group.isEnabled m = true ∧ x.version ∉ applied

instance (applied : List Int32) (phase : Phase) (m : Modules) (x : Migration) :
    Decidable (Due applied phase m x) :=
  inferInstanceAs (Decidable (_ ∧ _))

theorem isPending_eq (applied : List Int32) (phase : Phase) (m : Modules) :
    isPending applied phase m = fun x => decide (Due applied phase m x) := by
  funext x
  rw [Bool.eq_iff_iff, decide_eq_true_iff, Due]
  simp [isPending, and_assoc]

/-! ### Sorting by version -/

/-- The order by version. -/
def byVersion (a b : Migration) : Bool := decide (a.version ≤ b.version)

theorem byVersion_trans (a b c : Migration) (hab : byVersion a b = true)
    (hbc : byVersion b c = true) : byVersion a c = true :=
  decide_eq_true (Int32.le_trans (of_decide_eq_true hab) (of_decide_eq_true hbc))

theorem byVersion_total (a b : Migration) : (byVersion a b || byVersion b a) = true := by
  simpa [byVersion] using Int32.le_total a.version b.version

theorem pairwise_mergeSort (xs : List Migration) :
    (xs.mergeSort byVersion).Pairwise fun a b => a.version ≤ b.version :=
  (List.pairwise_mergeSort byVersion_trans byVersion_total xs).imp of_decide_eq_true

/-- Sorting keeps the entries of a version, in their order. -/
theorem filter_version_mergeSort (xs : List Migration) (v : Int32) :
    (xs.mergeSort byVersion).filter (·.version = v) = xs.filter (·.version = v) := by
  have hversion : ∀ x ∈ xs.filter (·.version = v), x.version = v := by simp
  have hpairwise : (xs.filter (·.version = v)).Pairwise fun a b => byVersion a b = true := by
    refine List.pairwise_of_forall_mem_list fun a ha b hb => decide_eq_true ?_
    rw [hversion a ha, hversion b hb]
    exact Int32.le_refl v
  -- in order already, they are a sublist of the sorted list, and it has no others of the version
  have hsublist := (List.sublist_mergeSort byVersion_trans byVersion_total hpairwise
    List.filter_sublist).filter (·.version = v)
  simp only [List.filter_filter, Bool.and_self] at hsublist
  have hperm := (List.mergeSort_perm xs byVersion).filter (·.version = v)
  exact (hsublist.eq_of_length hperm.length_eq.symm).symm

theorem mem_iff_of_filter_version {xs ys : List Migration}
    (h : ∀ v, xs.filter (·.version = v) = ys.filter (·.version = v)) (x : Migration) :
    x ∈ xs ↔ x ∈ ys := by
  have hx : x ∈ xs.filter (·.version = x.version) ↔ x ∈ ys.filter (·.version = x.version) := by
    rw [h]
  simpa using hx

/-- A list that is sorted by version is determined by its entries of each version. -/
theorem eq_of_filter_version {xs ys : List Migration}
    (hxs : xs.Pairwise fun a b => a.version ≤ b.version)
    (hys : ys.Pairwise fun a b => a.version ≤ b.version)
    (h : ∀ v, xs.filter (·.version = v) = ys.filter (·.version = v)) : xs = ys := by
  induction xs generalizing ys with
  | nil =>
    have hmem := mem_iff_of_filter_version h
    exact (List.eq_nil_iff_forall_not_mem.2 fun y hy => nomatch (hmem y).2 hy).symm
  | cons a xs ih =>
    have hmem := mem_iff_of_filter_version h
    cases ys with
    | nil => exact nomatch (hmem a).1 List.mem_cons_self
    | cons b ys =>
      obtain ⟨ha, hxs'⟩ := List.pairwise_cons.1 hxs
      obtain ⟨hb, hys'⟩ := List.pairwise_cons.1 hys
      -- each head is a member of the other list, so that neither version is the greater one
      have hab : a.version ≤ b.version := by
        rcases List.mem_cons.1 ((hmem b).2 List.mem_cons_self) with rfl | hmem
        · exact Int32.le_refl _
        · exact ha b hmem
      have hba : b.version ≤ a.version := by
        rcases List.mem_cons.1 ((hmem a).1 List.mem_cons_self) with rfl | hmem
        · exact Int32.le_refl _
        · exact hb a hmem
      have hversion : a.version = b.version := Int32.le_antisymm hab hba
      have hhead : a = b := by
        have hfirst := h b.version
        rw [List.filter_cons_of_pos (by simpa using hversion),
          List.filter_cons_of_pos (by simp)] at hfirst
        exact (List.cons.inj hfirst).1
      subst hhead
      have hrest (v : Int32) : xs.filter (·.version = v) = ys.filter (·.version = v) := by
        have hv := h v
        rw [List.filter_cons, List.filter_cons] at hv
        split at hv
        · exact (List.cons.inj hv).2
        · exact hv
      rw [ih hxs' hys' hrest]

/-- To sort what is selected is to select from what is sorted. -/
theorem mergeSort_filter (p : Migration → Bool) (xs : List Migration) :
    (xs.filter p).mergeSort byVersion = (xs.mergeSort byVersion).filter p := by
  refine eq_of_filter_version (pairwise_mergeSort _) ((pairwise_mergeSort xs).filter p) fun v => ?_
  calc ((xs.filter p).mergeSort byVersion).filter (·.version = v)
      = (xs.filter p).filter (·.version = v) := filter_version_mergeSort _ v
    _ = (xs.filter (·.version = v)).filter p := List.filter_comm _ _ xs
    _ = ((xs.mergeSort byVersion).filter (·.version = v)).filter p := by
      rw [filter_version_mergeSort]
    _ = ((xs.mergeSort byVersion).filter p).filter (·.version = v) := List.filter_comm _ _ _

/-- The order of a list without repeated versions is forgotten when it is sorted. -/
theorem mergeSort_eq_of_perm {xs ys : List Migration} (hperm : xs.Perm ys)
    (hversions : (ys.map version).Nodup) : xs.mergeSort byVersion = ys.mergeSort byVersion := by
  refine List.Perm.eq_of_pairwise ?_ (pairwise_mergeSort xs) (pairwise_mergeSort ys)
    ((List.mergeSort_perm xs _).trans (hperm.trans (List.mergeSort_perm ys _).symm))
  -- neither version is greater, and a version names one entry
  intro a b ha hb hab hba
  have ha : a ∈ ys := hperm.mem_iff.1 (List.mem_mergeSort.1 ha)
  exact List.inj_on_of_nodup_map hversions ha (List.mem_mergeSort.1 hb) (Int32.le_antisymm hab hba)

/-! ### What is pending -/

section

variable (migrations : List Migration) (applied : List Int32) (phase : Phase) (m : Modules)

theorem pending_eq_mergeSort :
    pending migrations applied phase m =
      (migrations.filter fun x => decide (Due applied phase m x)).mergeSort byVersion := by
  rw [← isPending_eq]
  rfl

/-- What is pending is selected from the sorted list. -/
theorem pending_eq_filter :
    pending migrations applied phase m =
      (migrations.mergeSort byVersion).filter fun x => decide (Due applied phase m x) := by
  rw [pending_eq_mergeSort, mergeSort_filter]

/-- The pending entries of a version. -/
theorem filter_version_pending (v : Int32) :
    (pending migrations applied phase m).filter (·.version = v) =
      migrations.filter fun x => decide (Due applied phase m x ∧ x.version = v) := by
  rw [pending_eq_mergeSort, filter_version_mergeSort, List.filter_filter]
  refine List.filter_congr fun x _ => ?_
  rw [Bool.decide_and, Bool.and_comm]

/-- One more applied version takes its entries away. -/
theorem pending_of_mem_iff {applied' : List Int32} {v : Int32}
    (h : ∀ w, w ∈ applied' ↔ w = v ∨ w ∈ applied) :
    pending migrations applied' phase m =
      (pending migrations applied phase m).filter (·.version ≠ v) := by
  rw [pending_eq_filter, pending_eq_filter, List.filter_filter]
  refine List.filter_congr fun x _ => ?_
  rw [← Bool.decide_and, decide_eq_decide, Due, Due, h, not_or]
  exact ⟨fun ⟨hphase, hgroup, hne, hnot⟩ => ⟨hne, hphase, hgroup, hnot⟩,
    fun ⟨hne, hphase, hgroup, hnot⟩ => ⟨hphase, hgroup, hne, hnot⟩⟩

end

/-- **What is pending, and in which order.**  An entry of the list is pending if it is due, and as
often as it stands in the list.  Entries come by version, and those of one version in the order of
the list.  When no version repeats, the order of the list is forgotten.  One more applied version
takes its entries away and changes nothing else. -/
theorem pending_exact (migrations : List Migration) (applied : List Int32) (phase : Phase)
    (m : Modules) :
    (∀ x, x ∈ pending migrations applied phase m ↔ x ∈ migrations ∧ Due applied phase m x) ∧
    (pending migrations applied phase m).Perm
      (migrations.filter fun x => decide (Due applied phase m x)) ∧
    (pending migrations applied phase m).Pairwise (fun a b => a.version ≤ b.version) ∧
    (∀ v, (pending migrations applied phase m).filter (·.version = v) =
      migrations.filter fun x => decide (Due applied phase m x ∧ x.version = v)) ∧
    (∀ others, others.Perm migrations → (migrations.map version).Nodup →
      pending others applied phase m = pending migrations applied phase m) ∧
    ∀ v applied', (∀ w, w ∈ applied' ↔ w = v ∨ w ∈ applied) →
      pending migrations applied' phase m =
        (pending migrations applied phase m).filter (·.version ≠ v) := by
  refine ⟨fun x => ?_, ?_, ?_, filter_version_pending migrations applied phase m, ?_, ?_⟩
  · rw [mem_pending, isPending_eq, decide_eq_true_iff]
  · rw [← isPending_eq]
    exact pending_perm migrations applied phase m
  · rw [pending_eq_mergeSort]
    exact pairwise_mergeSort _
  · intro others hperm hversions
    rw [pending_eq_filter, pending_eq_filter, mergeSort_eq_of_perm hperm hversions]
  · intro v applied' h
    exact pending_of_mem_iff migrations applied phase m h

/-- The ten migrations in the opposite order, of which two are applied: what is left comes by
version, and the fourth drops out once it is applied too. -/
theorem pending_exact_reversed :
    pending all.reverse [1, 2] .backfill ⟨false, false⟩ =
        pending all [1, 2] .backfill ⟨false, false⟩ ∧
      pending all [2, 4, 1] .backfill ⟨false, false⟩ =
        (pending all [1, 2] .backfill ⟨false, false⟩).filter (·.version ≠ 4) ∧
      (pending all [1, 2] .backfill ⟨false, false⟩).map version = [3, 4, 10] := by
  obtain ⟨-, -, -, -, hreversed, happlied⟩ := pending_exact all [1, 2] .backfill ⟨false, false⟩
  have hsorted : all.mergeSort byVersion = all := List.mergeSort_of_pairwise (by decide)
  refine ⟨hreversed _ (List.reverse_perm all) (by decide), happlied 4 [2, 4, 1] fun w => ?_, ?_⟩
  · simp only [List.mem_cons, List.not_mem_nil, or_false]
    exact or_left_comm.trans (or_congr_right or_comm)
  · rw [pending_eq_filter, hsorted]
    rfl

end KnowledgeBase.Migration
