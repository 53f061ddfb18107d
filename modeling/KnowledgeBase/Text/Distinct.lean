/-!
# Texts without repetition

## Main definitions

* `Text.distinct` — each text at its first place only.
* `Text.ascending` — the distinct texts in ascending order of their UTF-8 bytes, which is their
  order by code points.

## Main results

* `Text.mem_distinct`, `Text.mem_ascending` — the same texts are left.
* `Text.distinct_nodup` — none is left twice.
-/

namespace KnowledgeBase.Text

/-- The members of a list, each at its first place only. -/
def distinct : List String → List String
  | [] => []
  | s :: rest => s :: (distinct rest).filter (· ≠ s)

theorem mem_distinct {s : String} {xs : List String} : s ∈ distinct xs ↔ s ∈ xs := by
  induction xs with
  | nil => rfl
  | cons x xs ih =>
    by_cases h : s = x
    · simp [distinct, h]
    · simp [distinct, ih, h]

theorem distinct_nodup (xs : List String) : (distinct xs).Nodup := by
  induction xs with
  | nil => exact List.nodup_nil
  | cons x xs ih =>
    refine List.nodup_cons.2 ⟨?_, ih.sublist List.filter_sublist⟩
    simp

/-- The distinct members of a list in ascending order. -/
def ascending (xs : List String) : List String :=
  (distinct xs).mergeSort fun a b => decide (a ≤ b)

theorem mem_ascending {s : String} {xs : List String} : s ∈ ascending xs ↔ s ∈ xs := by
  simp [ascending, mem_distinct]

end KnowledgeBase.Text
