import KnowledgeBase.Proofs.Search.Ordering
import KnowledgeBase.Proofs.Number.Quotient

/-!
# Ranks alone decide

Fusion by reciprocal ranks carries the raw scores along and does not look at them.  Two runs whose
rankings list the same ids in the same places have the same outcome, whatever the raw scores and the
weights are.  The sum of reciprocal ranks is always a number, so that the outcome does not depend on
the order in which the ids are visited either.

## Main definitions

* `Fusion.Fused.outcome` — what a candidate shows apart from its raw scores.

## Main results

* `Fusion.outcome_fuse_congr` — the outcome is a function of the ids and the offset.
* `Fusion.best_reciprocalRank` — ranks always select the best candidates.
* `Fusion.fuse_ignores_scores` — **two runs with the same ids have the same outcome**, in whatever
  orders they visit them.
-/

namespace KnowledgeBase.Fusion

/-- The id and the fused score of a candidate, without the raw scores that it was made from. -/
def Fused.outcome {R : Type} (f : Fused R) : String × R := (f.id, f.score)

section

variable {R : Type} [Score R] {p p' : FusionParams R} {vector vector' text text' : List (Hit R)}

/-! ### Sorting -/

/-- Candidates are sorted by their outcomes. -/
theorem outcome_sorted_congr {fs gs : List (Fused R)}
    (h : fs.map Fused.outcome = gs.map Fused.outcome) :
    (sorted fs).map Fused.outcome = (sorted gs).map Fused.outcome := by
  have hsorted (fs : List (Fused R)) : (sorted fs).map Fused.outcome =
      (fs.map Fused.outcome).mergeSort fun x y =>
        (((Score.compare? y.2 x.2).getD .eq).then (compare x.1 y.1)).isLE :=
    List.map_mergeSort fun _ _ _ _ => rfl
  rw [hsorted, hsorted, h]

/-! ### Positions -/

omit [Score R] in
theorem position_congr {hits hits' : List (Hit R)} (h : hits.map Hit.id = hits'.map Hit.id)
    (id : String) : position id hits = position id hits' := by
  have hposition (hits : List (Hit R)) : position id hits =
      ((hits.map Hit.id).findIdx? fun i => i = id).map (· + 1) := by
    rw [List.findIdx?_map]
    rfl
  rw [hposition, hposition, h]

omit [Score R] in
theorem candidates_congr (hvector : vector.map Hit.id = vector'.map Hit.id)
    (htext : text.map Hit.id = text'.map Hit.id) :
    candidates vector text = candidates vector' text' := by
  rw [candidates, candidates, List.map_append, List.map_append, hvector, htext]

variable (hvector : vector.map Hit.id = vector'.map Hit.id)
  (htext : text.map Hit.id = text'.map Hit.id) (hoffset : p.rankOffset = p'.rankOffset)
include hvector htext hoffset

theorem outcome_candidate_congr (id : String) :
    (candidate .reciprocalRank p vector text id).outcome =
      (candidate .reciprocalRank p' vector' text' id).outcome := by
  have hpositions : [vector, text].filterMap (position id) =
      [vector', text'].filterMap (position id) := by
    simp only [List.filterMap_cons, position_congr hvector, position_congr htext]
  have hdivisor : divisor p = divisor p' := by
    funext rank
    rw [divisor, divisor, hoffset]
  simp only [Fused.outcome, candidate, hpositions, hdivisor]

/-- **The outcome of fusion by ranks is a function of the ids and the offset.** -/
theorem outcome_fuse_congr (limit : Nat) :
    (fuse vector text .reciprocalRank p limit).map Fused.outcome =
      (fuse vector' text' .reciprocalRank p' limit).map Fused.outcome := by
  have hdescribed : (described .reciprocalRank p vector text).map Fused.outcome =
      (described .reciprocalRank p' vector' text').map Fused.outcome := by
    rw [described, described, List.map_map, List.map_map, candidates_congr hvector htext]
    exact List.map_congr_left fun id _ => outcome_candidate_congr hvector htext hoffset id
  rw [fuse_eq, fuse_eq, List.map_take, List.map_take, outcome_sorted_congr hdescribed]

end

/-! ### Sums of reciprocals of doubles -/

section

variable {p p' : FusionParams Float} {vector vector' text text' : List (Hit Float)}

theorem notNegative_sum {xs : List Float} (h : ∀ x ∈ xs, Double.NotNegative x.toModel.unpack) :
    Double.NotNegative (sum xs).toModel.unpack := by
  cases xs with
  | nil => exact .ofInt 0
  | cons x xs =>
    obtain ⟨hx, hxs⟩ := List.forall_mem_cons.1 h
    change Double.NotNegative (xs.foldl Score.add x).toModel.unpack
    clear h
    -- the sum so far is not negative, whatever comes next
    induction xs generalizing x with
    | nil => exact hx
    | cons y ys ih =>
      obtain ⟨hy, hys⟩ := List.forall_mem_cons.1 hxs
      exact ih (Score.add x y) (Double.NotNegative.unpack_pack (.add hx hy)) hys

/-- **A sum of reciprocal ranks is a number.** -/
theorem isNaN_reciprocalRank (p : FusionParams Float) (vector text : List (Hit Float))
    (id : String) :
    Double.isNaN (candidate .reciprocalRank p vector text id).score = false := by
  refine Double.isNaN_of_notNegative (notNegative_sum fun x hx => ?_)
  obtain ⟨rank, hrank, rfl⟩ := List.mem_map.1 hx
  obtain ⟨hits, -, hposition⟩ := List.mem_filterMap.1 hrank
  -- positions are counted from one, so that no divisor is zero
  exact .one_div p.rankOffset.toNat (position_pos hposition)

theorem comparable_reciprocalRank (p : FusionParams Float) (vector text : List (Hit Float)) :
    Comparable Double.key (described .reciprocalRank p vector text) := by
  refine comparable_of_not_nan fun f hf => ?_
  obtain ⟨id, -, rfl⟩ := List.mem_map.1 hf
  exact isNaN_reciprocalRank p vector text id

/-- **Ranks always select the best candidates**, whatever the raw scores are. -/
theorem best_reciprocalRank (p : FusionParams Float) (vector text : List (Hit Float))
    (limit : Nat) :
    Best .reciprocalRank p vector text limit (fuse vector text .reciprocalRank p limit) :=
  best_fuse (comparable_reciprocalRank p vector text)

/-- **Two runs whose rankings have the same ids in the same places have the same outcome**, if they
have the same offset and limit.  The raw scores and the weights may be any, and each run may visit
its ids in any order. -/
theorem fuse_ignores_scores (hvector : vector.map Hit.id = vector'.map Hit.id)
    (htext : text.map Hit.id = text'.map Hit.id) (hoffset : p.rankOffset = p'.rankOffset)
    (limit : Nat) :
    (fuse vector text .reciprocalRank p limit).map Fused.outcome =
        (fuse vector' text' .reciprocalRank p' limit).map Fused.outcome ∧
      ∀ ids ids', Entries vector text ids → Entries vector' text' ids' →
        (fused .reciprocalRank p vector text limit ids).map Fused.outcome =
          (fused .reciprocalRank p' vector' text' limit ids').map Fused.outcome := by
  have hfuse := outcome_fuse_congr hvector htext hoffset limit
  refine ⟨hfuse, fun ids ids' hids hids' => ?_⟩
  -- each run gives what fusion gives, since its scores can all be compared
  rw [fused, fused, fuse_eq_of_entries (comparable_reciprocalRank p vector text) hids,
    fuse_eq_of_entries (comparable_reciprocalRank p' vector' text') hids', hfuse]

end

/-- A ranking with an id twice and with raw scores that cannot be summed. -/
def unscored : List (Hit Float) :=
  [⟨"b", Double.nan⟩, ⟨"a", Double.inf⟩, ⟨"b", Double.negInf⟩]

/-- It is fused like one with ordinary scores, for other weights and in other orders too. -/
theorem fuse_ignores_scores_unscored :
    rawScore "b" overlap.1 = some (Double.ofInt 3) ∧ rawScore "b" unscored = some Double.nan ∧
      (fuse overlap.1 overlap.2 .reciprocalRank evenParams 2).map Fused.outcome =
        (fuse unscored overlap.2 .reciprocalRank ⟨Double.nan, Double.negInf, 60⟩ 2).map
          Fused.outcome ∧
      (fused .reciprocalRank evenParams overlap.1 overlap.2 2 ["b", "a", "c"]).map Fused.outcome =
        (fused .reciprocalRank ⟨Double.nan, Double.negInf, 60⟩ unscored overlap.2 2
          ["c", "b", "a"]).map Fused.outcome := by
  have hids : Entries overlap.1 overlap.2 ["b", "a", "c"] :=
    (entries_candidates _ _).perm (by decide)
  have hids' : Entries unscored overlap.2 ["c", "b", "a"] :=
    (entries_candidates _ _).perm (by decide)
  have hvector : overlap.1.map Hit.id = unscored.map Hit.id := by decide
  have htext : overlap.2.map Hit.id = overlap.2.map Hit.id := rfl
  have hoffset : evenParams.rankOffset =
      (⟨Double.nan, Double.negInf, 60⟩ : FusionParams Float).rankOffset := rfl
  obtain ⟨hfuse, hfused⟩ := fuse_ignores_scores hvector htext hoffset 2
  exact ⟨rfl, rfl, hfuse, hfused _ _ hids hids'⟩

end KnowledgeBase.Fusion
