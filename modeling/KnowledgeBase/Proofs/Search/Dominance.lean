import Mathlib.Algebra.Order.Field.Rat
import Mathlib.Order.Compare
import Mathlib.Tactic.NormNum
import Mathlib.Tactic.Positivity
import Mathlib.Tactic.GCongr
import KnowledgeBase.Proofs.Search.Exactness

/-!
# Fusion respects dominance

If one candidate is at least as good as another in both rankings, then it should not come out behind
it.  With exact scores this is so in both modes: by ranks, whoever is ahead somewhere and nowhere
behind has the greater score; by weights, whoever has at least the other's raw scores has at least
the other's sum.  What comes out in front is also kept whenever the other is.

## Main definitions

* The exact numbers as scores.
* `Fusion.Leads` — one id is ahead of another somewhere, and nowhere behind.
* `Fusion.share` — what a ranking adds to the score of an id by its position.

## Main results

* `Fusion.Best.sublist_iff` — a candidate is kept in front of one that is kept exactly if it is
  before it.
* `Fusion.fuse_dominance` — **fusion respects dominance** in both modes.
-/

namespace KnowledgeBase.Fusion

/-- Exact scores. -/
instance : Score ℚ where
  ofNat n := n
  add x y := x + y
  mul x y := x * y
  div x y := x / y
  compare? x y := some (compare x y)

/-! ### Which candidates are kept in front -/

section

variable {R K : Type} [Score R] [Ord K] [Std.TransOrd K] {key : R → K} {mode : FusionMode}
  {p : FusionParams R} {vector text : List (Hit R)} {limit : Nat} {out : List (Fused R)}

omit [Ord K] [Std.TransOrd K] in
/-- The ids of the best candidates stand in the order of the candidates. -/
theorem Best.pairwise_ids (h : Best mode p vector text limit out) :
    (out.map Fused.id).Pairwise fun x y =>
      Before (candidate mode p vector text x) (candidate mode p vector text y) := by
  refine List.pairwise_map.2 (h.pairwise.imp_of_mem fun {f g} hf hg hfg => ?_)
  rw [← h.eq_candidate f hf, ← h.eq_candidate g hg]
  exact hfg

/-- **A candidate is kept in front of one that is kept exactly if it is before it.** -/
theorem Best.sublist_iff (h : Best mode p vector text limit out)
    (hcomparable : Comparable key (described mode p vector text)) {a b : String}
    (ha : a ∈ candidates vector text) (hb : b ∈ out.map Fused.id) :
    [a, b].Sublist (out.map Fused.id) ↔
      Before (candidate mode p vector text a) (candidate mode p vector text b) := by
  constructor
  · intro hsublist
    have hpair := List.Pairwise.sublist hsublist h.pairwise_ids
    simpa using hpair
  · intro hbefore
    have hmem {id : String} (hid : id ∈ candidates vector text) :
        candidate mode p vector text id ∈ described mode p vector text :=
      List.mem_map_of_mem hid
    obtain ⟨f, hf, rfl⟩ := List.mem_map.1 hb
    have hcandidate := h.mem f hf
    have hnot : ¬ Before (candidate mode p vector text f.id) (candidate mode p vector text a) :=
      hcomparable.before_asymm (hmem ha) (hmem hcandidate) hbefore
    -- what is behind is not kept alone
    have hkept : a ∈ out.map Fused.id := by
      by_contra hout
      have hrest := h.before_rest f hf a ha hout
      rw [h.eq_candidate f hf] at hrest
      exact hnot hrest
    obtain ⟨front, rest, hsplit⟩ := List.append_of_mem hb
    have hpairwise := h.pairwise_ids
    rw [hsplit] at hkept hpairwise ⊢
    rcases List.mem_append.1 hkept with hfront | hrest
    · exact (List.singleton_sublist.2 hfront).append (List.singleton_sublist.2 List.mem_cons_self)
    · rcases List.mem_cons.1 hrest with rfl | hrest
      · exact absurd hbefore hnot
      · have hcons := (List.pairwise_append.1 hpairwise).2.1
        exact absurd ((List.pairwise_cons.1 hcons).1 a hrest) hnot

end

/-! ### Positions -/

/-- A position is there wherever another one is, and then it is no later. -/
def NotBehind (x y : Option Nat) : Prop := ∀ m, y = some m → ∃ n ≤ m, x = some n

/-- A position is there, and the other one is later or missing. -/
def Ahead (x y : Option Nat) : Prop := ∃ n, x = some n ∧ ∀ m, y = some m → n < m

/-- One id is ahead of another in one of two rankings, and in none of them behind it. -/
structure Leads {R : Type} (vector text : List (Hit R)) (a b : String) : Prop where
  notBehind : ∀ hits ∈ [vector, text], NotBehind (position a hits) (position b hits)
  ahead : ∃ hits ∈ [vector, text], Ahead (position a hits) (position b hits)

/-- What a ranking adds to the score of an id in some position. -/
def share (p : FusionParams ℚ) (x : Option Nat) : ℚ :=
  x.elim 0 fun n => 1 / (p.rankOffset.toNat + n)

variable {p : FusionParams ℚ} {vector text : List (Hit ℚ)} {a b : String}

theorem share_nonneg (x : Option Nat) : 0 ≤ share p x := by
  cases x with
  | none => exact le_rfl
  | some n =>
    change (0 : ℚ) ≤ 1 / (p.rankOffset.toNat + n)
    positivity

theorem share_pos {n : Nat} (h : 0 < n) : 0 < share p (some n) := by
  change (0 : ℚ) < 1 / (p.rankOffset.toNat + n)
  have hn : (0 : ℚ) < n := by exact_mod_cast h
  positivity

theorem share_le {x y : Option Nat} (hx : ∀ n, x = some n → 0 < n) (h : NotBehind x y) :
    share p y ≤ share p x := by
  cases y with
  | none => exact share_nonneg x
  | some m =>
    obtain ⟨n, hle, rfl⟩ := h m rfl
    have hn : (0 : ℚ) < n := by exact_mod_cast hx n rfl
    change (1 : ℚ) / (p.rankOffset.toNat + m) ≤ 1 / (p.rankOffset.toNat + n)
    gcongr

theorem share_lt {x y : Option Nat} (hx : ∀ n, x = some n → 0 < n) (h : Ahead x y) :
    share p y < share p x := by
  obtain ⟨n, rfl, hlt⟩ := h
  have hn := hx n rfl
  cases y with
  | none => exact share_pos hn
  | some m =>
    have hnm := hlt m rfl
    have hpos : (0 : ℚ) < n := by exact_mod_cast hn
    change (1 : ℚ) / (p.rankOffset.toNat + m) < 1 / (p.rankOffset.toNat + n)
    gcongr

/-! ### Scores -/

theorem score_weighted (id : String) :
    (fusedHit .weighted p vector text id).score =
      p.vectorWeight * (rawScore id vector).getD 0 + p.textWeight * (rawScore id text).getD 0 := by
  rw [fusedHit_eq_candidate]
  rfl

theorem score_reciprocalRank (id : String) :
    (fusedHit .reciprocalRank p vector text id).score =
      share p (position id vector) + share p (position id text) := by
  rw [fusedHit_eq_candidate]
  change sum (([vector, text].filterMap (position id)).map _) = _
  rw [List.filterMap_cons, List.filterMap_cons, List.filterMap_nil]
  cases position id vector with
  | none =>
    cases position id text with
    | none => exact (add_zero (0 : ℚ)).symm
    | some t => exact (zero_add _).symm
  | some v =>
    cases position id text with
    | none => exact (add_zero _).symm
    | some t => rfl

/-- Whoever leads has the greater sum of reciprocal ranks. -/
theorem Leads.score_lt (h : Leads vector text a b) :
    (fusedHit .reciprocalRank p vector text b).score <
      (fusedHit .reciprocalRank p vector text a).score := by
  have hle (hits : List (Hit ℚ)) (hhits : hits ∈ [vector, text]) :
      share p (position b hits) ≤ share p (position a hits) :=
    share_le (fun _ => position_pos) (h.notBehind hits hhits)
  rw [score_reciprocalRank, score_reciprocalRank]
  obtain ⟨hits, hhits, hahead⟩ := h.ahead
  have hlt : share p (position b hits) < share p (position a hits) :=
    share_lt (fun _ => position_pos) hahead
  have hvector := hle vector (by simp)
  have htext := hle text (by simp)
  -- one share is greater, and the other no smaller
  rcases List.mem_pair.1 hhits with rfl | rfl
  · exact add_lt_add_of_lt_of_le hlt htext
  · exact add_lt_add_of_le_of_lt hvector hlt

theorem exists_hit_of_position {hits : List (Hit ℚ)} {id : String} {n : Nat}
    (h : position id hits = some n) : ∃ hit ∈ hits, hit.id = id := by
  obtain ⟨i, hi, -⟩ := Option.map_eq_some_iff.1 h
  obtain ⟨hlt, hid, -⟩ := List.findIdx?_eq_some_iff_getElem.1 hi
  exact ⟨hits[i], List.getElem_mem hlt, by simpa using hid⟩

/-- Whoever leads is a candidate. -/
theorem Leads.mem (h : Leads vector text a b) : a ∈ candidates vector text := by
  obtain ⟨hits, hhits, n, hposition, -⟩ := h.ahead
  obtain ⟨hit, hhit, hid⟩ := exists_hit_of_position hposition
  refine ((entries_candidates vector text).mem_iff a).2 ⟨hit, ?_, hid⟩
  rcases List.mem_pair.1 hhits with rfl | rfl
  · exact List.mem_append_left _ hhit
  · exact List.mem_append_right _ hhit

/-- Whoever has at least the raw scores of another has at least its weighted sum. -/
theorem score_weighted_le (hvector : 0 ≤ p.vectorWeight) (htext : 0 ≤ p.textWeight)
    (h : ∀ hits ∈ [vector, text], (rawScore b hits).getD 0 ≤ (rawScore a hits).getD 0) :
    (fusedHit .weighted p vector text b).score ≤ (fusedHit .weighted p vector text a).score := by
  have hv := h vector (by simp)
  have ht := h text (by simp)
  rw [score_weighted, score_weighted]
  gcongr

/-! ### The order of the output -/

/-- Exact scores are all comparable. -/
theorem comparable_exact (fs : List (Fused ℚ)) : Comparable id fs := fun _ _ _ _ => rfl

theorem before_exact_iff {f g : Fused ℚ} :
    Before f g ↔ g.score < f.score ∨ f.score = g.score ∧ Text.bytes f.id < Text.bytes g.id := by
  change some (compare f.score g.score) = some .gt ∨ some (compare f.score g.score) = some .eq ∧ _ ↔
    _
  rw [Option.some_inj, Option.some_inj, compare_gt_iff_gt, compare_eq_iff_eq]

/-- What is kept in front of what, by exact scores. -/
theorem sublist_fuse_iff {mode : FusionMode} {limit : Nat} (ha : a ∈ candidates vector text)
    (hb : b ∈ (fuse vector text mode p limit).map Fused.id) :
    [a, b].Sublist ((fuse vector text mode p limit).map Fused.id) ↔
      (fusedHit mode p vector text b).score < (fusedHit mode p vector text a).score ∨
        (fusedHit mode p vector text a).score = (fusedHit mode p vector text b).score ∧
          Text.bytes a < Text.bytes b := by
  have hcomparable := comparable_exact (described mode p vector text)
  rw [(best_fuse hcomparable).sublist_iff hcomparable ha hb, ← fusedHit_eq_candidate,
    ← fusedHit_eq_candidate]
  exact before_exact_iff

/-- **Fusion respects dominance.**  By ranks, whoever leads has the greater score, and is kept in
front of the other whenever that is kept.  By weights that are not negative, whoever has at least
the raw scores of another, a missing one being zero, has at least its score, and is kept in front of
it unless they tie and the other has the smaller id. -/
theorem fuse_dominance (p : FusionParams ℚ) (vector text : List (Hit ℚ)) (a b : String) :
    (Leads vector text a b →
      (fusedHit .reciprocalRank p vector text b).score <
          (fusedHit .reciprocalRank p vector text a).score ∧
        ∀ limit, b ∈ (fuse vector text .reciprocalRank p limit).map Fused.id →
          [a, b].Sublist ((fuse vector text .reciprocalRank p limit).map Fused.id)) ∧
    (0 ≤ p.vectorWeight → 0 ≤ p.textWeight →
      (∀ hits ∈ [vector, text], (rawScore b hits).getD 0 ≤ (rawScore a hits).getD 0) →
      (fusedHit .weighted p vector text b).score ≤ (fusedHit .weighted p vector text a).score ∧
        (a ∈ candidates vector text → a ≠ b →
          ∀ limit, b ∈ (fuse vector text .weighted p limit).map Fused.id →
            ([a, b].Sublist ((fuse vector text .weighted p limit).map Fused.id) ↔
              ¬ ((fusedHit .weighted p vector text a).score =
                  (fusedHit .weighted p vector text b).score ∧
                Text.bytes b < Text.bytes a)))) := by
  constructor
  · intro hleads
    refine ⟨hleads.score_lt, fun limit hb => ?_⟩
    exact (sublist_fuse_iff hleads.mem hb).2 (.inl hleads.score_lt)
  · intro hvector htext hraw
    have hle := score_weighted_le hvector htext hraw
    refine ⟨hle, fun ha hne limit hb => ?_⟩
    rw [sublist_fuse_iff ha hb]
    constructor
    · rintro (hlt | ⟨-, hab⟩) ⟨htie, hba⟩
      · exact hlt.ne' htie
      · exact List.lt_asymm hab hba
    · intro hnot
      rcases hle.lt_or_eq with hlt | heq
      · exact .inl hlt
      · refine .inr ⟨heq.symm, ?_⟩
        rw [← Text.lt_iff_bytes_lt] at hnot ⊢
        have hba : ¬ b < a := fun hba => hnot ⟨heq.symm, hba⟩
        by_contra hab
        exact hne (String.le_antisymm (String.not_lt.1 hba) (String.not_lt.1 hab))

/-- Two rankings of which the second lacks an id. -/
def uneven : List (Hit ℚ) × List (Hit ℚ) :=
  ([⟨"a", 9 / 10⟩, ⟨"b", 1 / 2⟩], [⟨"a", 1 / 10⟩])

/-- The one that both have leads, and is kept in front of the other in both modes, wherever the
other is kept; and the other is kept where there is room for two. -/
theorem fuse_dominance_uneven :
    Leads uneven.1 uneven.2 "a" "b" ∧ "a" ∈ candidates uneven.1 uneven.2 ∧
      (∀ limit,
        ("b" ∈ (fuse uneven.1 uneven.2 .reciprocalRank ⟨1, 1, 60⟩ limit).map Fused.id →
          ["a", "b"].Sublist
            ((fuse uneven.1 uneven.2 .reciprocalRank ⟨1, 1, 60⟩ limit).map Fused.id)) ∧
        ("b" ∈ (fuse uneven.1 uneven.2 .weighted ⟨1, 1, 60⟩ limit).map Fused.id →
          ["a", "b"].Sublist
            ((fuse uneven.1 uneven.2 .weighted ⟨1, 1, 60⟩ limit).map Fused.id))) ∧
      ∀ mode, "b" ∈ (fuse uneven.1 uneven.2 mode ⟨1, 1, 60⟩ 2).map Fused.id ∧
        ["a", "b"].Sublist ((fuse uneven.1 uneven.2 mode ⟨1, 1, 60⟩ 2).map Fused.id) := by
  have hleads : Leads uneven.1 uneven.2 "a" "b" := by
    refine ⟨?_, uneven.2, by simp, 1, by decide, fun m hm => ?_⟩
    · rw [List.forall_mem_cons, List.forall_mem_singleton]
      refine ⟨fun m hm => ⟨1, ?_, by decide⟩, fun m hm => ?_⟩
      · cases hm
        decide
      · cases hm
    · cases hm
  have hraw : ∀ hits ∈ [uneven.1, uneven.2],
      (rawScore "b" hits).getD 0 ≤ (rawScore "a" hits).getD 0 := by
    rw [List.forall_mem_cons, List.forall_mem_singleton]
    constructor
    · change (1 / 2 : ℚ) ≤ 9 / 10
      norm_num
    · change (0 : ℚ) ≤ 1 / 10
      norm_num
  obtain ⟨hranks, hweights⟩ := fuse_dominance ⟨1, 1, 60⟩ uneven.1 uneven.2 "a" "b"
  obtain ⟨-, hranked⟩ := hranks hleads
  obtain ⟨-, hweighed⟩ := hweights zero_le_one zero_le_one hraw
  have hid : ¬ Text.bytes "b" < Text.bytes "a" := by decide
  have hfront limit hb := (hweighed hleads.mem (by decide) limit hb).2 fun h => hid h.2
  -- there are two candidates, so that both are kept at this limit
  have hroom : (candidates uneven.1 uneven.2).length ≤ 2 := by decide
  have hkept (mode : FusionMode) :
      "b" ∈ (fuse uneven.1 uneven.2 mode ⟨1, 1, 60⟩ 2).map Fused.id :=
    mem_fuse_of_length_le hroom (by decide)
  refine ⟨hleads, hleads.mem, fun limit => ⟨hranked limit, hfront limit⟩, fun mode => ?_⟩
  cases mode with
  | weighted => exact ⟨hkept _, hfront 2 (hkept _)⟩
  | reciprocalRank => exact ⟨hkept _, hranked 2 (hkept _)⟩

end KnowledgeBase.Fusion
