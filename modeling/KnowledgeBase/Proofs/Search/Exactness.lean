import KnowledgeBase.Proofs.Search.Ranking
import KnowledgeBase.Proofs.Number.Sum

/-!
# Fusion keeps exactly the best candidates

A candidate is described by its first hit in each ranking.  Fusion describes each id of the two
rankings once, and keeps the best of these candidates, in their order.

## Main definitions

* `Fusion.candidate` — the candidate of an id, by the formula of the mode.
* `Fusion.Entries` — the ids of two rankings in some order, each once.
* `Fusion.Best` — the best candidates of two rankings, best first.

## Main results

* `Fusion.best_fuse` — fusion keeps the best candidates if their scores are comparable.
* `Fusion.fuse_exact` — of doubles, if none of them is a NaN; the order in which the ids are visited
  does not matter.
-/

namespace KnowledgeBase.Fusion

variable {R : Type}

/-! ### First hits -/

/-- The position, from one, of the first hit of an id. -/
def position (id : String) (hits : List (Hit R)) : Option Nat :=
  (hits.findIdx? fun h => h.id = id).map (· + 1)

/-- The score of the first hit of an id. -/
def rawScore (id : String) (hits : List (Hit R)) : Option R :=
  (hits.find? fun h => h.id = id).map Hit.score

theorem firstFrom_fst (rank : Nat) (id : String) (hits : List (Hit R)) :
    (firstFrom rank id hits).map Prod.fst =
      (hits.findIdx? fun h => h.id = id).map (· + rank) := by
  induction hits generalizing rank with
  | nil => rfl
  | cons h hs ih =>
    rw [firstFrom, List.findIdx?_cons]
    by_cases hid : h.id = id
    · simp [hid]
    · rw [if_neg hid, ih, if_neg (by simpa using hid), Option.map_map]
      congr 1
      funext i
      exact Nat.add_left_comm i rank 1 |>.trans (Nat.add_comm rank (i + 1))

theorem firstFrom_snd (rank : Nat) (id : String) (hits : List (Hit R)) :
    (firstFrom rank id hits).map Prod.snd = rawScore id hits := by
  induction hits generalizing rank with
  | nil => rfl
  | cons h hs ih =>
    rw [firstFrom, rawScore, List.find?_cons]
    by_cases hid : h.id = id
    · simp [hid]
    · simp only [hid, if_false, decide_false]
      exact ih (rank + 1)

theorem position_eq (id : String) (hits : List (Hit R)) :
    position id hits = (first id hits).map Prod.fst := (firstFrom_fst 1 id hits).symm

theorem rawScore_eq (id : String) (hits : List (Hit R)) :
    rawScore id hits = (first id hits).map Prod.snd := (firstFrom_snd 1 id hits).symm

theorem position_pos {id : String} {hits : List (Hit R)} {n : Nat}
    (h : position id hits = some n) : 0 < n := by
  obtain ⟨i, -, rfl⟩ := Option.map_eq_some_iff.1 h
  exact Nat.succ_pos i

/-! ### Candidates -/

variable [Score R]

/-- What the reciprocal of a rank divides by. -/
def divisor (p : FusionParams R) (rank : Nat) : R :=
  Score.add (Score.ofNat p.rankOffset.toNat) (Score.ofNat rank)

/-- The sum of scores from left to right. -/
def sum : List R → R
  | [] => Score.ofNat 0
  | x :: xs => xs.foldl Score.add x

/-- The candidate of an id, by the formula of the mode: the weighted raw scores, of which a missing
one is zero, or the reciprocals of the ranks in those rankings that have the id. -/
def candidate (mode : FusionMode) (p : FusionParams R) (vector text : List (Hit R)) (id : String) :
    Fused R where
  id := id
  score :=
    match mode with
    | .weighted =>
      Score.add (Score.mul p.vectorWeight ((rawScore id vector).getD (Score.ofNat 0)))
        (Score.mul p.textWeight ((rawScore id text).getD (Score.ofNat 0)))
    | .reciprocalRank =>
      sum (([vector, text].filterMap (position id)).map fun rank =>
        Score.div (Score.ofNat 1) (divisor p rank))
  vectorScore := rawScore id vector
  textScore := rawScore id text

theorem fusedHit_eq_candidate (mode : FusionMode) (p : FusionParams R) (vector text : List (Hit R))
    (id : String) : fusedHit mode p vector text id = candidate mode p vector text id := by
  simp only [fusedHit, candidate, rawScore_eq]
  congr 1
  cases mode with
  | weighted => rfl
  | reciprocalRank =>
    simp only [position_eq, List.filterMap_cons, List.filterMap_nil]
    cases first id vector <;> cases first id text <;> rfl

/-- The ids of two rankings in some order, each once. -/
structure Entries (vector text : List (Hit R)) (ids : List String) : Prop where
  nodup : ids.Nodup
  mem_iff : ∀ id, id ∈ ids ↔ ∃ h ∈ vector ++ text, h.id = id

omit [Score R] in
theorem entries_candidates (vector text : List (Hit R)) :
    Entries vector text (candidates vector text) where
  nodup := Text.distinct_nodup _
  mem_iff _ := Text.mem_distinct.trans List.mem_map

omit [Score R] in
/-- The ids may be visited in any other order. -/
theorem Entries.perm {vector text : List (Hit R)} {ids ids' : List String}
    (h : Entries vector text ids) (hperm : ids'.Perm ids) : Entries vector text ids' where
  nodup := hperm.nodup_iff.2 h.nodup
  mem_iff id := hperm.mem_iff.trans (h.mem_iff id)

/-- The candidates of all ids. -/
def described (mode : FusionMode) (p : FusionParams R) (vector text : List (Hit R)) :
    List (Fused R) :=
  (candidates vector text).map (candidate mode p vector text)

/-- In whatever order the ids are visited, the candidates are the same. -/
theorem Entries.perm_described {vector text : List (Hit R)} {ids : List String}
    (h : Entries vector text ids) (mode : FusionMode) (p : FusionParams R) :
    (ids.map (candidate mode p vector text)).Perm (described mode p vector text) := by
  have hperm : ids.Perm (candidates vector text) := by
    rw [List.perm_ext_iff_of_nodup h.nodup (entries_candidates vector text).nodup]
    intro id
    rw [h.mem_iff, (entries_candidates vector text).mem_iff]
  exact hperm.map _

omit [Score R] in
theorem map_id_map {f : String → Fused R} (hf : ∀ id, (f id).id = id) (ids : List String) :
    (ids.map f).map Fused.id = ids := by
  rw [List.map_map]
  exact (List.map_congr_left fun id _ => hf id).trans (List.map_id ids)

theorem map_id_described (mode : FusionMode) (p : FusionParams R) (vector text : List (Hit R)) :
    (described mode p vector text).map Fused.id = candidates vector text :=
  map_id_map (fun _ => rfl) _

theorem nodup_described (mode : FusionMode) (p : FusionParams R) (vector text : List (Hit R)) :
    ((described mode p vector text).map Fused.id).Nodup := by
  rw [map_id_described]
  exact (entries_candidates vector text).nodup

theorem fuse_eq (mode : FusionMode) (p : FusionParams R) (vector text : List (Hit R))
    (limit : Nat) : fuse vector text mode p limit =
      (sorted (described mode p vector text)).take limit := by
  rw [fuse, sorted, described,
    List.map_congr_left fun id _ => fusedHit_eq_candidate mode p vector text id]

/-- What fusion keeps are candidates. -/
theorem mem_fuse {mode : FusionMode} {p : FusionParams R} {vector text : List (Hit R)} {limit : Nat}
    {f : Fused R} (h : f ∈ fuse vector text mode p limit) :
    ∃ id ∈ candidates vector text, candidate mode p vector text id = f := by
  rw [fuse_eq] at h
  exact List.mem_map.1 ((sorted_perm _).mem_iff.1 (List.mem_of_mem_take h))

/-- Where there is room for all candidates, all are kept. -/
theorem mem_fuse_of_length_le {mode : FusionMode} {p : FusionParams R} {vector text : List (Hit R)}
    {limit : Nat} {id : String} (hroom : (candidates vector text).length ≤ limit)
    (hid : id ∈ candidates vector text) : id ∈ (fuse vector text mode p limit).map Fused.id := by
  have hperm := sorted_perm (described mode p vector text)
  have hlength : (sorted (described mode p vector text)).length ≤ limit := by
    rwa [hperm.length_eq, described, List.length_map]
  rw [fuse_eq, List.take_of_length_le hlength, (hperm.map Fused.id).mem_iff, map_id_described]
  exact hid

/-- No id is kept twice. -/
theorem nodup_fuse (mode : FusionMode) (p : FusionParams R) (vector text : List (Hit R))
    (limit : Nat) : ((fuse vector text mode p limit).map Fused.id).Nodup := by
  rw [fuse_eq, List.map_take]
  refine List.Sublist.nodup (List.take_sublist _ _) ?_
  exact ((sorted_perm _).map Fused.id).nodup_iff.2 (nodup_described mode p vector text)

/-- Each id that is kept is that of a hit. -/
theorem exists_hit_of_mem_fuse {mode : FusionMode} {p : FusionParams R}
    {vector text : List (Hit R)} {limit : Nat} {f : Fused R}
    (h : f ∈ fuse vector text mode p limit) : ∃ hit ∈ vector ++ text, hit.id = f.id := by
  obtain ⟨id, hid, rfl⟩ := mem_fuse h
  exact ((entries_candidates vector text).mem_iff id).1 hid

/-! ### The best candidates -/

/-- The best `limit` candidates of two rankings, best first, each as described. -/
structure Best (mode : FusionMode) (p : FusionParams R) (vector text : List (Hit R)) (limit : Nat)
    (out : List (Fused R)) : Prop where
  nodup : (out.map Fused.id).Nodup
  length_eq : out.length = min limit (candidates vector text).length
  mem : ∀ f ∈ out, f.id ∈ candidates vector text
  eq_candidate : ∀ f ∈ out, f = candidate mode p vector text f.id
  pairwise : out.Pairwise Before
  before_rest : ∀ f ∈ out, ∀ id ∈ candidates vector text, id ∉ out.map Fused.id →
    Before f (candidate mode p vector text id)

section

variable {mode : FusionMode} {p : FusionParams R} {vector text : List (Hit R)} {limit : Nat}
  {K : Type} [Ord K] [Std.TransOrd K] {key : R → K}

/-- **Fusion keeps the best candidates** if their scores are comparable. -/
theorem best_fuse (h : Comparable key (described mode p vector text)) :
    Best mode p vector text limit (fuse vector text mode p limit) := by
  have hperm := sorted_perm (described mode p vector text)
  have hsorted := h.pairwise_sorted (nodup_described mode p vector text)
  refine ⟨nodup_fuse mode p vector text limit, ?_, ?_, ?_, ?_, ?_⟩
  · rw [fuse_eq, List.length_take, hperm.length_eq, described, List.length_map]
  · intro f hf
    obtain ⟨id, hid, rfl⟩ := mem_fuse hf
    exact hid
  · intro f hf
    obtain ⟨id, hid, rfl⟩ := mem_fuse hf
    rfl
  · rw [fuse_eq]
    exact hsorted.sublist (List.take_sublist _ _)
  · -- a candidate that is not kept is among those cut off
    intro f hf id hid hout
    rw [fuse_eq] at hf hout
    have hin := hperm.mem_iff.2 (List.mem_map_of_mem (f := candidate mode p vector text) hid)
    rw [← List.take_append_drop limit (sorted _)] at hin hsorted
    rcases List.mem_append.1 hin with hkept | hcut
    · exact absurd (List.mem_map_of_mem (f := Fused.id) hkept) hout
    · exact (List.pairwise_append.1 hsorted).2.2 f hf _ hcut

/-- The order in which the ids are visited does not matter. -/
theorem fuse_eq_of_entries (h : Comparable key (described mode p vector text)) {ids : List String}
    (hentries : Entries vector text ids) :
    (sorted (ids.map (candidate mode p vector text))).take limit =
      fuse vector text mode p limit := by
  rw [fuse_eq, h.sorted_eq_of_perm (nodup_described mode p vector text)
    (hentries.perm_described mode p)]

end

/-! ### Doubles -/

theorem comparable_of_not_nan {fs : List (Fused Float)}
    (h : ∀ f ∈ fs, Double.isNaN f.score = false) : Comparable Double.key fs := by
  intro a ha b hb
  change Double.compare? a.score b.score = _
  rw [Double.compare?, h a ha, h b hb]
  rfl

/-- **Fusion is an exact selection** of the best candidates, if no score is a NaN.  Each id is
described once, and the result is the same in whatever order the ids are visited.  No rank is
divided by zero. -/
theorem fuse_exact (mode : FusionMode) (p : FusionParams Float) (vector text : List (Hit Float))
    (limit : Nat)
    (hnan : ∀ id ∈ candidates vector text,
      Double.isNaN (candidate mode p vector text id).score = false) :
    Entries vector text (candidates vector text) ∧
    Best mode p vector text limit (fuse vector text mode p limit) ∧
    (∀ ids, Entries vector text ids →
      (sorted (ids.map (candidate mode p vector text))).take limit =
        fuse vector text mode p limit) ∧
    ∀ (hits : List (Hit Float)) (id : String) (rank : Nat), position id hits = some rank →
      Double.magnitude (divisor p rank) ≠ 0 := by
  have hcomparable : Comparable Double.key (described mode p vector text) := by
    refine comparable_of_not_nan ?_
    intro f hf
    obtain ⟨id, hid, rfl⟩ := List.mem_map.1 hf
    exact hnan id hid
  refine ⟨entries_candidates vector text, best_fuse hcomparable,
    fun ids hids => fuse_eq_of_entries hcomparable hids, ?_⟩
  intro hits id rank hrank
  exact Double.magnitude_add_ofInt p.rankOffset.toNat (position_pos hrank)

/-- Two rankings that share an id, which the first of them has twice. -/
def overlap : List (Hit Float) × List (Hit Float) :=
  ([⟨"b", Double.ofInt 3⟩, ⟨"a", Double.ofInt 2⟩, ⟨"b", Double.ofInt 1⟩],
    [⟨"c", Double.ofInt 5⟩, ⟨"b", Double.ofInt 4⟩])

/-- The parameters of a fusion without weights. -/
def evenParams : FusionParams Float := ⟨Double.ofInt 1, Double.ofInt 1, 60⟩

theorem fuse_exact_overlap :
    (∀ id ∈ candidates overlap.1 overlap.2,
      Double.isNaN (candidate .reciprocalRank evenParams overlap.1 overlap.2 id).score = false) ∧
    Best .reciprocalRank evenParams overlap.1 overlap.2 2
      (fuse overlap.1 overlap.2 .reciprocalRank evenParams 2) := by
  have hnan : ∀ id ∈ candidates overlap.1 overlap.2,
      Double.isNaN (candidate .reciprocalRank evenParams overlap.1 overlap.2 id).score = false := by
    decide +kernel
  exact ⟨hnan, (fuse_exact .reciprocalRank evenParams overlap.1 overlap.2 2 hnan).2.1⟩

end KnowledgeBase.Fusion
