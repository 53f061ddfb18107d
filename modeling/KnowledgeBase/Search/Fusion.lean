import KnowledgeBase.Text.Ascii
import KnowledgeBase.Text.Distinct
import KnowledgeBase.Json.Record

/-!
# Fusion of two rankings

Hybrid retrieval ranks chunks twice, by vector similarity and by lexical match, and fuses the two
rankings into one.  Fusion is either a weighted sum of the raw scores or the sum of reciprocal
ranks.  Of several hits of one id in a ranking the first counts.

## Main definitions

* `FusionMode`, `FusionParams` — the policy and its numbers.
* `Score` — the arithmetic that fusion needs; doubles are an instance.
* `Fusion.fuse` — the best candidates of two rankings, best first, equal scores by id.

## Main results

* `Fusion.length_fuse_le` — no more candidates are kept than asked for.
-/

namespace KnowledgeBase

/-- How two rankings are combined. -/
inductive FusionMode where
  /-- The weighted sum of the raw scores. -/
  | weighted
  /-- The sum of reciprocal ranks. -/
  | reciprocalRank
deriving DecidableEq

namespace FusionMode

/-- The written form. -/
def name : FusionMode → String
  | weighted => "weighted"
  | reciprocalRank => "rrf"

/-- The mode of exactly this name. -/
def ofName? (s : String) : Option FusionMode :=
  if s = "weighted" then some .weighted else if s = "rrf" then some .reciprocalRank else none

/-- The mode of a name in any case. -/
def parse (s : String) : Except Refusal FusionMode :=
  let s := Text.lower s
  (ofName? s).elim (.error (.unknownFusion s)) .ok

end FusionMode

/-- A mode is written as its name. -/
instance FusionMode.codec : Codec FusionMode where
  encode m := .str m.name
  decode := Json.readConstant .strict FusionMode.ofName?

/-- The numbers of both policies; each policy reads its own. -/
structure FusionParams (R : Type) where
  vectorWeight : R
  textWeight : R
  /-- Added to a rank before its reciprocal is taken. -/
  rankOffset : UInt32

instance FusionParams.codec : Codec (FusionParams Float) where
  encode p := .obj [("vector_weight", encode p.vectorWeight), ("text_weight", encode p.textWeight),
    ("rrf_k", encode p.rankOffset)]
  decode := Json.readRecord .strict ["vector_weight", "text_weight", "rrf_k"] fun r =>
    FusionParams.mk <$> r.required "vector_weight" decode <*> r.required "text_weight" decode
      <*> r.required "rrf_k" decode

/-- The arithmetic of scores. -/
class Score (R : Type) where
  ofNat : Nat → R
  add : R → R → R
  mul : R → R → R
  div : R → R → R
  /-- The order of two scores, with no answer when they are not comparable. -/
  compare? : R → R → Option Ordering

instance : Score Float where
  ofNat n := Double.ofInt n
  add x y := x + y
  mul x y := x * y
  div x y := x / y
  compare? := Double.compare?

namespace Fusion

/-- One hit of a ranking, which lists them best first. -/
structure Hit (R : Type) where
  id : String
  score : R

/-- A candidate after fusion, with the raw scores it was made from. -/
structure Fused (R : Type) where
  id : String
  score : R
  vectorScore : Option R
  textScore : Option R

variable {R : Type}

/-- The position, counted on from `rank`, and the score of the first hit of an id. -/
def firstFrom (rank : Nat) (id : String) : List (Hit R) → Option (Nat × R)
  | [] => none
  | h :: hs => if h.id = id then some (rank, h.score) else firstFrom (rank + 1) id hs

/-- The position from one and the score of the first hit of an id. -/
def first (id : String) (hits : List (Hit R)) : Option (Nat × R) := firstFrom 1 id hits

/-- The ids of either ranking, each once. -/
def candidates (vector text : List (Hit R)) : List String :=
  Text.distinct ((vector ++ text).map Hit.id)

variable [Score R]

/-- The reciprocal of a rank moved by the offset. -/
def reciprocal (p : FusionParams R) (rank : Nat) : R :=
  Score.div (Score.ofNat 1) (Score.add (Score.ofNat p.rankOffset.toNat) (Score.ofNat rank))

/-- The fused score of a candidate with the given first hits.  A ranking without it adds nothing. -/
def fusedScore (mode : FusionMode) (p : FusionParams R) (vector text : Option (Nat × R)) : R :=
  match mode with
  | .weighted =>
    Score.add (Score.mul p.vectorWeight ((vector.map Prod.snd).getD (Score.ofNat 0)))
      (Score.mul p.textWeight ((text.map Prod.snd).getD (Score.ofNat 0)))
  | .reciprocalRank =>
    match vector, text with
    | some (v, _), some (t, _) => Score.add (reciprocal p v) (reciprocal p t)
    | some (v, _), none => reciprocal p v
    | none, some (t, _) => reciprocal p t
    | none, none => Score.ofNat 0

/-- The candidate of an id. -/
def fusedHit (mode : FusionMode) (p : FusionParams R) (vector text : List (Hit R)) (id : String) :
    Fused R :=
  let v := first id vector
  let t := first id text
  ⟨id, fusedScore mode p v t, v.map Prod.snd, t.map Prod.snd⟩

/-- Greater scores come first, and ids decide between scores that are equal or not comparable. -/
def order (a b : Fused R) : Ordering :=
  ((Score.compare? b.score a.score).getD .eq).then (compare a.id b.id)

/-- The best `limit` candidates of two rankings, best first. -/
def fuse (vector text : List (Hit R)) (mode : FusionMode) (p : FusionParams R) (limit : Nat) :
    List (Fused R) :=
  (((candidates vector text).map (fusedHit mode p vector text)).mergeSort
    fun a b => (order a b).isLE).take limit

theorem length_fuse_le (vector text : List (Hit R)) (mode : FusionMode) (p : FusionParams R)
    (limit : Nat) : (fuse vector text mode p limit).length ≤ limit := by
  simp only [fuse, List.length_take]
  exact Nat.min_le_left _ _

end Fusion

end KnowledgeBase
