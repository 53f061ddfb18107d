import KnowledgeBase.Settings.Store
import KnowledgeBase.Graph.Node

/-!
# Hybrid search requests and results

## Main definitions

* `Scope` — what narrows both rankings besides the tenant.
* `Search.Request`, `Search.Request.effectiveLimit` — a search and the number of its results.
* `Search.Result` — a node with its scores.

## Main results

* `Search.Request.effectiveLimit_le` — no more results than candidates.
-/

namespace KnowledgeBase

/-- Narrows both rankings of a search. -/
structure Scope where
  /-- Nodes of this user or of no user. -/
  user : Option String
  /-- Nodes at or below this path. -/
  path : Option LabelPath
  /-- Nodes of one of these source types; empty means any. -/
  sourceTypes : List String

namespace Scope

/-- No restriction. -/
def all : Scope := ⟨none, none, []⟩

/-- Whether nothing is restricted. -/
def isUnrestricted (s : Scope) : Bool :=
  s.user.isNone && s.path.isNone && s.sourceTypes.isEmpty

instance codec : Codec Scope where
  encode s := .obj [("user_id", encode s.user), ("path_scope", encode s.path),
    ("source_types", encode s.sourceTypes)]
  decode := Json.readRecord .strict ["user_id", "path_scope", "source_types"] fun r =>
    Scope.mk <$> r.optional "user_id" decode <*> r.optional "path_scope" decode
      <*> r.required "source_types" decode

end Scope

namespace Search

/-- A hybrid search. -/
structure Request where
  tenant : String
  /-- The text to match; a blank text leaves the lexical ranking out. -/
  text : String
  /-- The embedding to compare with; an empty one leaves the vector ranking out. -/
  vector : List Float32
  /-- How many candidates each ranking gives. -/
  candidateK : UInt32
  /-- How many results are returned, never more than there are candidates. -/
  limit : UInt32
  scope : Scope
  fusion : FusionMode
  params : FusionParams Float

namespace Request

/-- A search with the parameters of the settings. -/
def ofSettings (tenant text : String) (vector : List Float32) (s : SearchSettings) : Request :=
  ⟨tenant, text, vector, s.candidateK, s.limit, .all, s.fusion, s.fusionParams⟩

/-- The number of results, unless a bound of zero admits none. -/
def effectiveLimit (r : Request) : Option UInt32 :=
  if r.candidateK = 0 || r.limit = 0 then none
  else some (if r.limit ≤ r.candidateK then r.limit else r.candidateK)

theorem effectiveLimit_le {r : Request} {n : UInt32} (h : r.effectiveLimit = some n) :
    n ≤ r.candidateK ∧ n ≤ r.limit := by
  unfold effectiveLimit at h
  split at h
  · simp at h
  · rw [Option.some.injEq] at h
    split at h
    · next hl => exact h ▸ ⟨hl, UInt32.le_refl _⟩
    · next hl => exact h ▸ ⟨UInt32.le_refl _, UInt32.le_of_lt (UInt32.not_le.1 hl)⟩

instance codec : Codec Request where
  encode r := .obj [("tenant_id", encode r.tenant), ("query_text", encode r.text),
    ("query_vector", encode r.vector), ("candidate_k", encode r.candidateK),
    ("limit", encode r.limit), ("scope", encode r.scope), ("fusion", encode r.fusion),
    ("params", encode r.params)]
  decode := Json.readRecord .strict
      ["tenant_id", "query_text", "query_vector", "candidate_k", "limit", "scope", "fusion",
        "params"] fun r =>
    Request.mk <$> r.required "tenant_id" decode <*> r.required "query_text" decode
      <*> r.required "query_vector" decode <*> r.required "candidate_k" decode
      <*> r.required "limit" decode <*> r.required "scope" decode <*> r.required "fusion" decode
      <*> r.required "params" decode

end Request

/-- A node found by a search, with its fused score and the scores of the rankings that hold it. -/
structure Result where
  node : Node
  score : Float
  vectorScore : Option Float
  textScore : Option Float

instance Result.codec : Codec Result where
  encode r := .obj [("node", encode r.node), ("score", encode r.score),
    ("vector_score", encode r.vectorScore), ("text_score", encode r.textScore)]
  decode := Json.readRecord .strict ["node", "score", "vector_score", "text_score"] fun r =>
    Result.mk <$> r.required "node" decode <*> r.required "score" decode
      <*> r.optional "vector_score" decode <*> r.optional "text_score" decode

end Search

end KnowledgeBase
