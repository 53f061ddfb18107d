/-!
# Errors of embedding

## Main definitions

* `EmbeddingError`, `EmbeddingError.message` — why texts have no embeddings.
-/

namespace KnowledgeBase

/-- Why texts have no embeddings. -/
inductive EmbeddingError where
  /-- The backend failed. -/
  | backend (detail : String)
  /-- The answer of the backend was not understood. -/
  | parse (detail : String)
  /-- A vector has another dimension than the store. -/
  | dimension (expected actual : Nat)
deriving DecidableEq

/-- The sentence shown to people. -/
def EmbeddingError.message : EmbeddingError → String
  | backend d => "Embedding backend error: " ++ d
  | parse d => "Parse error: " ++ d
  | dimension expected actual =>
    "Embedding dimension mismatch: expected " ++ toString expected ++ ", got " ++ toString actual

end KnowledgeBase
