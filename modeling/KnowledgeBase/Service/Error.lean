import KnowledgeBase.Error
import KnowledgeBase.Embedding.Error

/-!
# Errors of the service

## Main definitions

* `ServiceError`, `ServiceError.message` — what can go wrong in the service.
-/

namespace KnowledgeBase

/-- A failure of the service. -/
inductive ServiceError where
  | store (e : StoreError)
  /-- The settings of the service are invalid. -/
  | config (detail : String)
  | embedding (e : EmbeddingError)
  /-- The service did not start. -/
  | bootFailed (detail : String)
deriving DecidableEq

/-- The sentence shown to people. -/
def ServiceError.message : ServiceError → String
  | store e => e.message
  | config d => "Configuration error: " ++ d
  | embedding e => e.message
  | bootFailed d => "Boot failed: " ++ d

end KnowledgeBase
