import KnowledgeBase.Json.Record

/-!
# Episodes and beliefs

An episode is one turn of a conversation and never changes.  A belief is a value held under a key
about a user, with a confidence between zero and one.

## Main definitions

* `Episode.Draft`, `Episode`, `Episode.Stats` — turns to append, stored turns, their number.
* `Belief`, `Belief.validateConfidence` — what is known about a user.
-/

namespace KnowledgeBase

/-- A stored turn of a conversation. -/
structure Episode where
  id : Uuid
  tenant : String
  user : String
  session : Option String
  content : String
  metadata : Metadata
  createdAt : Timestamp

namespace Episode

/-- A turn to append.  Reusing an id violates a constraint. -/
structure Draft where
  id : Uuid
  tenant : String
  user : String
  session : Option String
  content : String
  embedding : Option (List Float32)
  metadata : Metadata

/-- A turn with the required fields only, under a fresh id. -/
def Draft.ofContent (id : Uuid) (tenant user content : String) : Draft :=
  ⟨id, tenant, user, none, content, none, .empty⟩

/-- How many turns a tenant has, and the times of the first and the last. -/
structure Stats where
  total : Int64
  oldest : Option Timestamp
  newest : Option Timestamp

end Episode

instance Episode.codec : Codec Episode where
  encode e := .obj [("id", encode e.id), ("tenant_id", encode e.tenant), ("user_id", encode e.user),
    ("session_id", encode e.session), ("content", encode e.content),
    ("metadata", encode e.metadata), ("created_at", encode e.createdAt)]
  decode := Json.readRecord .strict
      ["id", "tenant_id", "user_id", "session_id", "content", "metadata", "created_at"] fun r =>
    Episode.mk <$> r.required "id" decode <*> r.required "tenant_id" decode
      <*> r.required "user_id" decode <*> r.optional "session_id" decode
      <*> r.required "content" decode <*> r.required "metadata" decode
      <*> r.required "created_at" decode

instance Episode.Draft.codec : Codec Episode.Draft where
  encode e := .obj [("id", encode e.id), ("tenant_id", encode e.tenant), ("user_id", encode e.user),
    ("session_id", encode e.session), ("content", encode e.content),
    ("embedding", encode e.embedding), ("metadata", encode e.metadata)]
  decode := Json.readRecord .strict
      ["id", "tenant_id", "user_id", "session_id", "content", "embedding", "metadata"] fun r =>
    Episode.Draft.mk <$> r.required "id" decode <*> r.required "tenant_id" decode
      <*> r.required "user_id" decode <*> r.optional "session_id" decode
      <*> r.required "content" decode <*> r.optional "embedding" decode
      <*> r.required "metadata" decode

instance Episode.Stats.codec : Codec Episode.Stats where
  encode s := .obj [("total", encode s.total), ("oldest", encode s.oldest),
    ("newest", encode s.newest)]
  decode := Json.readRecord .strict ["total", "oldest", "newest"] fun r =>
    Episode.Stats.mk <$> r.required "total" decode <*> r.optional "oldest" decode
      <*> r.optional "newest" decode

/-- A durable belief about a user. -/
structure Belief where
  tenant : String
  user : String
  key : String
  value : Json
  confidence : Float
  /-- The episode it was drawn from. -/
  source : Option Uuid
  updatedAt : Timestamp

namespace Belief

/-- Refuses a confidence outside zero to one, and one that is no number. -/
def validateConfidence (confidence : Float) : Except StoreError Unit :=
  let one : Float := 1.0
  if Double.isNaN confidence || Double.key confidence < 0 || Double.key one < Double.key confidence
  then .error (Refusal.confidenceOutOfRange confidence).toError
  else .ok ()

end Belief

instance Belief.codec : Codec Belief where
  encode b := .obj [("tenant_id", encode b.tenant), ("user_id", encode b.user),
    ("fact_key", encode b.key), ("fact_value", encode b.value),
    ("confidence", encode b.confidence), ("source_id", encode b.source),
    ("updated_at", encode b.updatedAt)]
  decode := Json.readRecord .strict
      ["tenant_id", "user_id", "fact_key", "fact_value", "confidence", "source_id", "updated_at"]
      fun r =>
    Belief.mk <$> r.required "tenant_id" decode <*> r.required "user_id" decode
      <*> r.required "fact_key" decode <*> r.required "fact_value" decode
      <*> r.required "confidence" decode <*> r.optional "source_id" decode
      <*> r.required "updated_at" decode

end KnowledgeBase
