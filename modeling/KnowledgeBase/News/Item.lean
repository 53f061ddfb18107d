import KnowledgeBase.Json.Record

/-!
# The news archive

Items are harvested, facts are drawn from them, and posts are written about facts.  Items and facts
are unique for a tenant and an address; posts about one address are written once.

## Main definitions

* `News.RawItem`, `News.Fact`, `News.Post` — what the archive takes in.
* `News.ScoredFact`, `News.ScoredPost` — what a similarity search finds.
-/

namespace KnowledgeBase.News

/-- A harvested item. -/
structure RawItem where
  id : String
  tenant : String
  url : String
  headline : String
  summary : String
  category : Option String
  /-- The service it was harvested from. -/
  sourceApi : String
  metadata : Metadata

instance RawItem.codec : Codec RawItem where
  encode i := .obj [("id", encode i.id), ("tenant_id", encode i.tenant), ("url", encode i.url),
    ("headline", encode i.headline), ("summary", encode i.summary),
    ("category", encode i.category), ("source_api", encode i.sourceApi),
    ("metadata", encode i.metadata)]
  decode := Json.readRecord .strict
      ["id", "tenant_id", "url", "headline", "summary", "category", "source_api", "metadata"]
      fun r =>
    RawItem.mk <$> r.required "id" decode <*> r.required "tenant_id" decode
      <*> r.required "url" decode <*> r.required "headline" decode <*> r.required "summary" decode
      <*> r.optional "category" decode <*> r.required "source_api" decode
      <*> r.required "metadata" decode

/-- A validated fact. -/
structure Fact where
  id : String
  tenant : String
  url : String
  headline : String
  summary : String
  category : Option String
  suggestedAgent : Option String
  significance : Float
  atomicFacts : List String
  ironyPotential : Option String
  /-- Written only; reads leave it out. -/
  embedding : Option (List Float32)
  metadata : Metadata
  rawId : Option String
  createdAt : Option Timestamp

/-- A fact of middling significance with the required fields only. -/
def Fact.about (id tenant url headline summary : String) : Fact :=
  ⟨id, tenant, url, headline, summary, none, none, 0.5, [], none, none, .empty, none, none⟩

instance Fact.codec : Codec Fact where
  encode f := .obj [("id", encode f.id), ("tenant_id", encode f.tenant), ("url", encode f.url),
    ("headline", encode f.headline), ("summary", encode f.summary),
    ("category", encode f.category), ("suggested_agent", encode f.suggestedAgent),
    ("significance", encode f.significance), ("atomic_facts", encode f.atomicFacts),
    ("irony_potential", encode f.ironyPotential), ("embedding", encode f.embedding),
    ("metadata", encode f.metadata), ("raw_id", encode f.rawId),
    ("created_at", encode f.createdAt)]
  decode := Json.readRecord .strict
      ["id", "tenant_id", "url", "headline", "summary", "category", "suggested_agent",
        "significance", "atomic_facts", "irony_potential", "embedding", "metadata", "raw_id",
        "created_at"] fun r =>
    Fact.mk <$> r.required "id" decode <*> r.required "tenant_id" decode
      <*> r.required "url" decode <*> r.required "headline" decode <*> r.required "summary" decode
      <*> r.optional "category" decode <*> r.optional "suggested_agent" decode
      <*> r.required "significance" decode <*> r.required "atomic_facts" decode
      <*> r.optional "irony_potential" decode <*> r.optional "embedding" decode
      <*> r.required "metadata" decode <*> r.optional "raw_id" decode
      <*> r.optional "created_at" decode

/-- A fact found by similarity. -/
structure ScoredFact where
  id : String
  url : String
  headline : String
  summary : String
  category : Option String
  score : Float

instance ScoredFact.codec : Codec ScoredFact where
  encode f := .obj [("id", encode f.id), ("url", encode f.url), ("headline", encode f.headline),
    ("summary", encode f.summary), ("category", encode f.category), ("score", encode f.score)]
  decode := Json.readRecord .strict ["id", "url", "headline", "summary", "category", "score"]
      fun r =>
    ScoredFact.mk <$> r.required "id" decode <*> r.required "url" decode
      <*> r.required "headline" decode <*> r.required "summary" decode
      <*> r.optional "category" decode <*> r.required "score" decode

/-- A written post, published or not. -/
structure Post where
  id : String
  tenant : String
  factId : Option String
  /-- The persona that wrote it. -/
  agent : String
  headline : String
  content : String
  emoji : String
  /-- Posts of one tenant that share it are one post. -/
  factUrl : Option String
  embedding : Option (List Float32)
  scheduledAt : Option Timestamp

instance Post.codec : Codec Post where
  encode p := .obj [("id", encode p.id), ("tenant_id", encode p.tenant),
    ("fact_id", encode p.factId), ("agent", encode p.agent), ("headline", encode p.headline),
    ("content", encode p.content), ("emoji", encode p.emoji), ("fact_url", encode p.factUrl),
    ("embedding", encode p.embedding), ("scheduled_at", encode p.scheduledAt)]
  decode := Json.readRecord .strict
      ["id", "tenant_id", "fact_id", "agent", "headline", "content", "emoji", "fact_url",
        "embedding", "scheduled_at"] fun r =>
    Post.mk <$> r.required "id" decode <*> r.required "tenant_id" decode
      <*> r.optional "fact_id" decode <*> r.required "agent" decode
      <*> r.required "headline" decode <*> r.required "content" decode
      <*> r.required "emoji" decode <*> r.optional "fact_url" decode
      <*> r.optional "embedding" decode <*> r.optional "scheduled_at" decode

/-- A published post found by similarity. -/
structure ScoredPost where
  id : String
  agent : String
  headline : String
  content : String
  emoji : String
  score : Float

instance ScoredPost.codec : Codec ScoredPost where
  encode p := .obj [("id", encode p.id), ("agent", encode p.agent), ("headline", encode p.headline),
    ("content", encode p.content), ("emoji", encode p.emoji), ("score", encode p.score)]
  decode := Json.readRecord .strict ["id", "agent", "headline", "content", "emoji", "score"]
      fun r =>
    ScoredPost.mk <$> r.required "id" decode <*> r.required "agent" decode
      <*> r.required "headline" decode <*> r.required "content" decode
      <*> r.required "emoji" decode <*> r.required "score" decode

end KnowledgeBase.News
