import KnowledgeBase.News.Item
import KnowledgeBase.Settings.Store
import KnowledgeBase.Connection.Operation

/-!
# The news archive in the database

The archive exists only where the settings include it.  Writing an item, a fact or a post answers
the id that is stored, which is that of the earlier row when there is one under the same address.

## Main definitions

* `News.upsertRaw`, `News.upsertFact`, `News.upsertPost`, `News.markPublished` — writing.
* `News.recentFacts`, `News.searchFacts`, `News.searchPosts` — reading.
-/

namespace KnowledgeBase.News

open Sql

/-! ### Writing -/

/-- Writes a harvested item. -/
def rawStatement (i : RawItem) : Statement :=
  .prepared
    ("INSERT INTO news_raw " ++
     "(id, tenant_id, url, headline, summary, category, source_api, metadata, harvested_at) " ++
     "VALUES ($1, $2, $3, $4, $5, $6, $7, $8, now()) " ++
     "ON CONFLICT (tenant_id, url) DO UPDATE SET headline = EXCLUDED.headline, " ++
     "summary = EXCLUDED.summary, category = EXCLUDED.category, metadata = EXCLUDED.metadata, " ++
     "harvested_at = now() RETURNING id")
    [toValue i.id, toValue i.tenant, toValue i.url, toValue i.headline, toValue i.summary,
      toValue i.category, toValue i.sourceApi, toValue i.metadata]

/-- Writes a fact. -/
def factStatement (f : Fact) : Statement :=
  .prepared
    ("INSERT INTO news_facts ( id, tenant_id, url, headline, summary, category, " ++
     "suggested_agent, significance, atomic_facts, irony_potential, embedding, metadata, " ++
     "raw_id ) " ++
     "VALUES ($1, $2, $3, $4, $5, $6, $7, $8, $9, $10, $11, $12, $13) " ++
     "ON CONFLICT (tenant_id, url) DO UPDATE SET headline = EXCLUDED.headline, " ++
     "summary = EXCLUDED.summary, category = EXCLUDED.category, " ++
     "suggested_agent = EXCLUDED.suggested_agent, significance = EXCLUDED.significance, " ++
     "atomic_facts = EXCLUDED.atomic_facts, irony_potential = EXCLUDED.irony_potential, " ++
     "embedding = EXCLUDED.embedding, metadata = EXCLUDED.metadata RETURNING id")
    [toValue f.id, toValue f.tenant, toValue f.url, toValue f.headline, toValue f.summary,
      toValue f.category, toValue f.suggestedAgent, toValue f.significance, toValue f.atomicFacts,
      toValue f.ironyPotential, toValue f.embedding, toValue f.metadata, toValue f.rawId]

/-- The address of the fact that a post is about, if it is not blank. -/
def Post.subject (p : Post) : Option String := p.factUrl.filter fun url => !Text.isBlank url

/-- What happens to an earlier post: with an address there is one post about it, without there is
one under its id. -/
def conflictClause : Option String → String
  | some _ =>
    (" ON CONFLICT (tenant_id, fact_url) DO UPDATE SET content = EXCLUDED.content, " ++
     "scheduled_at = EXCLUDED.scheduled_at, embedding = EXCLUDED.embedding RETURNING id")
  | none =>
    " ON CONFLICT (id) DO UPDATE SET content = EXCLUDED.content " ++
    "WHERE news_posts.tenant_id = EXCLUDED.tenant_id RETURNING id"

/-- Writes a post. -/
def postStatement (p : Post) : Statement :=
  .prepared
    ("INSERT INTO news_posts ( id, tenant_id, fact_id, agent, headline, content, emoji, " ++
      "fact_url, embedding, scheduled_at ) VALUES ($1, $2, $3, $4, $5, $6, $7, $8, $9, $10)"
      ++ conflictClause p.subject)
    [toValue p.id, toValue p.tenant, toValue p.factId, toValue p.agent, toValue p.headline,
      toValue p.content, toValue p.emoji, toValue p.subject, toValue p.embedding,
      toValue p.scheduledAt]

/-- Records that a post was published. -/
def publishStatement (tenant id : String) (message : Int64) : Statement :=
  .prepared
    "UPDATE news_posts SET published_at = now(), message_id = $3 WHERE tenant_id = $1 AND id = $2"
    [toValue tenant, toValue id, toValue message]

/-- Refuses the operation where there is no archive. -/
def requireEnabled (s : StoreSettings) : Except StoreError Unit :=
  if s.news then .ok () else .error (.notSupported "news archive requires include_news")

/-- Writes a harvested item and answers the stored id. -/
def upsertRaw (s : StoreSettings) (i : RawItem) : Operation String := do
  requireEnabled s
  requireTenant i.tenant
  requireText "news id" i.id
  requireText "news url" i.url
  .forTenant i.tenant none (Work.scalar (rawStatement i))

/-- Writes a fact and answers the stored id. -/
def upsertFact (s : StoreSettings) (f : Fact) : Operation String := do
  requireEnabled s
  requireTenant f.tenant
  requireText "fact id" f.id
  requireText "fact url" f.url
  requireEmbedding "fact embedding" f.embedding s.dimension
  .forTenant f.tenant none (Work.scalar (factStatement f))

/-- Writes a post and answers the stored id.  Without an answer the id is another tenant's. -/
def upsertPost (s : StoreSettings) (p : Post) : Operation String := do
  requireEnabled s
  requireTenant p.tenant
  requireText "post id" p.id
  requireText "post agent" p.agent
  requireEmbedding "post embedding" p.embedding s.dimension
  .forTenant p.tenant none do
    let stored ← Work.scalar? (postStatement p)
    match stored with
    | some id => return id
    | none => Work.fail (Refusal.postTaken p.id).toError

/-- Records that a post was published; the answer tells whether the tenant has it. -/
def markPublished (s : StoreSettings) (tenant id : String) (message : Int64) : Operation Bool := do
  requireEnabled s
  requireTenant tenant
  requireText "post id" id
  let affected ← .forTenant tenant none (Work.affected (publishStatement tenant id message))
  return decide (0 < affected)

/-! ### Reading -/

/-- What is selected of a fact. -/
def factColumns : String :=
  "id, tenant_id, url, headline, summary, category, suggested_agent, significance, " ++
  "atomic_facts, irony_potential, metadata, raw_id, created_at"

/-- The fact of a row. -/
def factOfRow (row : Row) : Except StoreError Fact := do
  let metadata ← row.column "metadata"
  let id ← row.column "id"
  let tenant ← row.column "tenant_id"
  let url ← row.column "url"
  let headline ← row.column "headline"
  let summary ← row.column "summary"
  let category ← row.column "category"
  let suggestedAgent ← row.column "suggested_agent"
  let significance ← row.column "significance"
  let atomicFacts ← row.column "atomic_facts"
  let ironyPotential ← row.column "irony_potential"
  let rawId ← row.column "raw_id"
  let createdAt ← row.column "created_at"
  return { id, tenant, url, headline, summary, category, suggestedAgent, significance, atomicFacts,
           ironyPotential, embedding := none, metadata, rawId, createdAt }

/-- The scored fact of a row. -/
def scoredFactOfRow (row : Row) : Except StoreError ScoredFact := do
  let id ← row.column "id"
  let url ← row.column "url"
  let headline ← row.column "headline"
  let summary ← row.column "summary"
  let category ← row.column "category"
  let score ← row.column "score"
  return { id, url, headline, summary, category, score }

/-- The scored post of a row. -/
def scoredPostOfRow (row : Row) : Except StoreError ScoredPost := do
  let id ← row.column "id"
  let agent ← row.column "agent"
  let headline ← row.column "headline"
  let content ← row.column "content"
  let emoji ← row.column "emoji"
  let score ← row.column "score"
  return { id, agent, headline, content, emoji, score }

/-- Selects the last facts, from an instant on if it is given. -/
def recentStatement (tenant : String) (limit : UInt32) (since : Option Timestamp) : Statement :=
  .prepared
    ("SELECT " ++ factColumns ++ " FROM news_facts " ++
      "WHERE tenant_id = $1 AND ($2::timestamptz IS NULL OR created_at >= $2) " ++
      "ORDER BY created_at DESC, id LIMIT $3")
    [toValue tenant, toValue since, toValue (widen limit)]

/-- Ranks facts by similarity, down to a least score. -/
def searchFactsStatement (tenant : String) (vector : List Float32) (limit : UInt32)
    (minScore : Float) : Statement :=
  .prepared
    ("SELECT id, url, headline, summary, category, (1 - (embedding <=> $2))::float8 AS score " ++
     "FROM news_facts WHERE tenant_id = $1 AND embedding IS NOT NULL " ++
     "AND 1 - (embedding <=> $2) >= $3 ORDER BY embedding <=> $2, id LIMIT $4")
    [toValue tenant, toValue vector, toValue minScore, toValue (widen limit)]

/-- Ranks published posts by similarity. -/
def searchPostsStatement (tenant : String) (vector : List Float32) (limit : UInt32) : Statement :=
  .prepared
    ("SELECT id, agent, headline, content, emoji, (1 - (embedding <=> $2))::float8 AS score " ++
     "FROM news_posts " ++
     "WHERE tenant_id = $1 AND embedding IS NOT NULL AND published_at IS NOT NULL " ++
     "ORDER BY embedding <=> $2, id LIMIT $3")
    [toValue tenant, toValue vector, toValue (widen limit)]

/-- The last facts of a tenant, newest first, from an instant on if it is given. -/
def recentFacts (s : StoreSettings) (tenant : String) (limit : UInt32) (since : Option Timestamp) :
    Operation (List Fact) := do
  requireEnabled s
  requireTenant tenant
  if limit = 0 then return []
  else
    let rows ← .forTenant tenant none (Work.rows (recentStatement tenant limit since))
    decodeAll factOfRow rows

/-- The facts most similar to a vector, down to a least score. -/
def searchFacts (s : StoreSettings) (tenant : String) (vector : List Float32) (limit : UInt32)
    (minScore : Float) : Operation (List ScoredFact) := do
  requireEnabled s
  requireTenant tenant
  requireDimension "query vector" vector s.dimension
  if limit = 0 then return []
  else
    let rows ← .forTenant tenant none
      (Work.rows (searchFactsStatement tenant vector limit minScore))
    decodeAll scoredFactOfRow rows

/-- The published posts most similar to a vector. -/
def searchPosts (s : StoreSettings) (tenant : String) (vector : List Float32) (limit : UInt32) :
    Operation (List ScoredPost) := do
  requireEnabled s
  requireTenant tenant
  requireDimension "query vector" vector s.dimension
  if limit = 0 then return []
  else
    let rows ← .forTenant tenant none (Work.rows (searchPostsStatement tenant vector limit))
    decodeAll scoredPostOfRow rows

end KnowledgeBase.News
