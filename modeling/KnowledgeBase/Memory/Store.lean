import KnowledgeBase.Memory.Episode
import KnowledgeBase.Settings.Store
import KnowledgeBase.Connection.Operation

/-!
# Episodes and beliefs in the database

## Main definitions

* `Memory.addEpisode`, `Memory.recentEpisodes`, `Memory.oldEpisodes`, `Memory.deleteEpisodes`,
  `Memory.countEpisodes` — the log of turns and its retention.
* `Memory.upsertBelief`, `Memory.beliefs` — what is known about a user.
-/

namespace KnowledgeBase.Memory

open Sql

/-! ### Episodes -/

/-- What is selected of an episode. -/
def episodeColumns : String := "id, tenant_id, user_id, session_id, content, metadata, created_at"

/-- The episode of a row. -/
def episodeOfRow (row : Row) : Except StoreError Episode := do
  let metadata ← row.column "metadata"
  let id ← row.column "id"
  let tenant ← row.column "tenant_id"
  let user ← row.column "user_id"
  let session ← row.column "session_id"
  let content ← row.column "content"
  let createdAt ← row.column "created_at"
  return { id, tenant, user, session, content, metadata, createdAt }

/-- Appends a turn. -/
def addStatement (e : Episode.Draft) : Statement :=
  .prepared
    ("INSERT INTO episodic_events " ++
     "(id, tenant_id, user_id, session_id, content, embedding, metadata) " ++
     "VALUES ($1, $2, $3, $4, $5, $6, $7)")
    [toValue e.id, toValue e.tenant, toValue e.user, toValue e.session, toValue e.content,
      toValue e.embedding, toValue e.metadata]

/-- Selects the last turns of a user. -/
def recentStatement (tenant user : String) (limit : UInt32) : Statement :=
  .prepared
    ("SELECT " ++ episodeColumns ++ " FROM episodic_events " ++
      "WHERE tenant_id = $1 AND user_id = $2 ORDER BY created_at DESC, id LIMIT $3")
    [toValue tenant, toValue user, toValue (widen limit)]

/-- Selects the oldest turns before the cut-off. -/
def oldStatement (tenant : String) (days limit : UInt32) : Statement :=
  .prepared
    ("SELECT " ++ episodeColumns ++ " FROM episodic_events " ++
      "WHERE tenant_id = $1 AND created_at < now() - make_interval(days => $2) " ++
      "ORDER BY created_at ASC, id LIMIT $3")
    [toValue tenant, toValue (saturate days.toNat), toValue (widen limit)]

/-- Deletes the named turns, or all before the cut-off. -/
def deleteStatement (tenant : String) (days : UInt32) : Option (List Uuid) → Statement
  | some ids =>
    .prepared "DELETE FROM episodic_events WHERE tenant_id = $1 AND id = ANY($2)"
      [toValue tenant, toValue ids]
  | none =>
    .prepared
      ("DELETE FROM episodic_events " ++
       "WHERE tenant_id = $1 AND created_at < now() - make_interval(days => $2)")
      [toValue tenant, toValue (saturate days.toNat)]

/-- Counts the turns of a tenant. -/
def countStatement (tenant : String) : Statement :=
  .prepared
    ("SELECT COUNT(*) AS total, MIN(created_at) AS oldest, MAX(created_at) AS newest " ++
     "FROM episodic_events WHERE tenant_id = $1")
    [toValue tenant]

/-- The numbers of a row. -/
def statsOfRow (row : Row) : Except StoreError Episode.Stats := do
  let total ← row.column "total"
  let oldest ← row.column "oldest"
  let newest ← row.column "newest"
  return ⟨total, oldest, newest⟩

/-- Appends a turn and answers its id. -/
def addEpisode (s : StoreSettings) (e : Episode.Draft) : Operation Uuid := do
  requireTenant e.tenant
  requireText "episode user_id" e.user
  requireText "episode content" e.content
  requireEmbedding "episode embedding" e.embedding s.dimension
  let _ ← .forTenant e.tenant (some e.user) (Work.send (addStatement e))
  return e.id

/-- The last turns of a user, most recent first. -/
def recentEpisodes (tenant user : String) (limit : UInt32) : Operation (List Episode) := do
  requireTenant tenant
  requireText "user_id" user
  if limit = 0 then return []
  else
    let rows ← .forTenant tenant (some user) (Work.rows (recentStatement tenant user limit))
    decodeAll episodeOfRow rows

/-- The turns of a tenant that are older than some days, oldest first. -/
def oldEpisodes (tenant : String) (days limit : UInt32) : Operation (List Episode) := do
  requireTenant tenant
  if limit = 0 then return []
  else
    let rows ← .forTenant tenant none (Work.rows (oldStatement tenant days limit))
    decodeAll episodeOfRow rows

/-- Deletes exactly the named turns, or without names all that are older than some days, and answers
how many.  Only turns of the tenant are touched. -/
def deleteEpisodes (tenant : String) (days : UInt32) (ids : Option (List Uuid)) :
    Operation Nat := do
  requireTenant tenant
  if ids.any List.isEmpty then return 0
  else .forTenant tenant none (Work.affected (deleteStatement tenant days ids))

/-- How many turns a tenant has, and when the first and the last were. -/
def countEpisodes (tenant : String) : Operation Episode.Stats := do
  requireTenant tenant
  let row ← .forTenant tenant none (Work.single (countStatement tenant))
  statsOfRow row

/-! ### Beliefs -/

/-- What is selected of a belief. -/
def beliefColumns : String :=
  "tenant_id, user_id, fact_key, fact_value, confidence, source_id, updated_at"

/-- The belief of a row. -/
def beliefOfRow (row : Row) : Except StoreError Belief := do
  let value ← row.column "fact_value"
  let tenant ← row.column "tenant_id"
  let user ← row.column "user_id"
  let key ← row.column "fact_key"
  let confidence ← row.column "confidence"
  let source ← row.column "source_id"
  let updatedAt ← row.column "updated_at"
  return { tenant, user, key, value, confidence, source, updatedAt }

/-- Writes a belief. -/
def beliefStatement (tenant user key : String) (value : Json) (confidence : Float)
    (source : Option Uuid) : Statement :=
  .prepared
    ("INSERT INTO user_facts " ++
     "(tenant_id, user_id, fact_key, fact_value, confidence, source_id, updated_at) " ++
     "VALUES ($1, $2, $3, $4, $5, $6, now()) " ++
     "ON CONFLICT (tenant_id, user_id, fact_key) DO UPDATE SET " ++
     "fact_value = EXCLUDED.fact_value, confidence = EXCLUDED.confidence, " ++
     "source_id = EXCLUDED.source_id, updated_at = now()")
    [toValue tenant, toValue user, toValue key, toValue value, toValue confidence, toValue source]

/-- Selects the beliefs about a user. -/
def beliefsStatement (tenant user : String) : Statement :=
  .prepared
    ("SELECT " ++ beliefColumns ++ " FROM user_facts WHERE tenant_id = $1 AND user_id = $2 " ++
      "ORDER BY updated_at DESC, fact_key")
    [toValue tenant, toValue user]

/-- Writes the belief under a key about a user, replacing the one before. -/
def upsertBelief (tenant user key : String) (value : Json) (confidence : Float)
    (source : Option Uuid) : Operation Unit := do
  requireTenant tenant
  requireText "user_id" user
  requireText "fact_key" key
  Belief.validateConfidence confidence
  let _ ← .forTenant tenant (some user)
    (Work.send (beliefStatement tenant user key value confidence source))
  return ()

/-- The beliefs about a user, most recently changed first. -/
def beliefs (tenant user : String) : Operation (List Belief) := do
  requireTenant tenant
  requireText "user_id" user
  let rows ← .forTenant tenant (some user) (Work.rows (beliefsStatement tenant user))
  decodeAll beliefOfRow rows

end KnowledgeBase.Memory
