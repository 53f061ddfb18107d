import KnowledgeBase.Schema.Layout

/-!
# Migrations

A migration is a numbered change to databases that were made before it.  Each belongs to a phase and
to a group of tables; one whose group is not enabled stays pending.

## Main definitions

* `Migration`, `Migration.all` — a change, and every change in order of version.
* `Migration.pending` — what is left to do in a phase.

## Main results

* `Migration.mem_pending` — which migrations are pending.
* `Migration.pending_perm` — each as often as in the list.
-/

namespace KnowledgeBase

/-- When a migration runs. -/
inductive Migration.Phase where
  /-- Columns and indexes are added to tables that lack them. -/
  | backfill
  /-- Constraints whose definition changed are replaced. -/
  | constraintUpgrade
deriving DecidableEq

/-- The group of tables that a migration changes. -/
inductive Migration.Group where
  | core
  | commerce
  | news
deriving DecidableEq

/-- A numbered change.  Each of its statements may be repeated. -/
structure Migration where
  version : Int32
  phase : Migration.Phase
  group : Migration.Group
  description : String
  /-- The statements, given the dimension of embeddings. -/
  statements : Nat → List String

namespace Migration

open Schema

/-- The written form of a phase. -/
def Phase.name : Phase → String
  | backfill => "backfill"
  | constraintUpgrade => "constraint_upgrade"

/-- The written form of a group. -/
def Group.name : Group → String
  | core => "core"
  | commerce => "commerce"
  | news => "news"

/-- Whether the tables of a group exist in a deployment. -/
def Group.isEnabled (m : Modules) : Group → Bool
  | core => true
  | commerce => m.commerce
  | news => m.news

/-- Every migration, in order of version. -/
def all : List Migration := [
  ⟨1, .backfill, .core, "user_facts tenant column and tenant indexes", fun _ =>
    [addColumn "user_facts" "tenant_id" "TEXT NOT NULL DEFAULT 'default'",
      createIndex "user_facts_tenant_idx" "user_facts (tenant_id)",
      createIndex "episodic_events_tenant_idx" "episodic_events (tenant_id)"]⟩,
  ⟨2, .backfill, .core, "knowledge_nodes owner, keyword, hash and path columns", fun _ =>
    [addColumn "knowledge_nodes" "user_id" "TEXT NULL",
      addColumn "knowledge_nodes" "keywords_text" "TEXT NULL",
      addColumn "knowledge_nodes" "content_hash" "TEXT NULL",
      addColumn "knowledge_nodes" "taxonomy_path" "LTREE NULL",
      createIndex "knowledge_nodes_taxonomy_path_gist"
        "knowledge_nodes USING GIST (taxonomy_path)"]⟩,
  ⟨3, .backfill, .core, "knowledge_nodes generated tsvector columns", fun _ =>
    [addColumn "knowledge_nodes" "search_vector"
        "TSVECTOR GENERATED ALWAYS AS (to_tsvector('simple', content)) STORED",
      addColumn "knowledge_nodes" "keywords_vector"
        "TSVECTOR GENERATED ALWAYS AS (to_tsvector('simple', COALESCE(keywords_text, ''))) STORED",
      createIndex "knowledge_nodes_search_vector_gin" "knowledge_nodes USING GIN (search_vector)",
      createIndex "knowledge_nodes_keywords_vector_gin"
        "knowledge_nodes USING GIN (keywords_vector)"]⟩,
  ⟨4, .backfill, .core, "agent_traces provenance chain", fun _ =>
    [addColumn "agent_traces" "provenance" "TEXT[] NOT NULL DEFAULT '\x7b\x7d'"]⟩,
  ⟨5, .backfill, .commerce, "catalog_taxonomy embedding column", fun dim =>
    addColumn "catalog_taxonomy" "embedding" (vectorType dim ++ " NULL")
      :: (embeddingIndex (embeddingOf "catalog_taxonomy") dim).toList⟩,
  ⟨6, .backfill, .news, "news_posts fact url dedup index and message id", fun _ =>
    [createUniqueIndex "news_posts_tenant_fact_url_uq" "news_posts (tenant_id, fact_url)",
      addColumn "news_posts" "message_id" "BIGINT NULL"]⟩,
  ⟨7, .constraintUpgrade, .core, "user_facts primary key includes tenant", fun _ =>
    ["ALTER TABLE user_facts DROP CONSTRAINT IF EXISTS user_facts_pkey, " ++
      "ADD CONSTRAINT user_facts_pkey PRIMARY KEY (tenant_id, user_id, fact_key)"]⟩,
  ⟨8, .constraintUpgrade, .core, "chunk content hash unique per tenant", fun _ =>
    ["DROP INDEX IF EXISTS knowledge_nodes_chunk_content_hash_uq",
      createUniqueIndex "knowledge_nodes_tenant_content_hash_uq"
        ("knowledge_nodes (tenant_id, node_kind, content_hash) " ++
         "WHERE node_kind = 'chunk' AND content_hash IS NOT NULL")]⟩,
  ⟨9, .constraintUpgrade, .commerce, "catalog_taxonomy domain check accepts gender", fun _ =>
    ["ALTER TABLE catalog_taxonomy DROP CONSTRAINT IF EXISTS catalog_taxonomy_domain_check, ADD "
      ++ domainCheck]⟩,
  ⟨10, .backfill, .core, "knowledge_nodes combined lexical document index", fun _ =>
    [createIndex "knowledge_nodes_lexical_gin"
      ("knowledge_nodes USING GIN (" ++ lexicalDocument ++ ")")]⟩]

/-- Whether a migration is left to do in a phase. -/
def isPending (applied : List Int32) (phase : Phase) (m : Modules) (migration : Migration) : Bool :=
  decide (migration.phase = phase) && migration.group.isEnabled m
    && !applied.contains migration.version

/-- The migrations of a phase that are left to do, in order of version; equal versions keep their
order. -/
def pending (migrations : List Migration) (applied : List Int32) (phase : Phase) (m : Modules) :
    List Migration :=
  (migrations.filter (isPending applied phase m)).mergeSort fun a b =>
    decide (a.version ≤ b.version)

theorem mem_pending {migrations : List Migration} {applied : List Int32} {phase : Phase}
    {m : Modules} {migration : Migration} :
    migration ∈ pending migrations applied phase m ↔
      migration ∈ migrations ∧ isPending applied phase m migration = true := by
  simp [pending]

theorem pending_perm (migrations : List Migration) (applied : List Int32) (phase : Phase)
    (m : Modules) :
    (pending migrations applied phase m).Perm (migrations.filter (isPending applied phase m)) :=
  List.mergeSort_perm _ _

end Migration

end KnowledgeBase
