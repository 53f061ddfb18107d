import KnowledgeBase.Schema.Table
import KnowledgeBase.Settings.Store
import KnowledgeBase.Catalog.Entry

/-!
# The layout of the database

The tables, indexes and policies of a deployment.  Every deployment has the core tables; those of
the catalog and of the news archive are optional.  Table definitions describe the present shape of
each table.  Columns and indexes that came later are added to older tables by numbered migrations,
and an index on such a column is created there only.

## Main definitions

* `Modules` — the optional groups of tables; `Modules.tenantTables`, `Modules.embeddingColumns`.
* `Schema.layout` — the statements that create tables and indexes, in order of dependency.
* `Schema.policies` — the roles, grants and row-level policies.
* `Schema.resize` — giving an embedding column another dimension.
-/

namespace KnowledgeBase

/-- The optional groups of tables in a deployment. -/
structure Modules where
  commerce : Bool
  news : Bool
deriving DecidableEq

/-- The optional groups that the settings name. -/
def StoreSettings.modules (s : StoreSettings) : Modules := ⟨s.commerce, s.news⟩

namespace Schema

/-- What is searched for words: the terms of the content and the keywords.  Queries spell it exactly
like the index. -/
def lexicalDocument : String := "(search_vector || COALESCE(keywords_vector, ''::tsvector))"

/-- The greatest dimension for which a similarity index can be made. -/
def maxIndexDimension : Nat := 2000

/-- The tables of every deployment that hold rows of tenants. -/
def coreTables : List String :=
  ["knowledge_nodes", "knowledge_edges", "knowledge_aliases", "episodic_events", "user_facts",
    "agent_traces"]

/-- The tables of the catalog. -/
def commerceTables : List String := ["catalog_taxonomy"]

/-- The tables of the news archive. -/
def newsTables : List String := ["news_raw", "news_facts", "news_posts"]

/-- An embedding column: its table and its similarity index. -/
structure EmbeddingColumn where
  table : String
  index : String
deriving DecidableEq

/-- The embedding column of a table. -/
def embeddingOf (table : String) : EmbeddingColumn := ⟨table, table ++ "_embedding_hnsw"⟩

end Schema

namespace Modules

open Schema

/-- The tables of a deployment that hold rows of tenants. -/
def tenantTables (m : Modules) : List String :=
  coreTables ++ (if m.commerce then commerceTables else []) ++ if m.news then newsTables else []

/-- The embedding columns of a deployment. -/
def embeddingColumns (m : Modules) : List EmbeddingColumn :=
  [embeddingOf "knowledge_nodes", embeddingOf "episodic_events"]
    ++ (if m.commerce then [embeddingOf "catalog_taxonomy"] else [])
    ++ if m.news then [embeddingOf "news_facts", embeddingOf "news_posts"] else []

end Modules

namespace Schema

/-- Installs the extensions, in `public` so that every schema sees their types. -/
def extensions : List String :=
  ["CREATE EXTENSION IF NOT EXISTS vector WITH SCHEMA public",
    "CREATE EXTENSION IF NOT EXISTS ltree WITH SCHEMA public"]

/-- The similarity index of an embedding column, unless its dimension is too great for one. -/
def embeddingIndex (c : EmbeddingColumn) (dim : Nat) : Option String :=
  if dim ≤ maxIndexDimension then
    some (createIndex c.index (c.table ++ " USING hnsw (embedding vector_cosine_ops)"))
  else none

/-- The type of an embedding column. -/
def vectorType (dim : Nat) : String := "VECTOR(" ++ toString dim ++ ")"

/-- The table of the versions that were applied. -/
def migrationsTable : Table where
  name := "schema_migrations"
  columns := [⟨"version", "INTEGER PRIMARY KEY"⟩, ⟨"description", "TEXT NOT NULL"⟩,
    ⟨"applied_at", "TIMESTAMPTZ NOT NULL DEFAULT now()"⟩]
  constraints := []

/-! ### Core tables -/

/-- Chunks and concepts. -/
def nodesTable (dim : Nat) : Table where
  name := "knowledge_nodes"
  columns := [⟨"id", "TEXT PRIMARY KEY"⟩, ⟨"tenant_id", "TEXT NOT NULL"⟩, ⟨"user_id", "TEXT NULL"⟩,
    ⟨"node_kind", "TEXT NOT NULL CHECK (node_kind IN ('chunk', 'concept'))"⟩,
    ⟨"source_type",
      "TEXT NULL CHECK (source_type IN ('video', 'book', 'qa', 'web', 'knowledge'))"⟩,
    ⟨"source_id", "TEXT NULL"⟩, ⟨"title", "TEXT NULL"⟩, ⟨"content", "TEXT NOT NULL"⟩,
    ⟨"struct_data", "JSONB NOT NULL DEFAULT '\x7b\x7d'::jsonb"⟩, ⟨"keywords_text", "TEXT NULL"⟩,
    ⟨"content_hash", "TEXT NULL"⟩, ⟨"taxonomy_path", "LTREE NULL"⟩,
    ⟨"search_vector", "TSVECTOR GENERATED ALWAYS AS (to_tsvector('simple', content)) STORED"⟩,
    ⟨"keywords_vector",
      "TSVECTOR GENERATED ALWAYS AS (to_tsvector('simple', COALESCE(keywords_text, ''))) STORED"⟩,
    ⟨"embedding", vectorType dim ++ " NULL"⟩,
    ⟨"created_at", "TIMESTAMPTZ NOT NULL DEFAULT now()"⟩]
  constraints := []

/-- Relationships between nodes. -/
def edgesTable : Table where
  name := "knowledge_edges"
  columns := [⟨"tenant_id", "TEXT NOT NULL"⟩,
    ⟨"source_id", "TEXT NOT NULL REFERENCES knowledge_nodes(id) ON DELETE CASCADE"⟩,
    ⟨"target_id", "TEXT NOT NULL REFERENCES knowledge_nodes(id) ON DELETE CASCADE"⟩,
    ⟨"relation", "TEXT NOT NULL"⟩, ⟨"weight", "DOUBLE PRECISION NOT NULL DEFAULT 1.0"⟩,
    ⟨"metadata", "JSONB NOT NULL DEFAULT '\x7b\x7d'::jsonb"⟩]
  constraints := ["PRIMARY KEY (tenant_id, source_id, target_id, relation)"]

/-- Other names of nodes. -/
def aliasesTable : Table where
  name := "knowledge_aliases"
  columns := [⟨"tenant_id", "TEXT NOT NULL"⟩, ⟨"alias", "TEXT NOT NULL"⟩,
    ⟨"node_id", "TEXT NOT NULL REFERENCES knowledge_nodes(id) ON DELETE CASCADE"⟩,
    ⟨"source", "TEXT NOT NULL"⟩, ⟨"created_at", "TIMESTAMPTZ NOT NULL DEFAULT now()"⟩]
  constraints := ["PRIMARY KEY (tenant_id, alias)"]

/-- Turns of conversations. -/
def episodesTable (dim : Nat) : Table where
  name := "episodic_events"
  columns := [⟨"id", "UUID PRIMARY KEY"⟩, ⟨"tenant_id", "TEXT NOT NULL"⟩,
    ⟨"user_id", "TEXT NOT NULL"⟩, ⟨"session_id", "TEXT NULL"⟩, ⟨"content", "TEXT NOT NULL"⟩,
    ⟨"embedding", vectorType dim ++ " NULL"⟩,
    ⟨"metadata", "JSONB NOT NULL DEFAULT '\x7b\x7d'::jsonb"⟩,
    ⟨"created_at", "TIMESTAMPTZ NOT NULL DEFAULT now()"⟩]
  constraints := []

/-- Beliefs about users. -/
def beliefsTable : Table where
  name := "user_facts"
  columns := [⟨"tenant_id", "TEXT NOT NULL"⟩, ⟨"user_id", "TEXT NOT NULL"⟩,
    ⟨"fact_key", "TEXT NOT NULL"⟩, ⟨"fact_value", "JSONB NOT NULL"⟩,
    ⟨"confidence", "DOUBLE PRECISION NOT NULL DEFAULT 1.0"⟩,
    ⟨"source_id", "UUID NULL REFERENCES episodic_events(id) ON DELETE SET NULL"⟩,
    ⟨"updated_at", "TIMESTAMPTZ NOT NULL DEFAULT now()"⟩]
  constraints := ["PRIMARY KEY (tenant_id, user_id, fact_key)"]

/-- Traces of agent runs. -/
def tracesTable : Table where
  name := "agent_traces"
  columns := [⟨"id", "UUID PRIMARY KEY DEFAULT gen_random_uuid()"⟩, ⟨"tenant_id", "TEXT NOT NULL"⟩,
    ⟨"agent_id", "TEXT NOT NULL"⟩, ⟨"session_id", "TEXT NULL"⟩, ⟨"user_id", "TEXT NULL"⟩,
    ⟨"graph_name", "TEXT NULL"⟩, ⟨"tool_calls", "JSONB NOT NULL DEFAULT '[]'::jsonb"⟩,
    ⟨"token_usage", "JSONB NOT NULL DEFAULT '\x7b\x7d'::jsonb"⟩, ⟨"timing_ms", "INTEGER NULL"⟩,
    ⟨"security_flags", "JSONB NOT NULL DEFAULT '\x7b\x7d'::jsonb"⟩,
    ⟨"metadata", "JSONB NOT NULL DEFAULT '\x7b\x7d'::jsonb"⟩,
    ⟨"provenance", "TEXT[] NOT NULL DEFAULT '\x7b\x7d'"⟩,
    ⟨"created_at", "TIMESTAMPTZ NOT NULL DEFAULT now()"⟩]
  constraints := []

/-- The core tables with their indexes. -/
def coreLayout (dim : Nat) : List String :=
  [(nodesTable dim).create,
    createIndex "knowledge_nodes_source_type_idx" "knowledge_nodes (source_type)",
    createIndex "knowledge_nodes_source_id_idx" "knowledge_nodes (source_id)",
    createIndex "knowledge_nodes_node_kind_idx" "knowledge_nodes (node_kind)",
    createIndex "knowledge_nodes_tenant_idx" "knowledge_nodes (tenant_id)",
    createIndex "knowledge_nodes_struct_data_gin" "knowledge_nodes USING GIN (struct_data)",
    edgesTable.create,
    createIndex "knowledge_edges_source_idx" "knowledge_edges (source_id)",
    createIndex "knowledge_edges_target_idx" "knowledge_edges (target_id)",
    createIndex "knowledge_edges_relation_idx" "knowledge_edges (relation)",
    createIndex "knowledge_edges_tenant_idx" "knowledge_edges (tenant_id)",
    aliasesTable.create,
    createIndex "knowledge_aliases_node_id_idx" "knowledge_aliases (node_id)",
    createIndex "knowledge_aliases_tenant_idx" "knowledge_aliases (tenant_id)",
    (episodesTable dim).create,
    createIndex "episodic_events_user_idx" "episodic_events (user_id)",
    createIndex "episodic_events_session_idx" "episodic_events (session_id)",
    createIndex "episodic_events_tenant_created_idx" "episodic_events (tenant_id, created_at)",
    beliefsTable.create,
    createIndex "user_facts_user_idx" "user_facts (user_id)",
    tracesTable.create,
    createIndex "agent_traces_agent_idx" "agent_traces (agent_id)",
    createIndex "agent_traces_session_idx" "agent_traces (session_id)",
    createIndex "agent_traces_tenant_created_idx" "agent_traces (tenant_id, created_at DESC)"]
    ++ (embeddingIndex (embeddingOf "knowledge_nodes") dim).toList
    ++ (embeddingIndex (embeddingOf "episodic_events") dim).toList

/-! ### Optional tables -/

/-- Every spelling of a catalog domain, as a list of SQL texts. -/
def domainList : String :=
  ", ".intercalate (Catalog.Domain.spellings.map fun d => "'" ++ d ++ "'")

/-- The constraint on the domains of the catalog. -/
def domainCheck : String :=
  "CONSTRAINT catalog_taxonomy_domain_check CHECK (domain IN (" ++ domainList ++ "))"

/-- Catalog entries. -/
def catalogTable (dim : Nat) : Table where
  name := "catalog_taxonomy"
  columns := [⟨"tenant_id", "TEXT NOT NULL"⟩, ⟨"domain", "TEXT NOT NULL"⟩,
    ⟨"name", "TEXT NOT NULL"⟩, ⟨"path", "LTREE NOT NULL"⟩,
    ⟨"keywords", "TEXT[] NOT NULL DEFAULT '\x7b\x7d'"⟩,
    ⟨"embedding", vectorType dim ++ " NULL"⟩,
    ⟨"metadata", "JSONB NOT NULL DEFAULT '\x7b\x7d'::jsonb"⟩,
    ⟨"updated_at", "TIMESTAMPTZ NOT NULL DEFAULT now()"⟩]
  constraints := ["PRIMARY KEY (tenant_id, domain, path)", domainCheck]

/-- The catalog with its indexes. -/
def commerceLayout (dim : Nat) : List String :=
  [(catalogTable dim).create,
    createIndex "catalog_taxonomy_path_gist" "catalog_taxonomy USING GIST (path)",
    createIndex "catalog_taxonomy_domain_idx" "catalog_taxonomy (domain)"]

/-- Harvested items. -/
def newsRawTable : Table where
  name := "news_raw"
  columns := [⟨"id", "TEXT PRIMARY KEY"⟩, ⟨"tenant_id", "TEXT NOT NULL"⟩, ⟨"url", "TEXT NOT NULL"⟩,
    ⟨"headline", "TEXT NOT NULL"⟩, ⟨"summary", "TEXT NOT NULL"⟩, ⟨"category", "TEXT NULL"⟩,
    ⟨"source_api", "TEXT NOT NULL"⟩, ⟨"metadata", "JSONB NOT NULL DEFAULT '\x7b\x7d'::jsonb"⟩,
    ⟨"harvested_at", "TIMESTAMPTZ NOT NULL DEFAULT now()"⟩]
  constraints := ["UNIQUE (tenant_id, url)"]

/-- Facts drawn from items. -/
def newsFactsTable (dim : Nat) : Table where
  name := "news_facts"
  columns := [⟨"id", "TEXT PRIMARY KEY"⟩, ⟨"tenant_id", "TEXT NOT NULL"⟩, ⟨"url", "TEXT NOT NULL"⟩,
    ⟨"headline", "TEXT NOT NULL"⟩, ⟨"summary", "TEXT NOT NULL"⟩, ⟨"category", "TEXT NULL"⟩,
    ⟨"suggested_agent", "TEXT NULL"⟩, ⟨"significance", "DOUBLE PRECISION NOT NULL DEFAULT 0.5"⟩,
    ⟨"atomic_facts", "TEXT[] NOT NULL DEFAULT '\x7b\x7d'"⟩, ⟨"irony_potential", "TEXT NULL"⟩,
    ⟨"embedding", vectorType dim ++ " NULL"⟩,
    ⟨"metadata", "JSONB NOT NULL DEFAULT '\x7b\x7d'::jsonb"⟩,
    ⟨"raw_id", "TEXT NULL REFERENCES news_raw(id) ON DELETE SET NULL"⟩,
    ⟨"created_at", "TIMESTAMPTZ NOT NULL DEFAULT now()"⟩]
  constraints := ["UNIQUE (tenant_id, url)"]

/-- Posts about facts. -/
def newsPostsTable (dim : Nat) : Table where
  name := "news_posts"
  columns := [⟨"id", "TEXT PRIMARY KEY"⟩, ⟨"tenant_id", "TEXT NOT NULL"⟩,
    ⟨"fact_id", "TEXT NULL REFERENCES news_facts(id) ON DELETE SET NULL"⟩,
    ⟨"agent", "TEXT NOT NULL"⟩, ⟨"headline", "TEXT NOT NULL"⟩, ⟨"content", "TEXT NOT NULL"⟩,
    ⟨"emoji", "TEXT NOT NULL DEFAULT '📰'"⟩, ⟨"fact_url", "TEXT NULL"⟩,
    ⟨"embedding", vectorType dim ++ " NULL"⟩, ⟨"scheduled_at", "TIMESTAMPTZ NULL"⟩,
    ⟨"published_at", "TIMESTAMPTZ NULL"⟩, ⟨"message_id", "BIGINT NULL"⟩,
    ⟨"created_at", "TIMESTAMPTZ NOT NULL DEFAULT now()"⟩]
  constraints := []

/-- The news archive with its indexes. -/
def newsLayout (dim : Nat) : List String :=
  [newsRawTable.create,
    createIndex "news_raw_harvested_idx" "news_raw (harvested_at DESC)",
    createIndex "news_raw_category_idx" "news_raw (category)",
    (newsFactsTable dim).create,
    createIndex "news_facts_created_idx" "news_facts (created_at DESC)",
    createIndex "news_facts_category_idx" "news_facts (category)",
    (newsPostsTable dim).create,
    createIndex "news_posts_tenant_idx" "news_posts (tenant_id)",
    createIndex "news_posts_scheduled_idx" "news_posts (scheduled_at)",
    createIndex "news_posts_published_idx" "news_posts (published_at)"]
    ++ (embeddingIndex (embeddingOf "news_facts") dim).toList
    ++ (embeddingIndex (embeddingOf "news_posts") dim).toList

/-- The tables and indexes of a deployment, in order of dependency. -/
def layout (dim : Nat) (m : Modules) : List String :=
  coreLayout dim ++ (if m.commerce then commerceLayout dim else [])
    ++ if m.news then newsLayout dim else []

/-! ### Policies -/

/-- A row is seen by its tenant, and by the administrator's tenant `*`. -/
def tenantPredicate : String :=
  "tenant_id = current_setting('app.current_tenant', true) " ++
  "OR current_setting('app.current_tenant', true) = '*'"

/-- Creates the roles that do not exist. -/
def createRoles : String :=
  "DO $$\nBEGIN\n" ++
  "    IF NOT EXISTS (SELECT 1 FROM pg_roles WHERE rolname = 'brain_app') THEN\n" ++
  "        CREATE ROLE brain_app NOLOGIN;\n" ++
  "    END IF;\n" ++
  "    IF NOT EXISTS (SELECT 1 FROM pg_roles WHERE rolname = 'brain_admin') THEN\n" ++
  "        CREATE ROLE brain_admin NOLOGIN BYPASSRLS;\n" ++
  "    END IF;\n" ++
  "END\n$$"

/-- The policy and the grants of a table. -/
def tablePolicies (table : String) : List String :=
  ["ALTER TABLE IF EXISTS " ++ table ++ " ENABLE ROW LEVEL SECURITY",
    "ALTER TABLE IF EXISTS " ++ table ++ " FORCE ROW LEVEL SECURITY",
    "DROP POLICY IF EXISTS " ++ table ++ "_tenant_isolation ON " ++ table,
    "CREATE POLICY " ++ table ++ "_tenant_isolation ON " ++ table ++ " USING (" ++ tenantPredicate
      ++ ") WITH CHECK (" ++ tenantPredicate ++ ")",
    "GRANT SELECT, INSERT, UPDATE, DELETE ON " ++ table ++ " TO brain_app",
    "GRANT ALL ON " ++ table ++ " TO brain_admin"]

/-- The roles, grants and row-level policies of some tables.  Each statement stands alone, so that
one may fail without the others. -/
def policies (schema : String) (tables : List String) : List String :=
  [createRoles, "GRANT USAGE ON SCHEMA " ++ schema ++ " TO brain_app, brain_admin"]
    ++ tables.flatMap tablePolicies

/-! ### Another dimension -/

/-- Drops the similarity index, gives the column its new type with every embedding cleared, and
creates the index again. -/
def resize (c : EmbeddingColumn) (dim : Nat) : List String :=
  ["DROP INDEX IF EXISTS " ++ c.index,
    "ALTER TABLE " ++ c.table ++ " ALTER COLUMN embedding TYPE " ++ vectorType dim
      ++ " USING NULL"]
    ++ (embeddingIndex c dim).toList

end Schema

end KnowledgeBase
