import KnowledgeBase.Catalog.Entry
import KnowledgeBase.Graph.Row
import KnowledgeBase.Settings.Store
import KnowledgeBase.Connection.Operation

/-!
# The catalog in the database

The catalog exists only where the settings include it.

## Main definitions

* `Catalog.upsert`, `Catalog.entries` — writing an entry and reading them all.
-/

namespace KnowledgeBase.Catalog

open Sql

/-- What is selected of an entry. -/
def columns : String :=
  "tenant_id, domain, name, path::text AS path, keywords, metadata, updated_at"

/-- A stored domain, in either spelling. -/
def Domain.ofStored (text : String) : Except StoreError Domain :=
  (Domain.parse text).mapError fun refusal => .serialization refusal.toError.message

/-- The entry of a row. -/
def entryOfRow (row : Row) : Except StoreError Entry := do
  let domain : String ← row.column "domain"
  let path : String ← row.column "path"
  let metadata ← row.column "metadata"
  let tenant ← row.column "tenant_id"
  let domain ← Domain.ofStored domain
  let name ← row.column "name"
  let path ← LabelPath.ofStored path
  let keywords ← row.column "keywords"
  let updatedAt ← row.column "updated_at"
  return { tenant, domain, name, path, keywords, embedding := none, metadata, updatedAt }

/-- Writes an entry. -/
def upsertStatement (e : Entry) : Statement :=
  .prepared
    ("INSERT INTO catalog_taxonomy " ++
     "(tenant_id, domain, name, path, keywords, embedding, metadata, updated_at) " ++
     "VALUES ($1, $2, $3, $4::ltree, $5, $6, $7, now()) " ++
     "ON CONFLICT (tenant_id, domain, path) DO UPDATE SET name = EXCLUDED.name, " ++
     "keywords = EXCLUDED.keywords, embedding = EXCLUDED.embedding, " ++
     "metadata = EXCLUDED.metadata, updated_at = now()")
    [toValue e.tenant, toValue e.domain.singular, toValue e.name, toValue e.path.text,
      toValue e.keywords, toValue e.embedding, toValue e.metadata]

/-- Selects the entries of a tenant, of one domain if it is given. -/
def entriesStatement (tenant : String) : Option Domain → Statement
  | some domain =>
    .prepared
      ("SELECT " ++ columns ++ " FROM catalog_taxonomy " ++
        "WHERE tenant_id = $1 AND domain IN ($2, $3) ORDER BY domain, path")
      [toValue tenant, toValue domain.singular, toValue domain.plural]
  | none =>
    .prepared
      ("SELECT " ++ columns ++ " FROM catalog_taxonomy WHERE tenant_id = $1 ORDER BY domain, path")
      [toValue tenant]

/-- Refuses the operation where there is no catalog. -/
def requireEnabled (s : StoreSettings) : Except StoreError Unit :=
  if s.commerce then .ok () else .error (.notSupported "taxonomy catalog requires include_commerce")

/-- Writes an entry, replacing the one of the same tenant, domain and path. -/
def upsert (s : StoreSettings) (e : Entry) : Operation Unit := do
  requireEnabled s
  requireTenant e.tenant
  requireText "taxonomy name" e.name
  requireEmbedding "taxonomy embedding" e.embedding s.dimension
  let _ ← .forTenant e.tenant none (Work.send (upsertStatement e))
  return ()

/-- Every entry of a tenant, of one domain if it is given, by domain and path. -/
def entries (s : StoreSettings) (tenant : String) (domain : Option Domain) :
    Operation (List Entry) := do
  requireEnabled s
  requireTenant tenant
  let rows ← .forTenant tenant none (Work.rows (entriesStatement tenant domain))
  decodeAll entryOfRow rows

end KnowledgeBase.Catalog
