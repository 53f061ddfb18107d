import KnowledgeBase.Graph.Edge
import KnowledgeBase.Sql.Row

/-!
# Nodes and edges as rows

## Main definitions

* `Node.columns`, `Node.ofRow` — what is selected of a node, and the node of such a row.
* `ReachedEdge.ofRow` — the edge of a row of a walk.
-/

namespace KnowledgeBase

open Sql

/-- A stored path.  One that is no path was not written here, so it cannot be decoded. -/
def LabelPath.ofStored (text : String) : Except StoreError LabelPath :=
  (LabelPath.ofText text).mapError fun refusal => .serialization refusal.toError.message

namespace Node

/-- What is selected of a node.  Embeddings are never read. -/
def columns : String :=
  "id, tenant_id, user_id, node_kind, source_type, source_id, title, content, struct_data, " ++
  "keywords_text, content_hash, taxonomy_path::text AS taxonomy_path, created_at"

/-- The node of a row.  Of several columns that cannot be read, the first in this order decides. -/
def ofRow (row : Row) : Except StoreError Node := do
  -- what has to be converted is fetched ahead of the rest, and converted in its place
  let kind : String ← row.column "node_kind"
  let path : Option String ← row.column "taxonomy_path"
  let metadata ← row.column "struct_data"
  let id ← row.column "id"
  let tenant ← row.column "tenant_id"
  let user ← row.column "user_id"
  let kind ← NodeKind.parse kind
  let sourceType ← row.column "source_type"
  let sourceId ← row.column "source_id"
  let title ← row.column "title"
  let content ← row.column "content"
  let keywords ← row.column "keywords_text"
  let contentHash ← row.column "content_hash"
  let path ← path.mapM LabelPath.ofStored
  let createdAt ← row.column "created_at"
  return { id, tenant, user, kind, sourceType, sourceId, title, content, metadata, keywords,
           contentHash, path, embedding := none, createdAt }

end Node

/-- The edge of a row of a walk, which belongs to the tenant of the walk. -/
def ReachedEdge.ofRow (tenant : String) (row : Row) : Except StoreError ReachedEdge := do
  let depth : Int32 ← row.column "depth"
  let metadata ← row.column "metadata"
  let source ← row.column "source_id"
  let target ← row.column "target_id"
  let relation ← row.column "relation"
  let weight ← row.column "weight"
  let edge : Edge := { tenant := some tenant, source, target, relation, weight, metadata }
  return ⟨edge, UInt32.ofNat depth.toInt.toNat⟩

end KnowledgeBase
