import KnowledgeBase.Graph.Row
import KnowledgeBase.Settings.Store
import KnowledgeBase.Text.Distinct
import KnowledgeBase.Connection.Operation

/-!
# The knowledge graph in the database

Nodes and edges are written together, all or none.  A node is keyed on its id and never passes from
one tenant to another; an edge needs both of its nodes.  A walk reports each edge at the least depth
at which it was reached.

## Main definitions

* `Graph.upsert` — writes nodes, then edges.
* `Graph.search`, `Graph.facts` — a walk, with the nodes it touches or as bare statements.
* `Graph.upsertAlias`, `Graph.resolveAliases` — other names of nodes.
-/

namespace KnowledgeBase.Graph

open Sql

/-! ### Writing -/

/-- Writes a node for a tenant.  A node without a user gets that of the call. -/
def nodeStatement (tenant : String) (user : Option String) (n : Node) : Statement :=
  .prepared
    ("INSERT INTO knowledge_nodes ( id, tenant_id, user_id, node_kind, source_type, source_id, " ++
     "title, content, struct_data, keywords_text, content_hash, taxonomy_path, embedding ) " ++
     "VALUES ($1, $2, $3, $4, $5, $6, $7, $8, $9, $10, $11, $12::ltree, $13) " ++
     "ON CONFLICT (id) DO UPDATE SET title = EXCLUDED.title, content = EXCLUDED.content, " ++
     "struct_data = EXCLUDED.struct_data, keywords_text = EXCLUDED.keywords_text, " ++
     "content_hash = EXCLUDED.content_hash, taxonomy_path = EXCLUDED.taxonomy_path, " ++
     "embedding = EXCLUDED.embedding WHERE knowledge_nodes.tenant_id = EXCLUDED.tenant_id")
    [toValue n.id, toValue tenant, toValue (n.user.or user), toValue n.kind.name,
      toValue n.sourceType, toValue n.sourceId, toValue n.title, toValue n.content,
      toValue n.metadata, toValue n.keywords, toValue n.contentHash,
      toValue (n.path.map LabelPath.text), toValue n.embedding]

/-- Writes an edge for a tenant, provided that both of its nodes are the tenant's. -/
def edgeStatement (tenant : String) (e : Edge) : Statement :=
  .prepared
    ("INSERT INTO knowledge_edges (tenant_id, source_id, target_id, relation, weight, metadata) " ++
     "SELECT $1, $2, $3, $4, $5, $6 " ++
     "WHERE EXISTS (SELECT 1 FROM knowledge_nodes WHERE id = $2 AND tenant_id = $1) " ++
     "AND EXISTS (SELECT 1 FROM knowledge_nodes WHERE id = $3 AND tenant_id = $1) " ++
     "ON CONFLICT (tenant_id, source_id, target_id, relation) DO UPDATE SET " ++
     "weight = EXCLUDED.weight, metadata = EXCLUDED.metadata")
    [toValue tenant, toValue e.source, toValue e.target, toValue e.relation, toValue e.weight,
      toValue e.metadata]

/-- Sends a statement that has to affect a row. -/
def sendEffective (s : Statement) (refusal : Refusal) : Work Unit := do
  let affected ← Work.affected s
  if affected = 0 then Work.fail refusal.toError else return ()

/-- Writes nodes in order. -/
def writeNodes (tenant : String) (user : Option String) : List Node → Work Unit
  | [] => .done ()
  | n :: rest => do
    sendEffective (nodeStatement tenant user n) (.nodeTaken n.id)
    writeNodes tenant user rest

/-- Writes edges in order. -/
def writeEdges (tenant : String) : List Edge → Work Unit
  | [] => .done ()
  | e :: rest => do
    sendEffective (edgeStatement tenant e) (.unlinkedEdge e.source e.relation e.target tenant)
    writeEdges tenant rest

/-- The checks before nodes and edges are written: the tenant, every node in order, then every edge
in order. -/
def validate (dimension : Nat) (tenant : String) (nodes : List Node) (edges : List Edge) :
    Except StoreError Unit := do
  requireTenant tenant
  nodes.forM (Node.validate dimension tenant)
  edges.forM (Edge.validate tenant)

/-- Writes every node, then every edge, in one transaction. -/
def upsert (s : StoreSettings) (tenant : String) (user : Option String) (nodes : List Node)
    (edges : List Edge) : Operation Unit := do
  validate s.dimension tenant nodes edges
  if nodes.isEmpty && edges.isEmpty then return ()
  else
    .forTenant tenant user do
      writeNodes tenant user nodes
      writeEdges tenant edges

/-! ### Walks -/

/-- Walks outgoing edges from some entry points.  Edges of a cycle are met again at greater depths
only, so the bound on the depth ends the walk. -/
def walkStatement (tenant : String) (entrypoints : List String) (relations : Option (List String))
    (maxHops limit : UInt32) : Statement :=
  .prepared
    ("WITH RECURSIVE walk (source_id, target_id, relation, depth) AS ( " ++
     "SELECT e.source_id, e.target_id, e.relation, 1 FROM knowledge_edges e " ++
     "WHERE e.tenant_id = $1 AND e.source_id = ANY($2) " ++
     "AND ($3::text[] IS NULL OR e.relation = ANY($3)) " ++
     "UNION SELECT e.source_id, e.target_id, e.relation, w.depth + 1 FROM walk w " ++
     "JOIN knowledge_edges e ON e.source_id = w.target_id AND e.tenant_id = $1 " ++
     "WHERE w.depth < $4 AND ($3::text[] IS NULL OR e.relation = ANY($3)) ), " ++
     "found AS ( SELECT source_id, target_id, relation, MIN(depth) AS depth FROM walk " ++
     "GROUP BY source_id, target_id, relation ) " ++
     "SELECT f.source_id, f.target_id, f.relation, f.depth, e.weight, e.metadata FROM found f " ++
     "JOIN knowledge_edges e ON e.tenant_id = $1 AND e.source_id = f.source_id " ++
     "AND e.target_id = f.target_id AND e.relation = f.relation " ++
     "ORDER BY f.depth, f.source_id, f.target_id, f.relation LIMIT $5")
    [toValue tenant, toValue entrypoints, toValue relations, toValue (saturate maxHops.toNat),
      toValue (widen limit)]

/-- Selects nodes by their ids, in order of the ids. -/
def nodesStatement (tenant : String) (ids : List String) : Statement :=
  .prepared
    ("SELECT " ++ Node.columns ++ " FROM knowledge_nodes WHERE tenant_id = $1 AND id = ANY($2) " ++
      "ORDER BY id")
    [toValue tenant, toValue ids]

/-- The relations that a walk follows; an empty list means all, like none. -/
def allowlist (relations : Option (List String)) : Option (List String) :=
  relations.filter fun names => !names.isEmpty

/-- The edges that a walk meets.  A walk of no hops or no results is not sent. -/
def walk (w : Walk) : Work (List ReachedEdge) :=
  if w.maxHops = 0 || w.maxResults = 0 then .done []
  else do
    let rows ← Work.rows
      (walkStatement w.tenant w.entrypoints (allowlist w.relations) w.maxHops w.maxResults)
    Work.ofExcept (decodeAll (ReachedEdge.ofRow w.tenant) rows)

/-- The ids that a walk touches, in ascending order. -/
def touched (entrypoints : List String) (edges : List ReachedEdge) : List String :=
  Text.ascending (entrypoints ++ edges.flatMap fun e => [e.edge.source, e.edge.target])

/-- The node of a row, with its content cut to a preview. -/
def previewOfRow (limit : Nat) (row : Row) : Except StoreError Node := do
  let node ← Node.ofRow row
  return { node with content := Node.preview node.content limit }

/-- Follows edges from some entry points and reads the nodes they touch. -/
def search (s : StoreSettings) (w : Walk) : Operation Neighbourhood := do
  requireTenant w.tenant
  if w.entrypoints.isEmpty then return .empty
  else
    .forTenant w.tenant none do
      let edges ← walk w
      let rows ← Work.rows (nodesStatement w.tenant (touched w.entrypoints edges))
      let nodes ← Work.ofExcept (decodeAll (previewOfRow s.graph.previewChars.toNat) rows)
      return ⟨nodes, edges⟩

/-- The statements that the edges of a walk make. -/
def facts (w : Walk) : Operation (List Triple) := do
  requireTenant w.tenant
  if w.entrypoints.isEmpty || w.maxHops = 0 || w.maxResults = 0 then return []
  else
    .forTenant w.tenant none do
      let edges ← walk w
      return edges.map fun e => e.edge.triple

/-! ### Aliases -/

/-- Points a name at a node of the tenant. -/
def aliasStatement (tenant : String) (a : Alias) : Statement :=
  .prepared
    ("INSERT INTO knowledge_aliases (tenant_id, alias, node_id, source) SELECT $1, $2, $3, $4 " ++
     "WHERE EXISTS (SELECT 1 FROM knowledge_nodes WHERE id = $3 AND tenant_id = $1) " ++
     "ON CONFLICT (tenant_id, alias) DO UPDATE SET " ++
     "node_id = EXCLUDED.node_id, source = EXCLUDED.source")
    [toValue tenant, toValue (Text.trim a.name), toValue a.node, toValue a.source]

/-- Points a name at a node of the same tenant, replacing what it pointed at before. -/
def upsertAlias (tenant : String) (a : Alias) : Operation Unit := do
  requireTenant tenant
  requireText "alias" a.name
  requireText "alias node_id" a.node
  .forTenant tenant none (sendEffective (aliasStatement tenant a) (.unlinkedAlias a.node tenant))

/-- Selects the nodes that names point at. -/
def resolveStatement (tenant : String) (names : List String) : Statement :=
  .prepared
    "SELECT alias, node_id FROM knowledge_aliases WHERE tenant_id = $1 AND alias = ANY($2)"
    [toValue tenant, toValue names]

/-- The name and the node of a row. -/
def aliasOfRow (row : Row) : Except StoreError (String × String) := do
  let name ← row.column "alias"
  let node ← row.column "node_id"
  return (name, node)

/-- The nodes that names point at.  Names that point at nothing are left out. -/
def resolveAliases (tenant : String) (names : List String) : Operation (Assoc String) := do
  requireTenant tenant
  if names.isEmpty then return []
  else
    let rows ← .forTenant tenant none (Work.rows (resolveStatement tenant names))
    let found ← decodeAll aliasOfRow rows
    return Assoc.ofList found

end KnowledgeBase.Graph
