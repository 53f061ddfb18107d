import KnowledgeBase.Graph.Node

/-!
# Edges, walks and aliases

An edge is a directed, typed relationship between two nodes of one tenant.  A walk follows outgoing
edges from a set of entry points, breadth first.

## Main definitions

* `Edge`, `Edge.validate` — the data and the checks before a write.
* `Walk` — what to follow and how far; `ReachedEdge`, `Neighbourhood`, `Triple` — what is found.
* `Alias` — another name of a node.
-/

namespace KnowledgeBase

/-- A directed, typed relationship between two nodes of one tenant. -/
structure Edge where
  tenant : Option String
  source : String
  target : String
  relation : String
  weight : Float
  metadata : Metadata

namespace Edge

/-- An edge of weight one. -/
def between (source target relation : String) : Edge :=
  ⟨none, source, target, relation, 1.0, .empty⟩

instance codec : Codec Edge where
  encode e := .obj [("tenant_id", encode e.tenant), ("source_id", encode e.source),
    ("target_id", encode e.target), ("relation", encode e.relation), ("weight", encode e.weight),
    ("metadata", encode e.metadata)]
  decode := Json.readRecord .strict
      ["tenant_id", "source_id", "target_id", "relation", "weight", "metadata"] fun r =>
    Edge.mk <$> r.optional "tenant_id" decode <*> r.required "source_id" decode
      <*> r.required "target_id" decode <*> r.required "relation" decode
      <*> r.required "weight" decode <*> r.required "metadata" decode

/-- The checks before an edge is written for a tenant. -/
def validate (tenant : String) (e : Edge) : Except StoreError Unit := do
  requireText "edge source_id" e.source
  requireText "edge target_id" e.target
  requireText "edge relation" e.relation
  match e.tenant with
  | some owner =>
    if owner ≠ tenant then throw (Refusal.foreignEdge e.source e.target owner tenant).toError
  | none => pure ()
  if !Double.isFinite e.weight then throw Refusal.weightNotFinite.toError

end Edge

/-- An edge found by a walk, with the hop at which it was found, one for edges that leave an entry
point. -/
structure ReachedEdge where
  edge : Edge
  depth : UInt32

instance ReachedEdge.codec : Codec ReachedEdge where
  encode e := .obj [("edge", encode e.edge), ("depth", encode e.depth)]
  decode := Json.readRecord .strict ["edge", "depth"] fun r =>
    ReachedEdge.mk <$> r.required "edge" decode <*> r.required "depth" decode

/-- A walk over outgoing edges. -/
structure Walk where
  tenant : String
  entrypoints : List String
  maxHops : UInt32
  /-- The relations to follow; none or an empty list means all. -/
  relations : Option (List String)
  /-- The greatest number of edges returned. -/
  maxResults : UInt32

instance Walk.codec : Codec Walk where
  encode w := .obj [("tenant_id", encode w.tenant), ("entrypoint_ids", encode w.entrypoints),
    ("max_hops", encode w.maxHops), ("allowed_relations", encode w.relations),
    ("max_results", encode w.maxResults)]
  decode := Json.readRecord .strict
      ["tenant_id", "entrypoint_ids", "max_hops", "allowed_relations", "max_results"] fun r =>
    Walk.mk <$> r.required "tenant_id" decode <*> r.required "entrypoint_ids" decode
      <*> r.required "max_hops" decode <*> r.optional "allowed_relations" decode
      <*> r.required "max_results" decode

/-- What a walk touches: entry points and end points with their content cut to a preview, and the
edges followed. -/
structure Neighbourhood where
  nodes : List Node
  edges : List ReachedEdge

namespace Neighbourhood

/-- Nothing. -/
def empty : Neighbourhood := ⟨[], []⟩

/-- Whether there is neither a node nor an edge. -/
def isEmpty (g : Neighbourhood) : Bool := g.nodes.isEmpty && g.edges.isEmpty

end Neighbourhood

instance Neighbourhood.codec : Codec Neighbourhood where
  encode g := .obj [("nodes", encode g.nodes), ("edges", encode g.edges)]
  decode := Json.readRecord .strict ["nodes", "edges"] fun r =>
    Neighbourhood.mk <$> r.required "nodes" decode <*> r.required "edges" decode

/-- A relationship as a bare statement. -/
structure Triple where
  source : String
  relation : String
  target : String
deriving DecidableEq

instance Triple.codec : Codec Triple where
  encode t := .obj [("source_id", encode t.source), ("relation", encode t.relation),
    ("target_id", encode t.target)]
  decode := Json.readRecord .strict ["source_id", "relation", "target_id"] fun r =>
    Triple.mk <$> r.required "source_id" decode <*> r.required "relation" decode
      <*> r.required "target_id" decode

/-- The statement that an edge makes. -/
def Edge.triple (e : Edge) : Triple := ⟨e.source, e.relation, e.target⟩

/-- Another name of a node. -/
structure Alias where
  name : String
  node : String
  /-- Where the name comes from. -/
  source : String

instance Alias.codec : Codec Alias where
  encode a := .obj [("alias", encode a.name), ("node_id", encode a.node),
    ("source", encode a.source)]
  decode := Json.readRecord .strict ["alias", "node_id", "source"] fun r =>
    Alias.mk <$> r.required "alias" decode <*> r.required "node_id" decode
      <*> r.required "source" decode

end KnowledgeBase
