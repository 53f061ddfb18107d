import KnowledgeBase.Search.Request
import KnowledgeBase.Graph.Row
import KnowledgeBase.Schema.Layout
import KnowledgeBase.Connection.Operation

/-!
# Hybrid search in the database

A search ranks chunks by vector similarity and by lexical match, fuses the two rankings, and reads
the nodes of the best candidates.  Each step is a transaction of its own.

## Main definitions

* `Search.Condition`, `Search.conditions` — the scope of a search as conditions on rows.
* `Search.vectorStatement`, `Search.textStatement` — the two rankings.
* `Search.hybrid` — the operation.
-/

namespace KnowledgeBase.Search

open Sql

/-- A condition on rows: the text around its placeholder, and the value bound there. -/
structure Condition where
  before : String
  after : String
  value : Value

/-- The conditions of a scope: on the user, the path and the source type, as far as they are set. -/
def conditions (s : Scope) : List Condition :=
  (s.user.map fun u => ⟨" AND (user_id = $", " OR user_id IS NULL)", toValue u⟩).toList
    ++ (s.path.map fun p => ⟨" AND taxonomy_path <@ $", "::ltree", toValue p.text⟩).toList
    ++ if s.sourceTypes.isEmpty then []
      else [⟨" AND source_type = ANY($", ")", toValue s.sourceTypes⟩]

/-- The text of conditions whose placeholders are numbered on from `n`. -/
def clause (n : Nat) : List Condition → String
  | [] => ""
  | c :: rest => c.before ++ toString n ++ c.after ++ clause (n + 1) rest

/-- The text that a scope adds to a ranking, after three placeholders. -/
def scopeClause (s : Scope) : String := clause 4 (conditions s)

/-- The values that a scope binds in a ranking. -/
def scopeValues (s : Scope) : List Value := (conditions s).map Condition.value

/-- Ranks chunks by the similarity of their embeddings. -/
def vectorStatement (r : Request) : Statement :=
  .prepared
    ("SELECT id, (1 - (embedding <=> $2))::float8 AS score FROM knowledge_nodes " ++
      "WHERE tenant_id = $1 AND node_kind = 'chunk' AND embedding IS NOT NULL"
      ++ scopeClause r.scope ++ " ORDER BY embedding <=> $2, id LIMIT $3")
    ([toValue r.tenant, toValue r.vector, toValue (widen r.candidateK)] ++ scopeValues r.scope)

/-- Ranks chunks by how well they match the words of a text. -/
def textStatement (r : Request) : Statement :=
  .prepared
    ("SELECT id, ts_rank_cd(" ++ Schema.lexicalDocument ++ ", query)::float8 AS score " ++
      "FROM knowledge_nodes, websearch_to_tsquery('simple', $2) AS query " ++
      "WHERE tenant_id = $1 AND node_kind = 'chunk' AND " ++ Schema.lexicalDocument ++ " @@ query"
      ++ scopeClause r.scope ++ " ORDER BY score DESC, id LIMIT $3")
    ([toValue r.tenant, toValue (Text.trim r.text), toValue (widen r.candidateK)]
      ++ scopeValues r.scope)

/-- Selects nodes by their ids. -/
def fetchStatement (tenant : String) (ids : List String) : Statement :=
  .prepared
    ("SELECT " ++ Node.columns ++ " FROM knowledge_nodes WHERE tenant_id = $1 AND id = ANY($2)")
    [toValue tenant, toValue ids]

/-- The hit of a row. -/
def hitOfRow (row : Row) : Except StoreError (Fusion.Hit Float) := do
  let id ← row.column "id"
  let score ← row.column "score"
  return ⟨id, score⟩

/-- The hits of a ranking, or none when the ranking has nothing to go by. -/
def ranking (tenant : String) (useful : Bool) (s : Statement) :
    Operation (List (Fusion.Hit Float)) :=
  if useful then do
    let rows ← .forTenant tenant none (Work.rows s)
    decodeAll hitOfRow rows
  else .done []

/-- The candidates with the node of the same id, the last if there are several.  Candidates without
a node are left out. -/
def join (nodes : List Node) (fused : List (Fusion.Fused Float)) : List Result :=
  fused.filterMap fun f =>
    (nodes.reverse.find? fun n => n.id = f.id).map fun n => ⟨n, f.score, f.vectorScore, f.textScore⟩

/-- Refuses a query vector whose length is not the dimension of the deployment.  An empty one leaves
the vector ranking out. -/
def validateVector (dimension : Nat) (r : Request) : Except StoreError Unit :=
  if r.vector.isEmpty then .ok () else requireDimension "query_vector" r.vector dimension

/-- Ranks chunks against a text and a vector.  For a blank tenant, or when a bound is zero, nothing
is found and nothing sent. -/
def hybrid (s : StoreSettings) (r : Request) : Operation (List Result) :=
  if Text.isBlank r.tenant then .done []
  else
    match r.effectiveLimit with
    | none => .done []
    | some limit => do
      validateVector s.dimension r
      let vectorHits ← ranking r.tenant (!r.vector.isEmpty) (vectorStatement r)
      let textHits ← ranking r.tenant (!Text.isBlank r.text) (textStatement r)
      let fused := Fusion.fuse vectorHits textHits r.fusion r.params limit.toNat
      if fused.isEmpty then return []
      else
        let rows ← .forTenant r.tenant none
          (Work.rows (fetchStatement r.tenant (fused.map Fusion.Fused.id)))
        let nodes ← decodeAll Node.ofRow rows
        return join nodes fused

end KnowledgeBase.Search
