import KnowledgeBase.Proofs.Connection.Gate
import KnowledgeBase.Proofs.Connection.Lifetime
import KnowledgeBase.Proofs.Store.Inventory

/-!
# What each operation settles before the database

Every operation for a tenant has a list of questions about its settings and its arguments: refusals
and short cuts, in the order in which they are asked.  The list says by itself whether the operation
goes to the database, and what it answers when it does not.

## Main definitions

* `Gate.node`, `Gate.edge` — the refusals of one node and of one edge.
* `Belief.admits` — the confidences from zero to one.
* `Call.gates`, `Call.verdict?` — the questions of each operation, and the first answer among them.
* `Call.IsNothing` — the answer of an operation that found nothing to do.

## Main results

* `Call.gated` — each operation answers by the first of its gates that applies.
* `Call.settled_before_query` — an operation that is settled sends nothing and needs no connection;
  one that is not opens a transaction first.
-/

namespace KnowledgeBase

variable {α : Type} (s : StoreSettings)

/-! ### Refusals -/

/-- The confidences from zero to one.  A NaN is not among them. -/
def Belief.admits (confidence : Float) : Bool :=
  let zero : Float := 0.0
  let one : Float := 1.0
  (Double.compare? zero confidence).any Ordering.isLE
    && (Double.compare? confidence one).any Ordering.isLE

theorem Belief.admits_iff {confidence : Float} :
    Belief.admits confidence = true ↔ Double.isNaN confidence = false ∧
      0 ≤ Double.key confidence ∧ Double.key confidence ≤ Double.key (1.0 : Float) := by
  have hzero : Double.isNaN (0.0 : Float) = false ∧ Double.key (0.0 : Float) = 0 := by decide
  have hone : Double.isNaN (1.0 : Float) = false := by decide
  unfold Belief.admits Double.compare?
  simp only [hzero.1, hzero.2, hone]
  cases Double.isNaN confidence with
  | true => simp
  | false => simp [Int.isLE_compare]

namespace Gate

/-- The tenant is blank. -/
def tenant (id : String) : Gate α := .refusal (Text.isBlank id) .missingTenant

/-- A required field is blank. -/
def text (field value : String) : Gate α := .refusal (Text.isBlank value) (.blankField field)

/-- A vector has not the dimension of the deployment. -/
def dimension (field : String) (v : List Float32) (expected : Nat) : Gate α :=
  .refusal (v.length != expected) (.wrongDimension field v.length expected)

/-- An embedding, if there is one, has not the dimension of the deployment. -/
def embedding (field : String) (v : Option (List Float32)) (expected : Nat) : List (Gate α) :=
  (v.map fun v => dimension field v expected).toList

/-- The catalog is not enabled. -/
def catalog : Gate α := .disabled (!s.commerce) "taxonomy catalog requires include_commerce"

/-- The news archive is not enabled. -/
def news : Gate α := .disabled (!s.news) "news archive requires include_news"

/-- The refusals of a node that is written for a tenant. -/
def node (expected : Nat) (id : String) (n : Node) : List (Gate α) :=
  text "node id" n.id :: text "node content" n.content ::
    ((n.tenant.map fun owner => .refusal (owner != id) (.foreignNode n.id owner id)).toList
      ++ ((n.sourceType.map fun name =>
            .refusal (!sourceTypes.contains name) (.unknownSource name)).toList
        ++ embedding "node embedding" n.embedding expected))

/-- The refusals of an edge that is written for a tenant. -/
def edge (id : String) (e : Edge) : List (Gate α) :=
  text "edge source_id" e.source :: text "edge target_id" e.target ::
    text "edge relation" e.relation ::
      ((e.tenant.map fun owner =>
          .refusal (owner != id) (.foreignEdge e.source e.target owner id)).toList
        ++ [.refusal (!Double.isFinite e.weight) .weightNotFinite])

end Gate

/-! ### The gates of each operation -/

namespace Call

/-- The refusals and short cuts of an operation, in the order in which they are asked. -/
def gates : (c : Call) → List (Gate c.Answer)
  | upsertGraph tenant _ nodes edges =>
    .tenant tenant ::
        (nodes.flatMap (Gate.node s.dimension tenant) ++ edges.flatMap (Gate.edge tenant))
      ++ [.shortcut (nodes.isEmpty && edges.isEmpty) ()]
  | searchGraph walk => [.tenant walk.tenant, .shortcut walk.entrypoints.isEmpty .empty]
  | fetchTriples walk =>
    [.tenant walk.tenant,
      .shortcut (walk.entrypoints.isEmpty || walk.maxHops = 0 || walk.maxResults = 0) []]
  | upsertAlias tenant name =>
    [.tenant tenant, .text "alias" name.name, .text "alias node_id" name.node]
  | resolveAliases tenant names => [.tenant tenant, .shortcut names.isEmpty []]
  | searchHybrid r =>
    [.shortcut (Text.isBlank r.tenant) [], .shortcut (r.candidateK = 0 || r.limit = 0) [],
      .refusal (!r.vector.isEmpty && r.vector.length != s.dimension)
        (.wrongDimension "query_vector" r.vector.length s.dimension),
      .shortcut (r.vector.isEmpty && Text.isBlank r.text) []]
  | addEpisode draft =>
    .tenant draft.tenant :: .text "episode user_id" draft.user ::
      .text "episode content" draft.content ::
        Gate.embedding "episode embedding" draft.embedding s.dimension
  | recentEpisodes tenant user limit =>
    [.tenant tenant, .text "user_id" user, .shortcut (limit = 0) []]
  | oldEpisodes tenant _ limit => [.tenant tenant, .shortcut (limit = 0) []]
  | deleteEpisodes tenant _ ids => [.tenant tenant, .shortcut (ids.any List.isEmpty) (0 : Nat)]
  | countEpisodes tenant => [.tenant tenant]
  | upsertBelief tenant user key _ confidence _ =>
    [.tenant tenant, .text "user_id" user, .text "fact_key" key,
      .refusal (!Belief.admits confidence) (.confidenceOutOfRange confidence)]
  | beliefs tenant user => [.tenant tenant, .text "user_id" user]
  | upsertEntry entry =>
    .catalog s :: .tenant entry.tenant :: .text "taxonomy name" entry.name ::
      Gate.embedding "taxonomy embedding" entry.embedding s.dimension
  | entries tenant _ => [.catalog s, .tenant tenant]
  | appendTrace _ draft => [.tenant draft.tenant, .text "agent_id" draft.agent]
  | listTraces query => [.tenant query.tenant, .shortcut (query.limit = 0) []]
  | upsertRaw item =>
    [.news s, .tenant item.tenant, .text "news id" item.id, .text "news url" item.url]
  | upsertNewsFact fact =>
    .news s :: .tenant fact.tenant :: .text "fact id" fact.id :: .text "fact url" fact.url ::
      Gate.embedding "fact embedding" fact.embedding s.dimension
  | recentNewsFacts tenant limit _ => [.news s, .tenant tenant, .shortcut (limit = 0) []]
  | searchNewsFacts tenant vector limit _ =>
    [.news s, .tenant tenant, .dimension "query vector" vector s.dimension,
      .shortcut (limit = 0) []]
  | upsertPost post =>
    .news s :: .tenant post.tenant :: .text "post id" post.id :: .text "post agent" post.agent ::
      Gate.embedding "post embedding" post.embedding s.dimension
  | markPublished tenant id _ => [.news s, .tenant tenant, .text "post id" id]
  | searchPosts tenant vector limit =>
    [.news s, .tenant tenant, .dimension "query vector" vector s.dimension,
      .shortcut (limit = 0) []]
  | tenantSession tenant _ _ => [.tenant tenant]
  -- the operations on the schema have no tenant, and check their input otherwise
  | ensureSchema => []
  | schemaVersion => []
  | changeDimension _ => []

/-- What an operation answers without the database, if it does. -/
def verdict? (c : Call) : Option (Except StoreError c.Answer) := Gate.verdict? (c.gates s)

/-- The answer of an operation that found nothing to do.  An operation that cannot find so has
none. -/
def IsNothing : (c : Call) → c.Answer → Prop
  | upsertGraph .., _ => True
  | searchGraph _, answer => answer = Neighbourhood.empty
  | fetchTriples _, answer => answer = ([] : List Triple)
  | resolveAliases .., answer => answer = ([] : Assoc String)
  | searchHybrid _, answer => answer = ([] : List Search.Result)
  | recentEpisodes .., answer => answer = ([] : List Episode)
  | oldEpisodes .., answer => answer = ([] : List Episode)
  | deleteEpisodes .., answer => answer = (0 : Nat)
  | listTraces _, answer => answer = ([] : List Trace)
  | recentNewsFacts .., answer => answer = ([] : List News.Fact)
  | searchNewsFacts .., answer => answer = ([] : List News.ScoredFact)
  | searchPosts .., answer => answer = ([] : List News.ScoredPost)
  | _, _ => False

end Call

/-! ### The checks behind the gates -/

namespace Gate

variable {s}

theorem checks_tenant (id : String) : Checks [tenant (α := α) id] (requireTenant id) :=
  .refusal _ _

theorem checks_text (field value : String) :
    Checks [text (α := α) field value] (requireText field value) :=
  .refusal _ _

theorem checks_dimension (field : String) (v : List Float32) (expected : Nat) :
    Checks [dimension (α := α) field v expected] (requireDimension field v expected) := by
  have h : requireDimension field v expected =
      if v.length != expected then .error (Refusal.wrongDimension field v.length expected).toError
      else .ok () := by
    by_cases hlength : v.length = expected
    · simp [requireDimension, hlength]
    · simp [requireDimension, hlength]
  rw [h]
  exact .refusal _ _

theorem checks_embedding (field : String) (v : Option (List Float32)) (expected : Nat) :
    Checks (embedding (α := α) field v expected) (requireEmbedding field v expected) := by
  cases v with
  | none => exact .passed
  | some v => exact checks_dimension field v expected

theorem finds_embedding {P : α → Prop} (field : String) (v : Option (List Float32))
    (expected : Nat) : Finds P (embedding field v expected) := by
  cases v with
  | none => exact .nil
  | some v => exact .refusal .nil

theorem checks_catalog : Checks [catalog (α := α) s] (Catalog.requireEnabled s) := by
  cases henabled : s.commerce with
  | true => simp only [Catalog.requireEnabled, catalog, henabled]; exact .next rfl .passed
  | false => simp only [Catalog.requireEnabled, catalog, henabled]; exact .refused rfl rfl

theorem checks_news : Checks [news (α := α) s] (News.requireEnabled s) := by
  cases henabled : s.news with
  | true => simp only [News.requireEnabled, news, henabled]; exact .next rfl .passed
  | false => simp only [News.requireEnabled, news, henabled]; exact .refused rfl rfl

theorem checks_node (expected : Nat) (id : String) (n : Node) :
    Checks (node (α := α) expected id n) (n.validate expected id) := by
  unfold Node.validate node
  refine .bind (checks_text _ _) (.bind (checks_text _ _) ?_)
  have hembedding := checks_embedding (α := α) "node embedding" n.embedding expected
  cases n.tenant with
  | none =>
    cases n.sourceType with
    | none => exact hembedding
    | some name => exact .thrown Iff.rfl hembedding
  | some owner =>
    refine .thrown (by simp) ?_
    cases n.sourceType with
    | none => exact hembedding
    | some name => exact .thrown Iff.rfl hembedding

theorem checks_edge (id : String) (e : Edge) : Checks (edge (α := α) id e) (e.validate id) := by
  unfold Edge.validate edge
  refine .bind (checks_text _ _) (.bind (checks_text _ _) (.bind (checks_text _ _) ?_))
  have hweight := Checks.refusal (α := α) (!Double.isFinite e.weight) .weightNotFinite
  cases e.tenant with
  | none => exact hweight
  | some owner => exact .thrown (by simp) hweight

theorem checks_graph (expected : Nat) (id : String) (nodes : List Node) (edges : List Edge) :
    Checks ([tenant (α := α) id] ++ (nodes.flatMap (node expected id) ++ edges.flatMap (edge id)))
      (Graph.validate expected id nodes edges) :=
  .bind (checks_tenant id)
    (.bind (.forM fun n => checks_node expected id n) (.forM fun e => checks_edge id e))

theorem checks_confidence (confidence : Float) :
    Checks [.refusal (α := α) (!Belief.admits confidence) (.confidenceOutOfRange confidence)]
      (Belief.validateConfidence confidence) := by
  have hrange := @Belief.admits_iff confidence
  unfold Belief.validateConfidence
  by_cases hadmits : Belief.admits confidence = true
  · obtain ⟨hnan, hleast, hgreatest⟩ := hrange.1 hadmits
    rw [hadmits, if_neg (by simp [hnan, hleast, hgreatest])]
    exact .next rfl .passed
  · rw [Bool.eq_false_iff.2 hadmits, if_pos]
    · exact .refused rfl rfl
    · rw [hrange] at hadmits
      grind

end Gate

/-! ### Operations -/

open Operation.Gated (check lastCheck shortcut forTenant)
open Gate (checks_tenant checks_text checks_embedding checks_dimension checks_catalog checks_news)

namespace Search

theorem effectiveLimit_eq_none_iff {r : Request} :
    r.effectiveLimit = none ↔ (r.candidateK = 0 || r.limit = 0) = true := by
  rw [Request.effectiveLimit]
  split
  · next hzero => simp [hzero]
  · next hpositive => simp [hpositive]

theorem checks_vector (r : Request) :
    Gate.Checks [.refusal (α := α) (!r.vector.isEmpty && r.vector.length != s.dimension)
      (.wrongDimension "query_vector" r.vector.length s.dimension)]
      (validateVector s.dimension r) := by
  unfold validateVector
  cases r.vector.isEmpty with
  | true => exact .next rfl .passed
  | false => exact checks_dimension "query_vector" r.vector s.dimension

/-- Without hits in either ranking there are no candidates. -/
theorem fuse_nil (r : Request) (limit : Nat) :
    Fusion.fuse ([] : List (Fusion.Hit Float)) [] r.fusion r.params limit = [] := by
  have hnone : Text.distinct [] = [] := rfl
  simp [Fusion.fuse, Fusion.candidates, hnone]

/-- A search without anything to go by finds nothing; otherwise its first ranking opens a
transaction. -/
theorem hybrid_gated (r : Request) : (hybrid s r).Gated ((Call.searchHybrid r).gates s) := by
  refine shortcut Iff.rfl fun _ => ?_
  cases hlimit : r.effectiveLimit with
  | none => exact .settled (g := .shortcut _ []) (effectiveLimit_eq_none_iff.1 hlimit)
  | some limit =>
    have hpositive : (r.candidateK = 0 || r.limit = 0) = false := by
      rw [← Bool.not_eq_true, ← effectiveLimit_eq_none_iff, hlimit]
      simp
    refine .passed hpositive (check (checks_vector s r) ?_)
    cases hvector : r.vector.isEmpty with
    | false => exact .passed rfl (.opens ..)
    | true =>
      cases htext : Text.isBlank r.text with
      | false => exact .passed rfl (.opens ..)
      | true =>
        simp only [ranking, Bool.not_true, Bool.false_eq_true, if_false, Operation.done_bind,
          fuse_nil, List.isEmpty_nil, if_true]
        exact .settled (g := .shortcut true []) rfl

end Search

/-- **Each operation for a tenant answers by the first of its gates that applies**, and otherwise
goes on with a transaction of the tenant. -/
theorem Call.gated {c : Call} (h : c.tenant?.isSome) : (c.operation s).Gated (c.gates s) := by
  cases c with
  | ensureSchema => cases h
  | schemaVersion => cases h
  | changeDimension dim => cases h
  | tenantSession id user ending => exact check (checks_tenant id) (.opens ..)
  | upsertGraph id user nodes edges =>
    exact check (Gate.checks_graph s.dimension id nodes edges)
      (shortcut Iff.rfl fun _ => .opens ..)
  | searchGraph walk => exact check (checks_tenant _) (shortcut Iff.rfl fun _ => .opens ..)
  | fetchTriples walk => exact check (checks_tenant _) (shortcut Iff.rfl fun _ => .opens ..)
  | upsertAlias id name =>
    exact check (checks_tenant _) (check (checks_text _ _) (check (checks_text _ _) (.opens ..)))
  | resolveAliases id names =>
    exact check (checks_tenant _) (shortcut Iff.rfl fun _ => forTenant ..)
  | searchHybrid request => exact Search.hybrid_gated s request
  | addEpisode draft =>
    exact check (checks_tenant _) (check (checks_text _ _) (check (checks_text _ _)
      (lastCheck (checks_embedding _ _ _) (forTenant ..))))
  | recentEpisodes id user limit =>
    exact check (checks_tenant _) (check (checks_text _ _)
      (shortcut (by simp) fun _ => forTenant ..))
  | oldEpisodes id days limit =>
    exact check (checks_tenant _) (shortcut (by simp) fun _ => forTenant ..)
  | deleteEpisodes id days ids =>
    exact check (checks_tenant _) (shortcut Iff.rfl fun _ => .opens ..)
  | countEpisodes id => exact check (checks_tenant _) (forTenant ..)
  | upsertBelief id user key value confidence source =>
    exact check (checks_tenant _) (check (checks_text _ _) (check (checks_text _ _)
      (check (Gate.checks_confidence _) (forTenant ..))))
  | beliefs id user => exact check (checks_tenant _) (check (checks_text _ _) (forTenant ..))
  | upsertEntry entry =>
    exact check checks_catalog (check (checks_tenant _) (check (checks_text _ _)
      (lastCheck (checks_embedding _ _ _) (forTenant ..))))
  | entries id domain => exact check checks_catalog (check (checks_tenant _) (forTenant ..))
  | appendTrace id draft => exact check (checks_tenant _) (check (checks_text _ _) (forTenant ..))
  | listTraces query => exact check (checks_tenant _) (shortcut (by simp) fun _ => forTenant ..)
  | upsertRaw item =>
    exact check checks_news (check (checks_tenant _) (check (checks_text _ _)
      (check (checks_text _ _) (.opens ..))))
  | upsertNewsFact fact =>
    exact check checks_news (check (checks_tenant _) (check (checks_text _ _)
      (check (checks_text _ _) (lastCheck (checks_embedding _ _ _) (.opens ..)))))
  | recentNewsFacts id limit since =>
    exact check checks_news (check (checks_tenant _) (shortcut (by simp) fun _ => forTenant ..))
  | searchNewsFacts id vector limit least =>
    exact check checks_news (check (checks_tenant _) (check (checks_dimension _ _ _)
      (shortcut (by simp) fun _ => forTenant ..)))
  | upsertPost post =>
    exact check checks_news (check (checks_tenant _) (check (checks_text _ _)
      (check (checks_text _ _) (lastCheck (checks_embedding _ _ _) (.opens ..)))))
  | markPublished id post message =>
    exact check checks_news (check (checks_tenant _) (check (checks_text _ _) (forTenant ..)))
  | searchPosts id vector limit =>
    exact check checks_news (check (checks_tenant _) (check (checks_dimension _ _ _)
      (shortcut (by simp) fun _ => forTenant ..)))

/-! ### What is settled before the database -/

namespace Call

/-- A short cut answers that there is nothing. -/
theorem finds_nothing (c : Call) : Gate.Finds c.IsNothing (c.gates s) := by
  cases c with
  | upsertGraph => exact fun _ _ _ _ => trivial
  | searchGraph => exact .refusal (.shortcut rfl .nil)
  | fetchTriples => exact .refusal (.shortcut rfl .nil)
  | upsertAlias => exact .refusal (.refusal (.refusal .nil))
  | resolveAliases => exact .refusal (.shortcut rfl .nil)
  | searchHybrid => exact .shortcut rfl (.shortcut rfl (.refusal (.shortcut rfl .nil)))
  | addEpisode => exact .refusal (.refusal (.refusal (Gate.finds_embedding _ _ _)))
  | recentEpisodes => exact .refusal (.refusal (.shortcut rfl .nil))
  | oldEpisodes => exact .refusal (.shortcut rfl .nil)
  | deleteEpisodes => exact .refusal (.shortcut rfl .nil)
  | countEpisodes => exact .refusal .nil
  | upsertBelief => exact .refusal (.refusal (.refusal (.refusal .nil)))
  | beliefs => exact .refusal (.refusal .nil)
  | upsertEntry => exact .disabled (.refusal (.refusal (Gate.finds_embedding _ _ _)))
  | entries => exact .disabled (.refusal .nil)
  | appendTrace => exact .refusal (.refusal .nil)
  | listTraces => exact .refusal (.shortcut rfl .nil)
  | upsertRaw => exact .disabled (.refusal (.refusal (.refusal .nil)))
  | upsertNewsFact =>
    exact .disabled (.refusal (.refusal (.refusal (Gate.finds_embedding _ _ _))))
  | recentNewsFacts => exact .disabled (.refusal (.shortcut rfl .nil))
  | searchNewsFacts => exact .disabled (.refusal (.refusal (.shortcut rfl .nil)))
  | upsertPost => exact .disabled (.refusal (.refusal (.refusal (Gate.finds_embedding _ _ _))))
  | markPublished => exact .disabled (.refusal (.refusal .nil))
  | searchPosts => exact .disabled (.refusal (.refusal (.shortcut rfl .nil)))
  | tenantSession => exact .refusal .nil
  | ensureSchema => exact .nil
  | schemaVersion => exact .nil
  | changeDimension => exact .nil

/-- **What is settled before the database.**  The settings and the arguments alone decide whether an
operation for a tenant sends anything, by the first of its gates that applies.  If one does, the
operation refuses its input or finds nothing to do, whatever the pool and the server: nothing is
sent, no connection is taken, and the pool stays as it is.  If none does, a connection is taken and
the first statement over it opens a transaction. -/
theorem settled_before_query {c : Call} (h : c.tenant?.isSome) :
    (∀ r, c.verdict? s = some r →
      ((∃ e, r = .error e ∧ (e.code = "NOT_SUPPORTED" ∨ e.code = "VALIDATION_ERROR")) ∨
        ∃ a, r = .ok a ∧ c.IsNothing a) ∧
      ∀ {σ : Type} [Sql.Server σ] (p : Pool σ), (c.operation s).run p = (r, p)) ∧
    (c.verdict? s = none →
      ∀ {σ : Type} [Sql.Server σ] (p : Pool σ), p.Reachable s → (c.operation s).Opens p) := by
  refine ⟨?_, ?_⟩
  · intro r hverdict
    refine ⟨?_, fun p => (gated s h).run_of_verdict hverdict p⟩
    obtain ⟨g, hg, rfl⟩ := Option.map_eq_some_iff.1 hverdict
    cases hanswer : g.answer with
    | error e => exact .inl ⟨e, rfl, Gate.code_of_answer hanswer⟩
    | ok a => exact .inr ⟨a, rfl, finds_nothing s c g (List.mem_of_find?_eq_some hg) a hanswer⟩
  · intro hverdict σ _ p hp
    exact (gated s h).opens_of_verdict hverdict hp.atRest

/-- A write whose second node has a vector of the wrong length, and whose edge leads nowhere. -/
def strayVector : Call :=
  upsertGraph "acme" none
    [.ofContent "n1" .chunk "one",
      { Node.ofContent "n2" .chunk "two" with embedding := some [0.5] }]
    [.between "n1" "" "knows"]

/-- The second node is refused, and nothing is sent; the beliefs about a user are asked for. -/
theorem settled_before_query_strayVector :
    (strayVector.operation .default).run (Pool.replying []) =
      (.error (Refusal.wrongDimension "node embedding" 1 StoreSettings.default.dimension).toError,
        Pool.replying []) ∧
    ((beliefs "acme" "u1").operation .default).Opens (Pool.replying []) :=
  ⟨((settled_before_query .default (c := strayVector) rfl).1 _ (by rfl)).2 _,
    (settled_before_query .default (c := beliefs "acme" "u1") rfl).2 (by rfl) _ (.opened _)⟩

end Call

end KnowledgeBase
