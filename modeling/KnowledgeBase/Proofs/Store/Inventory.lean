import KnowledgeBase.Call
import KnowledgeBase.Proofs.Connection.Traffic
import KnowledgeBase.Proofs.Graph.Validation

/-!
# The statements of the store

Every operation for a tenant sends statements of a few kinds.  They are listed here once, so that
what is to hold of every statement of every operation is a question about the kinds.

## Main definitions

* `Call.Issued` — the statements that operations for a tenant send in their frames.
* `Frame.IsFor` — the frames of a tenant and perhaps one of its users.

## Main results

* `Call.sends_issued` — an operation for a tenant uses frames of that tenant only, and sends listed
  statements only.
-/

namespace KnowledgeBase

open Sql

/-- A frame of this tenant and this user. -/
def Frame.IsFor (tenant : String) (user : Option String) : Frame → Prop
  | .bare => False
  | .tenant id owner _ => id = tenant ∧ owner = user

/-- The statements that operations for a tenant send.  Vectors among their values have the dimension
of the deployment. -/
inductive Call.Issued (dim : Nat) (tenant : String) : Statement → Prop where
  | node (user : Option String) (n : Node) (h : ∀ v ∈ n.embedding, v.length = dim) :
    Issued dim tenant (Graph.nodeStatement tenant user n)
  | edge (e : Edge) : Issued dim tenant (Graph.edgeStatement tenant e)
  | walk (entrypoints : List String) (relations : Option (List String)) (hops limit : UInt32) :
    Issued dim tenant (Graph.walkStatement tenant entrypoints relations hops limit)
  | nodes (ids : List String) : Issued dim tenant (Graph.nodesStatement tenant ids)
  | aliasOf (a : Alias) : Issued dim tenant (Graph.aliasStatement tenant a)
  | resolve (names : List String) : Issued dim tenant (Graph.resolveStatement tenant names)
  | vectorRanking (r : Search.Request) (h : r.tenant = tenant) (hv : r.vector.length = dim) :
    Issued dim tenant (Search.vectorStatement r)
  | textRanking (r : Search.Request) (h : r.tenant = tenant) :
    Issued dim tenant (Search.textStatement r)
  | fetch (ids : List String) : Issued dim tenant (Search.fetchStatement tenant ids)
  | episode (e : Episode.Draft) (h : e.tenant = tenant) (hv : ∀ v ∈ e.embedding, v.length = dim) :
    Issued dim tenant (Memory.addStatement e)
  | recentEpisodes (user : String) (limit : UInt32) :
    Issued dim tenant (Memory.recentStatement tenant user limit)
  | oldEpisodes (days limit : UInt32) : Issued dim tenant (Memory.oldStatement tenant days limit)
  | deletion (days : UInt32) (ids : Option (List Uuid)) :
    Issued dim tenant (Memory.deleteStatement tenant days ids)
  | episodeCount : Issued dim tenant (Memory.countStatement tenant)
  | belief (user key : String) (value : Json) (confidence : Float) (source : Option Uuid) :
    Issued dim tenant (Memory.beliefStatement tenant user key value confidence source)
  | beliefs (user : String) : Issued dim tenant (Memory.beliefsStatement tenant user)
  | entry (e : Catalog.Entry) (h : e.tenant = tenant) (hv : ∀ v ∈ e.embedding, v.length = dim) :
    Issued dim tenant (Catalog.upsertStatement e)
  | entries (domain : Option Catalog.Domain) :
    Issued dim tenant (Catalog.entriesStatement tenant domain)
  | trace (id : Uuid) (t : Trace.Draft) (h : t.tenant = tenant) :
    Issued dim tenant (Trace.appendStatement id t)
  | traces (q : Trace.Query) (h : q.tenant = tenant) : Issued dim tenant (Trace.listStatement q)
  | raw (i : News.RawItem) (h : i.tenant = tenant) : Issued dim tenant (News.rawStatement i)
  | fact (f : News.Fact) (h : f.tenant = tenant) (hv : ∀ v ∈ f.embedding, v.length = dim) :
    Issued dim tenant (News.factStatement f)
  | post (p : News.Post) (h : p.tenant = tenant) (hv : ∀ v ∈ p.embedding, v.length = dim) :
    Issued dim tenant (News.postStatement p)
  | publication (id : String) (message : Int64) :
    Issued dim tenant (News.publishStatement tenant id message)
  | recentFacts (limit : UInt32) (since : Option Timestamp) :
    Issued dim tenant (News.recentStatement tenant limit since)
  | similarFacts (v : List Float32) (limit : UInt32) (least : Float) (hv : v.length = dim) :
    Issued dim tenant (News.searchFactsStatement tenant v limit least)
  | similarPosts (v : List Float32) (limit : UInt32) (hv : v.length = dim) :
    Issued dim tenant (News.searchPostsStatement tenant v limit)

open Call (Issued)
open Operation.Sends (check forTenant)

variable (s : StoreSettings) {dim : Nat} {tenant : String} {user : Option String}

/-- Most readings send one statement in a frame of their own and decode its rows afterwards. -/
theorem reading_sends {β : Type} {P : Statement → Prop} {st : Statement} (h : P st)
    (decode : List Row → Except StoreError β) :
    (Operation.forTenant tenant user (Work.rows st) >>= fun rows =>
      (liftM (decode rows) : Operation β)).Sends (Frame.IsFor tenant user) P :=
  (forTenant ⟨rfl, rfl⟩ (Work.Sends.rows h)).bind fun _ => .ofExcept _

/-! ### The knowledge graph -/

namespace Graph

theorem sendEffective_sends {P : Statement → Prop} {st : Statement} (h : P st)
    (refusal : Refusal) : (sendEffective st refusal).Sends P := by
  refine (Work.Sends.affected h).bind ?_
  intro n
  split
  · exact .fail _
  · exact .done _

theorem writeNodes_sends (user : Option String) {nodes : List Node}
    (h : ∀ n ∈ nodes, ∀ v ∈ n.embedding, v.length = dim) :
    (writeNodes tenant user nodes).Sends (Issued dim tenant) := by
  induction nodes with
  | nil => exact .done _
  | cons n rest ih =>
    have hn := h n List.mem_cons_self
    exact (sendEffective_sends (.node user n hn) _).bind fun _ =>
      ih fun m hm => h m (List.mem_cons_of_mem _ hm)

theorem writeEdges_sends (edges : List Edge) :
    (writeEdges tenant edges).Sends (Issued dim tenant) := by
  induction edges with
  | nil => exact .done _
  | cons e rest ih => exact (sendEffective_sends (.edge e) _).bind fun _ => ih

theorem upsert_sends (user : Option String) (nodes : List Node) (edges : List Edge) :
    (upsert s tenant user nodes edges).Sends (Frame.IsFor tenant user)
      (Issued s.dimension tenant) := by
  refine check ?_
  intro _ hvalid
  have hnodes := (Graph.validate_eq_ok.1 hvalid).2.1
  split
  · exact .done _
  · refine forTenant ⟨rfl, rfl⟩ ?_
    refine (writeNodes_sends user fun n hn => ?_).bind fun _ => writeEdges_sends edges
    exact (Node.validate_eq_ok.1 (hnodes n hn)).2.2.2.2

theorem walk_sends (w : Walk) : (walk w).Sends (Issued dim w.tenant) := by
  unfold walk
  split
  · exact .done _
  · exact (Work.Sends.rows (.walk _ _ _ _)).bind fun _ => .ofExcept _

theorem search_sends (w : Walk) :
    (search s w).Sends (Frame.IsFor w.tenant none) (Issued dim w.tenant) := by
  refine check fun _ _ => ?_
  split
  · exact .done _
  · refine forTenant ⟨rfl, rfl⟩ ((walk_sends w).bind fun edges => ?_)
    exact (Work.Sends.rows (.nodes _)).bind fun _ => (Work.Sends.ofExcept _).bind fun _ => .done _

theorem facts_sends (w : Walk) :
    (facts w).Sends (Frame.IsFor w.tenant none) (Issued dim w.tenant) := by
  refine check fun _ _ => ?_
  split
  · exact .done _
  · exact forTenant ⟨rfl, rfl⟩ ((walk_sends w).bind fun _ => .done _)

theorem upsertAlias_sends (a : Alias) :
    (upsertAlias tenant a).Sends (Frame.IsFor tenant none) (Issued dim tenant) :=
  check fun _ _ => check fun _ _ => check fun _ _ =>
    forTenant ⟨rfl, rfl⟩ (sendEffective_sends (.aliasOf a) _)

theorem resolveAliases_sends (names : List String) :
    (resolveAliases tenant names).Sends (Frame.IsFor tenant none) (Issued dim tenant) := by
  refine check fun _ _ => ?_
  split
  · exact .done _
  · exact (forTenant ⟨rfl, rfl⟩ (Work.Sends.rows (.resolve names))).bind fun _ =>
      check fun _ _ => .done _

end Graph

/-! ### Search -/

namespace Search

theorem ranking_sends {P : Statement → Prop} {useful : Bool} {st : Statement}
    (h : useful = true → P st) : (ranking tenant useful st).Sends (Frame.IsFor tenant none) P := by
  unfold ranking
  split
  · next huseful =>
    exact reading_sends (h huseful) _
  · exact .done _

theorem hybrid_sends (r : Request) :
    (hybrid s r).Sends (Frame.IsFor r.tenant none) (Issued s.dimension r.tenant) := by
  unfold hybrid
  split
  · exact .done _
  · split
    · exact .done _
    · refine check ?_
      intro _ hvector
      have hdim : (!r.vector.isEmpty) = true → r.vector.length = s.dimension := by
        intro huseful
        rw [Bool.not_eq_true'] at huseful
        rw [validateVector, huseful] at hvector
        exact requireDimension_eq_ok.1 hvector
      refine (ranking_sends fun huseful => .vectorRanking r rfl (hdim huseful)).bind fun _ => ?_
      refine (ranking_sends fun _ => .textRanking r rfl).bind fun _ => ?_
      simp only
      split
      · exact .done _
      · exact (forTenant ⟨rfl, rfl⟩ (Work.Sends.rows (.fetch _))).bind fun _ =>
          check fun _ _ => .done _

end Search

/-! ### Episodes and beliefs -/

namespace Memory

theorem addEpisode_sends (e : Episode.Draft) :
    (addEpisode s e).Sends (Frame.IsFor e.tenant (some e.user)) (Issued s.dimension e.tenant) :=
  check fun _ _ => check fun _ _ => check fun _ _ => check fun _ hv =>
    (forTenant ⟨rfl, rfl⟩ (Work.Sends.send (.episode e rfl (requireEmbedding_eq_ok.1 hv)))).bind
      fun _ => .done _

theorem recentEpisodes_sends (user : String) (limit : UInt32) :
    (recentEpisodes tenant user limit).Sends (Frame.IsFor tenant (some user))
      (Issued dim tenant) := by
  refine check fun _ _ => check fun _ _ => ?_
  split
  · exact .done _
  · exact reading_sends (.recentEpisodes user limit) _

theorem oldEpisodes_sends (days limit : UInt32) :
    (oldEpisodes tenant days limit).Sends (Frame.IsFor tenant none) (Issued dim tenant) := by
  refine check fun _ _ => ?_
  split
  · exact .done _
  · exact reading_sends (.oldEpisodes days limit) _

theorem deleteEpisodes_sends (days : UInt32) (ids : Option (List Uuid)) :
    (deleteEpisodes tenant days ids).Sends (Frame.IsFor tenant none) (Issued dim tenant) := by
  refine check fun _ _ => ?_
  split
  · exact .done _
  · exact forTenant ⟨rfl, rfl⟩ (Work.Sends.affected (.deletion days ids))

theorem countEpisodes_sends :
    (countEpisodes tenant).Sends (Frame.IsFor tenant none) (Issued dim tenant) :=
  check fun _ _ => (forTenant ⟨rfl, rfl⟩ (Work.Sends.single .episodeCount)).bind
    fun _ => .ofExcept _

theorem upsertBelief_sends (user key : String) (value : Json) (confidence : Float)
    (source : Option Uuid) :
    (upsertBelief tenant user key value confidence source).Sends (Frame.IsFor tenant (some user))
      (Issued dim tenant) :=
  check fun _ _ => check fun _ _ => check fun _ _ => check fun _ _ =>
    (forTenant ⟨rfl, rfl⟩ (Work.Sends.send (.belief user key value confidence source))).bind
      fun _ => .done _

theorem beliefs_sends (user : String) :
    (beliefs tenant user).Sends (Frame.IsFor tenant (some user)) (Issued dim tenant) :=
  check fun _ _ => check fun _ _ =>
    reading_sends (.beliefs user) _

end Memory

/-! ### Catalog and traces -/

namespace Catalog

theorem upsert_sends (e : Entry) :
    (upsert s e).Sends (Frame.IsFor e.tenant none) (Issued s.dimension e.tenant) :=
  check fun _ _ => check fun _ _ => check fun _ _ => check fun _ hv =>
    (forTenant ⟨rfl, rfl⟩ (Work.Sends.send (.entry e rfl (requireEmbedding_eq_ok.1 hv)))).bind
      fun _ => .done _

theorem entries_sends (domain : Option Domain) :
    (entries s tenant domain).Sends (Frame.IsFor tenant none) (Issued dim tenant) :=
  check fun _ _ => check fun _ _ =>
    reading_sends (.entries domain) _

end Catalog

namespace Trace

theorem append_sends (id : Uuid) (t : Draft) :
    (append id t).Sends (Frame.IsFor t.tenant t.user) (Issued dim t.tenant) :=
  check fun _ _ => check fun _ _ =>
    (forTenant ⟨rfl, rfl⟩ (Work.Sends.send (.trace id t rfl))).bind fun _ => .done _

theorem list_sends (q : Query) :
    (list q).Sends (Frame.IsFor q.tenant none) (Issued dim q.tenant) := by
  refine check fun _ _ => ?_
  split
  · exact .done _
  · exact reading_sends (.traces q rfl) _

end Trace

/-! ### News -/

namespace News

theorem upsertRaw_sends (i : RawItem) :
    (upsertRaw s i).Sends (Frame.IsFor i.tenant none) (Issued dim i.tenant) :=
  check fun _ _ => check fun _ _ => check fun _ _ => check fun _ _ =>
    forTenant ⟨rfl, rfl⟩ (Work.Sends.scalar (.raw i rfl))

theorem upsertFact_sends (f : Fact) :
    (upsertFact s f).Sends (Frame.IsFor f.tenant none) (Issued s.dimension f.tenant) :=
  check fun _ _ => check fun _ _ => check fun _ _ => check fun _ _ => check fun _ hv =>
    forTenant ⟨rfl, rfl⟩ (Work.Sends.scalar (.fact f rfl (requireEmbedding_eq_ok.1 hv)))

theorem upsertPost_sends (p : Post) :
    (upsertPost s p).Sends (Frame.IsFor p.tenant none) (Issued s.dimension p.tenant) := by
  refine check fun _ _ => check fun _ _ => check fun _ _ => check fun _ _ => check fun _ hv => ?_
  have hissued := Issued.post p rfl (requireEmbedding_eq_ok.1 hv)
  refine forTenant ⟨rfl, rfl⟩ ((Work.Sends.scalar? hissued).bind fun stored => ?_)
  cases stored with
  | none => exact .fail _
  | some id => exact .done id

theorem markPublished_sends (id : String) (message : Int64) :
    (markPublished s tenant id message).Sends (Frame.IsFor tenant none) (Issued dim tenant) :=
  check fun _ _ => check fun _ _ => check fun _ _ =>
    (forTenant ⟨rfl, rfl⟩ (Work.Sends.affected (.publication id message))).bind fun _ => .done _

theorem recentFacts_sends (limit : UInt32) (since : Option Timestamp) :
    (recentFacts s tenant limit since).Sends (Frame.IsFor tenant none) (Issued dim tenant) := by
  refine check fun _ _ => check fun _ _ => ?_
  split
  · exact .done _
  · exact reading_sends (.recentFacts limit since) _

theorem searchFacts_sends (v : List Float32) (limit : UInt32) (least : Float) :
    (searchFacts s tenant v limit least).Sends (Frame.IsFor tenant none)
      (Issued s.dimension tenant) := by
  refine check fun _ _ => check fun _ _ => check fun _ hv => ?_
  have hdim := requireDimension_eq_ok.1 hv
  split
  · exact .done _
  · exact reading_sends (.similarFacts v limit least hdim) _

theorem searchPosts_sends (v : List Float32) (limit : UInt32) :
    (searchPosts s tenant v limit).Sends (Frame.IsFor tenant none)
      (Issued s.dimension tenant) := by
  refine check fun _ _ => check fun _ _ => check fun _ hv => ?_
  have hdim := requireDimension_eq_ok.1 hv
  split
  · exact .done _
  · exact reading_sends (.similarPosts v limit hdim) _

end News

/-! ### Every call -/

/-- **What an operation for a tenant may send.**  Its frames are frames of the tenant and of the
user of the call, and its statements are listed. -/
theorem Call.sends_issued {c : Call} (h : c.tenant? = some tenant) :
    (c.operation s).Sends (Frame.IsFor tenant c.user?) (Issued s.dimension tenant) := by
  cases c with
  | ensureSchema => cases h
  | schemaVersion => cases h
  | changeDimension dim => cases h
  | tenantSession id user ending =>
    cases h
    exact check fun _ _ => .within ⟨rfl, rfl⟩ (.done _) .done
  | upsertGraph id user nodes edges => cases h; exact Graph.upsert_sends s user nodes edges
  | searchGraph walk => cases h; exact Graph.search_sends s walk
  | fetchTriples walk => cases h; exact Graph.facts_sends walk
  | upsertAlias id name => cases h; exact Graph.upsertAlias_sends name
  | resolveAliases id names => cases h; exact Graph.resolveAliases_sends names
  | searchHybrid request => cases h; exact Search.hybrid_sends s request
  | addEpisode draft => cases h; exact Memory.addEpisode_sends s draft
  | recentEpisodes id user limit => cases h; exact Memory.recentEpisodes_sends user limit
  | oldEpisodes id days limit => cases h; exact Memory.oldEpisodes_sends days limit
  | deleteEpisodes id days ids => cases h; exact Memory.deleteEpisodes_sends days ids
  | countEpisodes id => cases h; exact Memory.countEpisodes_sends
  | upsertBelief id user key value confidence source =>
    cases h; exact Memory.upsertBelief_sends user key value confidence source
  | beliefs id user => cases h; exact Memory.beliefs_sends user
  | upsertEntry entry => cases h; exact Catalog.upsert_sends s entry
  | entries id domain => cases h; exact Catalog.entries_sends s domain
  | appendTrace id draft => cases h; exact Trace.append_sends id draft
  | listTraces query => cases h; exact Trace.list_sends query
  | upsertRaw item => cases h; exact News.upsertRaw_sends s item
  | upsertNewsFact fact => cases h; exact News.upsertFact_sends s fact
  | recentNewsFacts id limit since => cases h; exact News.recentFacts_sends s limit since
  | searchNewsFacts id vector limit least =>
    cases h; exact News.searchFacts_sends s vector limit least
  | upsertPost post => cases h; exact News.upsertPost_sends s post
  | markPublished id post message => cases h; exact News.markPublished_sends s post message
  | searchPosts id vector limit => cases h; exact News.searchPosts_sends s vector limit

end KnowledgeBase
