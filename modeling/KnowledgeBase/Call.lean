import KnowledgeBase.Graph.Store
import KnowledgeBase.Embedding.Embedder
import KnowledgeBase.Search.Hybrid
import KnowledgeBase.Memory.Store
import KnowledgeBase.Catalog.Store
import KnowledgeBase.Trace.Store
import KnowledgeBase.News.Store
import KnowledgeBase.Schema.Upkeep

/-!
# Calls of the store

Every operation of the store as one type, so that what holds of each of them can be said at once.

## Main definitions

* `Call`, `Call.Answer` — an operation with its arguments, and the type of its answer.
* `Call.operation` — what the operation does.
* `Call.tenant?`, `Call.user?` — for whom it is done.
-/

namespace KnowledgeBase

/-- An operation of the store with its arguments.  Ids that are made by the operation are arguments
here. -/
inductive Call where
  | upsertGraph (tenant : String) (user : Option String) (nodes : List Node) (edges : List Edge)
  | searchGraph (walk : Walk)
  | fetchTriples (walk : Walk)
  | upsertAlias (tenant : String) (name : Alias)
  | resolveAliases (tenant : String) (names : List String)
  | searchHybrid (request : Search.Request)
  | addEpisode (draft : Episode.Draft)
  | recentEpisodes (tenant user : String) (limit : UInt32)
  | oldEpisodes (tenant : String) (days limit : UInt32)
  | deleteEpisodes (tenant : String) (days : UInt32) (ids : Option (List Uuid))
  | countEpisodes (tenant : String)
  | upsertBelief (tenant user key : String) (value : Json) (confidence : Float)
      (source : Option Uuid)
  | beliefs (tenant user : String)
  | upsertEntry (entry : Catalog.Entry)
  | entries (tenant : String) (domain : Option Catalog.Domain)
  | appendTrace (id : Uuid) (draft : Trace.Draft)
  | listTraces (query : Trace.Query)
  | upsertRaw (item : News.RawItem)
  | upsertNewsFact (fact : News.Fact)
  | recentNewsFacts (tenant : String) (limit : UInt32) (since : Option Timestamp)
  | searchNewsFacts (tenant : String) (vector : Embedding) (limit : UInt32) (minScore : Float)
  | upsertPost (post : News.Post)
  | markPublished (tenant id : String) (message : Int64)
  | searchPosts (tenant : String) (vector : Embedding) (limit : UInt32)
  | ensureSchema
  | schemaVersion
  | changeDimension (dim : Nat)
  /-- A tenant's transaction without statements of its own. -/
  | tenantSession (tenant : String) (user : Option String) (ending : Ending)

namespace Call

/-- What an operation answers. -/
def Answer : Call → Type
  | upsertGraph .. => Unit
  | searchGraph _ => Neighbourhood
  | fetchTriples _ => List Triple
  | upsertAlias .. => Unit
  | resolveAliases .. => Assoc String
  | searchHybrid _ => List Search.Result
  | addEpisode _ => Uuid
  | recentEpisodes .. => List Episode
  | oldEpisodes .. => List Episode
  | deleteEpisodes .. => Nat
  | countEpisodes _ => Episode.Stats
  | upsertBelief .. => Unit
  | beliefs .. => List Belief
  | upsertEntry _ => Unit
  | entries .. => List Catalog.Entry
  | appendTrace .. => Uuid
  | listTraces _ => List Trace
  | upsertRaw _ => String
  | upsertNewsFact _ => String
  | recentNewsFacts .. => List News.Fact
  | searchNewsFacts .. => List News.ScoredFact
  | upsertPost _ => String
  | markPublished .. => Bool
  | searchPosts .. => List News.ScoredPost
  | ensureSchema => Schema.Report
  | schemaVersion => Int32
  | changeDimension _ => Unit
  | tenantSession .. => Unit

/-- A tenant's transaction without statements of its own. -/
def openSession (tenant : String) (user : Option String) (ending : Ending) : Operation Unit := do
  requireTenant tenant
  .within (.tenant tenant user ending) (.done ()) .done

/-- What an operation does under some settings. -/
def operation (s : StoreSettings) : (c : Call) → Operation c.Answer
  | upsertGraph tenant user nodes edges => Graph.upsert s tenant user nodes edges
  | searchGraph walk => Graph.search s walk
  | fetchTriples walk => Graph.facts walk
  | upsertAlias tenant name => Graph.upsertAlias tenant name
  | resolveAliases tenant names => Graph.resolveAliases tenant names
  | searchHybrid request => Search.hybrid s request
  | addEpisode draft => Memory.addEpisode s draft
  | recentEpisodes tenant user limit => Memory.recentEpisodes tenant user limit
  | oldEpisodes tenant days limit => Memory.oldEpisodes tenant days limit
  | deleteEpisodes tenant days ids => Memory.deleteEpisodes tenant days ids
  | countEpisodes tenant => Memory.countEpisodes tenant
  | upsertBelief tenant user key value confidence source =>
    Memory.upsertBelief tenant user key value confidence source
  | beliefs tenant user => Memory.beliefs tenant user
  | upsertEntry entry => Catalog.upsert s entry
  | entries tenant domain => Catalog.entries s tenant domain
  | appendTrace id draft => Trace.append id draft
  | listTraces query => Trace.list query
  | upsertRaw item => News.upsertRaw s item
  | upsertNewsFact fact => News.upsertFact s fact
  | recentNewsFacts tenant limit since => News.recentFacts s tenant limit since
  | searchNewsFacts tenant vector limit minScore => News.searchFacts s tenant vector limit minScore
  | upsertPost post => News.upsertPost s post
  | markPublished tenant id message => News.markPublished s tenant id message
  | searchPosts tenant vector limit => News.searchPosts s tenant vector limit
  | ensureSchema => Schema.ensure s
  | schemaVersion => Schema.recordedVersion
  | changeDimension dim => Schema.changeDimension s dim
  | tenantSession tenant user ending => openSession tenant user ending

/-- The tenant for whom an operation is done; the operations on the schema are for none. -/
def tenant? : Call → Option String
  | upsertGraph tenant .. => some tenant
  | searchGraph walk => some walk.tenant
  | fetchTriples walk => some walk.tenant
  | upsertAlias tenant _ => some tenant
  | resolveAliases tenant _ => some tenant
  | searchHybrid request => some request.tenant
  | addEpisode draft => some draft.tenant
  | recentEpisodes tenant .. => some tenant
  | oldEpisodes tenant .. => some tenant
  | deleteEpisodes tenant .. => some tenant
  | countEpisodes tenant => some tenant
  | upsertBelief tenant .. => some tenant
  | beliefs tenant _ => some tenant
  | upsertEntry entry => some entry.tenant
  | entries tenant _ => some tenant
  | appendTrace _ draft => some draft.tenant
  | listTraces query => some query.tenant
  | upsertRaw item => some item.tenant
  | upsertNewsFact fact => some fact.tenant
  | recentNewsFacts tenant .. => some tenant
  | searchNewsFacts tenant .. => some tenant
  | upsertPost post => some post.tenant
  | markPublished tenant .. => some tenant
  | searchPosts tenant .. => some tenant
  | ensureSchema => none
  | schemaVersion => none
  | changeDimension _ => none
  | tenantSession tenant .. => some tenant

/-- The user of the tenant for whom an operation is done. -/
def user? : Call → Option String
  | upsertGraph _ user .. => user
  | addEpisode draft => some draft.user
  | recentEpisodes _ user _ => some user
  | upsertBelief _ user .. => some user
  | beliefs _ user => some user
  | appendTrace _ draft => draft.user
  | tenantSession _ user _ => user
  | _ => none

end Call

end KnowledgeBase
