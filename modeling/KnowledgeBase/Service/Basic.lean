import KnowledgeBase.Settings.Service
import KnowledgeBase.Connection.Open
import KnowledgeBase.Embedding.Cache
import KnowledgeBase.Search.Hybrid
import KnowledgeBase.Memory.Store
import KnowledgeBase.Schema.Upkeep

/-!
# The service

The service joins a store with an embedder, so that callers search by text and record turns without
handling vectors.

## Main definitions

* `Service` — the running service; `Service.boot`, `Service.assemble` start it.
* `Service.searchText`, `Service.recordTurn` — its operations.
-/

namespace KnowledgeBase

open Sql

/-- A running service: its settings, its store and its embedder. -/
structure Service (σ ε : Type) where
  settings : ServiceSettings
  pool : Pool σ
  embedder : ε

/-- What a caller of a text search may set; the rest is as in the settings. -/
structure SearchOptions where
  scope : Scope
  limit : Option UInt32
  candidateK : Option UInt32
  fusion : Option FusionMode

namespace Service

variable {σ ε : Type} [Server σ]

/-- Refuses an embedder whose vectors do not fit the store. -/
def checkDimension (s : ServiceSettings) (dimension : Nat) : Except ServiceError Unit :=
  if dimension = s.store.dimension then .ok ()
  else
    .error (.bootFailed ("embedder produces " ++ toString dimension
      ++ "-dimensional vectors but store.vector_dim is " ++ toString s.store.dimension))

/-- The checks before the service connects. -/
def checkBoot (s : ServiceSettings) (dimension : Nat) : Except ServiceError Unit := do
  s.validate
  checkDimension s dimension

/-- Brings the schema up to date if the settings say so. -/
def migrate (s : StoreSettings) : Operation Unit :=
  if s.autoMigrate then do
    let _ ← Schema.ensure s
    return ()
  else .done ()

/-- Connects, and brings the schema up to date if the settings say so. -/
def connect (server : σ) (s : StoreSettings) : Except StoreError Unit × Pool σ :=
  match Pool.openEager server s with
  | (.error e, pool) => (.error e, pool)
  | (.ok (), pool) => (migrate s).run pool

/-- Starts the service with a cache in front of the embedder.  The answer tells whether it
started. -/
def boot [Embedder ε] (s : ServiceSettings) (server : σ) (embedder : ε) :
    Except ServiceError Unit × Service σ (CachedEmbedder ε) :=
  let cached := CachedEmbedder.ofEmbedder embedder (1000 * s.cache.ttlSecs.toNat)
    s.cache.maxEntries.toNat
  match checkBoot s (Embedder.dimension embedder) with
  | .error e => (.error e, ⟨s, Pool.ofSettings server s.store, cached⟩)
  | .ok () =>
    let (result, pool) := connect server s.store
    (result.mapError .store, ⟨s, pool, cached⟩)

/-- Makes a service of a store that is opened lazily and an embedder as it is, without any
migration. -/
def assemble (s : ServiceSettings) (server : σ) (embedder : ε) :
    Except ServiceError Unit × Service σ ε :=
  let (result, pool) := Pool.openLazy server s.store
  (result.mapError .store, ⟨s, pool, embedder⟩)

variable [Embedder ε]

/-- Embeds a text and checks the length of the vector. -/
def embed (now : Nat) (text : String) (v : Service σ ε) :
    Except ServiceError Embedding × Service σ ε :=
  let (result, embedder) := Embedder.embedOne now text v.embedder
  let v := { v with embedder }
  match result with
  | .error e => (.error (.embedding e), v)
  | .ok vector =>
    if vector.length = v.settings.store.dimension then (.ok vector, v)
    else (.error (.embedding (.dimension v.settings.store.dimension vector.length)), v)

/-- Runs an operation of the store. -/
def perform {α : Type} (o : Operation α) (v : Service σ ε) : Except ServiceError α × Service σ ε :=
  let (result, pool) := o.run v.pool
  (result.mapError .store, { v with pool })

/-- The search for a text with its vector. -/
def searchRequest (s : SearchSettings) (tenant text : String) (vector : Embedding)
    (o : SearchOptions) : Search.Request :=
  let r := Search.Request.ofSettings tenant text vector s
  { r with
    scope := o.scope
    limit := o.limit.getD r.limit
    candidateK := o.candidateK.getD r.candidateK
    fusion := o.fusion.getD r.fusion }

/-- Searches for a text.  Nothing is found, and nothing embedded, for a blank one. -/
def searchText (now : Nat) (tenant text : String) (o : SearchOptions) (v : Service σ ε) :
    Except ServiceError (List Search.Result) × Service σ ε :=
  if Text.isBlank text then (.ok [], v)
  else
    match v.embed now text with
    | (.error e, v) => (.error e, v)
    | (.ok vector, v) =>
      let r := searchRequest v.settings.store.search tenant text vector o
      v.perform (Search.hybrid v.settings.store r)

/-- Appends a turn of a conversation under a fresh id.  Blank content is not embedded. -/
def recordTurn (now : Nat) (id : Uuid) (tenant user : String) (session : Option String)
    (content : String) (v : Service σ ε) : Except ServiceError Uuid × Service σ ε :=
  let draft := { Episode.Draft.ofContent id tenant user content with session }
  if Text.isBlank content then v.perform (Memory.addEpisode v.settings.store draft)
  else
    match v.embed now content with
    | (.error e, v) => (.error e, v)
    | (.ok vector, v) =>
      v.perform (Memory.addEpisode v.settings.store { draft with embedding := some vector })

/-- Closes the store. -/
def shutdown (v : Service σ ε) : Service σ ε := { v with pool := v.pool.close }

end Service

end KnowledgeBase
