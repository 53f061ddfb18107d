import KnowledgeBase.Search.Fusion

/-!
# Settings of the store

Where the database is, how its tables are laid out, and the parameters used when a caller gives
none.  Every setting has a default, so that a document names only those that differ.

## Main definitions

* `StoreSettings`, `SearchSettings`, `GraphSettings` — the settings and their defaults.
* `StoreSettings.read` — overlays a document on the defaults.
* `StoreSettings.validate` — the checks before a connection is opened.
* `isSqlIdentifier` — the names that may stand in SQL text.
-/

namespace KnowledgeBase

open Json

/-- The parameters of a hybrid search when the caller gives none. -/
structure SearchSettings where
  candidateK : UInt32
  limit : UInt32
  fusion : FusionMode
  rankOffset : UInt32
  vectorWeight : Float
  textWeight : Float

namespace SearchSettings

/-- Fifty candidates, eight results, a weighted sum with four fifths on the vector score. -/
def default : SearchSettings := ⟨50, 8, .weighted, 60, 0.8, 0.2⟩

/-- The names of the settings in order. -/
def fieldNames : List String :=
  ["candidate_k", "limit", "fusion", "rrf_k", "vector_weight", "text_weight"]

/-- The settings that a document gives, over the defaults. -/
def read (rules : Rules) : Json → Except DecodeError SearchSettings :=
  let d := default
  readRecord rules fieldNames fun r =>
    SearchSettings.mk <$> r.withDefault "candidate_k" d.candidateK decode
      <*> r.withDefault "limit" d.limit decode
      <*> r.withDefault "fusion" d.fusion (readConstant rules FusionMode.ofName?)
      <*> r.withDefault "rrf_k" d.rankOffset decode
      <*> r.withDefault "vector_weight" d.vectorWeight decode
      <*> r.withDefault "text_weight" d.textWeight decode

instance codec : Codec SearchSettings where
  encode s := .obj [("candidate_k", encode s.candidateK), ("limit", encode s.limit),
    ("fusion", encode s.fusion), ("rrf_k", encode s.rankOffset),
    ("vector_weight", encode s.vectorWeight), ("text_weight", encode s.textWeight)]
  decode := read .strict

/-- The numbers of the fusion policies. -/
def fusionParams (s : SearchSettings) : FusionParams Float :=
  ⟨s.vectorWeight, s.textWeight, s.rankOffset⟩

end SearchSettings

/-- The parameters of a walk when the caller gives none. -/
structure GraphSettings where
  maxHops : UInt32
  maxResults : UInt32
  /-- Content in the result of a walk is cut to this many characters. -/
  previewChars : UInt64

namespace GraphSettings

/-- Two hops, two hundred edges, previews of five hundred characters. -/
def default : GraphSettings := ⟨2, 200, 500⟩

/-- The names of the settings in order. -/
def fieldNames : List String := ["max_hops", "max_results", "preview_chars"]

/-- The settings that a document gives, over the defaults. -/
def read (rules : Rules) : Json → Except DecodeError GraphSettings :=
  let d := default
  readRecord rules fieldNames fun r =>
    GraphSettings.mk <$> r.withDefault "max_hops" d.maxHops decode
      <*> r.withDefault "max_results" d.maxResults decode
      <*> r.withDefault "preview_chars" d.previewChars decode

instance codec : Codec GraphSettings where
  encode s := .obj [("max_hops", encode s.maxHops), ("max_results", encode s.maxResults),
    ("preview_chars", encode s.previewChars)]
  decode := read .strict

end GraphSettings

/-- Connection, schema and default parameters of a store. -/
structure StoreSettings where
  databaseUrl : String
  /-- The schema that holds every table. -/
  schema : String
  poolMin : UInt32
  poolMax : UInt32
  /-- How long a caller waits for a connection. -/
  acquireTimeoutSecs : UInt64
  /-- How long an idle connection is kept. -/
  idleTimeoutSecs : UInt64
  /-- The dimension of every embedding column. -/
  vectorDim : UInt64
  /-- Whether the catalog tables exist. -/
  commerce : Bool
  /-- Whether the news tables exist. -/
  news : Bool
  /-- Whether the schema is brought up to date at the start. -/
  autoMigrate : Bool
  search : SearchSettings
  graph : GraphSettings

/-- A letter or an underscore of ASCII, then letters, digits and underscores, 63 at most. -/
def isSqlIdentifier (name : String) : Bool :=
  match name.toList with
  | [] => false
  | c :: cs =>
    (c.isAlpha || c == '_') && cs.length < 63 && cs.all fun c => c.isAlphanum || c == '_'

namespace StoreSettings

/-- No address yet; a schema named `brain`, five to twenty connections, embeddings of 1536
dimensions, and no optional tables. -/
def default : StoreSettings :=
  ⟨"", "brain", 5, 20, 60, 300, 1536, false, false, true, .default, .default⟩

/-- The names of the settings in order. -/
def fieldNames : List String :=
  ["database_url", "schema", "pool_min_size", "pool_max_size", "acquire_timeout_secs",
    "idle_timeout_secs", "vector_dim", "include_commerce", "include_news", "auto_migrate", "search",
    "graph"]

/-- The settings that a document gives, over the defaults. -/
def read (rules : Rules) : Json → Except DecodeError StoreSettings :=
  let d := default
  readRecord rules fieldNames fun r =>
    StoreSettings.mk <$> r.withDefault "database_url" d.databaseUrl decode
      <*> r.withDefault "schema" d.schema decode
      <*> r.withDefault "pool_min_size" d.poolMin decode
      <*> r.withDefault "pool_max_size" d.poolMax decode
      <*> r.withDefault "acquire_timeout_secs" d.acquireTimeoutSecs decode
      <*> r.withDefault "idle_timeout_secs" d.idleTimeoutSecs decode
      <*> r.withDefault "vector_dim" d.vectorDim decode
      <*> r.withDefault "include_commerce" d.commerce decode
      <*> r.withDefault "include_news" d.news decode
      <*> r.withDefault "auto_migrate" d.autoMigrate decode
      <*> r.withDefault "search" d.search (SearchSettings.read rules)
      <*> r.withDefault "graph" d.graph (GraphSettings.read rules)

instance codec : Codec StoreSettings where
  encode s := .obj [("database_url", encode s.databaseUrl), ("schema", encode s.schema),
    ("pool_min_size", encode s.poolMin), ("pool_max_size", encode s.poolMax),
    ("acquire_timeout_secs", encode s.acquireTimeoutSecs),
    ("idle_timeout_secs", encode s.idleTimeoutSecs), ("vector_dim", encode s.vectorDim),
    ("include_commerce", encode s.commerce), ("include_news", encode s.news),
    ("auto_migrate", encode s.autoMigrate), ("search", encode s.search),
    ("graph", encode s.graph)]
  decode := read .strict

/-- The dimension of every embedding column. -/
def dimension (s : StoreSettings) : Nat := s.vectorDim.toNat

/-- The checks before a connection is opened: there is an address, the schema may stand in SQL text,
vectors have a dimension, and the pool admits a connection. -/
def validate (s : StoreSettings) : Except StoreError Unit :=
  if Text.isBlank s.databaseUrl then .error (.config "database_url is required")
  else if !isSqlIdentifier s.schema then
    .error (.config ("schema '" ++ s.schema ++ "' is not a plain SQL identifier"))
  else if s.vectorDim = 0 then .error (.config "vector_dim must be positive")
  else if s.poolMax = 0 || s.poolMax < s.poolMin then
    .error (.config ("invalid pool bounds: min " ++ toString s.poolMin ++ " max "
      ++ toString s.poolMax))
  else .ok ()

end StoreSettings

end KnowledgeBase
