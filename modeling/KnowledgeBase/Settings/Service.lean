import KnowledgeBase.Settings.Store
import KnowledgeBase.Settings.LogFilter
import KnowledgeBase.Service.Error
import KnowledgeBase.Toml.Parser

/-!
# Settings of the service

The settings of the store together with logging and the cache of embeddings.  They are read from a
TOML file over the defaults; a file that is missing or not valid leaves the defaults.  Three
variables of the environment override the file.

## Main definitions

* `ServiceSettings`, `CacheSettings` — the settings and their defaults.
* `ServiceSettings.validate` — the checks before the service starts.
* `ServiceSettings.ofFile`, `ServiceSettings.override` — reading a file, and the environment.
-/

namespace KnowledgeBase

open Json

/-- The bounds of the cache of embeddings. -/
structure CacheSettings where
  /-- How long an entry lives; zero turns the cache off. -/
  ttlSecs : UInt64
  maxEntries : UInt64

namespace CacheSettings

/-- Ten thousand entries of one hour. -/
def default : CacheSettings := ⟨3600, 10000⟩

/-- The names of the settings in order. -/
def fieldNames : List String := ["ttl_secs", "max_entries"]

/-- The settings that a document gives, over the defaults. -/
def read (rules : Rules) : Json → Except DecodeError CacheSettings :=
  let d := default
  readRecord rules fieldNames fun r =>
    CacheSettings.mk <$> r.withDefault "ttl_secs" d.ttlSecs decode
      <*> r.withDefault "max_entries" d.maxEntries decode

instance codec : Codec CacheSettings where
  encode s := .obj [("ttl_secs", encode s.ttlSecs), ("max_entries", encode s.maxEntries)]
  decode := read .strict

end CacheSettings

/-- The settings of the service. -/
structure ServiceSettings where
  /-- The log filter in force when the environment names none. -/
  logLevel : String
  /-- Whether log lines are JSON. -/
  logJson : Bool
  store : StoreSettings
  cache : CacheSettings

namespace ServiceSettings

/-- Logging from `info` up, in plain text. -/
def default : ServiceSettings := ⟨"info", false, .default, .default⟩

/-- The names of the settings in order. -/
def fieldNames : List String := ["log_level", "log_json", "store", "embedding_cache"]

/-- The settings that a document gives, over the defaults. -/
def read (rules : Rules) : Json → Except DecodeError ServiceSettings :=
  let d := default
  readRecord rules fieldNames fun r =>
    ServiceSettings.mk <$> r.withDefault "log_level" d.logLevel decode
      <*> r.withDefault "log_json" d.logJson decode
      <*> r.withDefault "store" d.store (StoreSettings.read rules)
      <*> r.withDefault "embedding_cache" d.cache (CacheSettings.read rules)

instance codec : Codec ServiceSettings where
  encode s := .obj [("log_level", encode s.logLevel), ("log_json", encode s.logJson),
    ("store", encode s.store), ("embedding_cache", encode s.cache)]
  decode := read .strict

/-- The checks before the service starts: the log filter, the cache, then the store. -/
def validate (s : ServiceSettings) : Except ServiceError Unit :=
  match LogFilter.fault? s.logLevel with
  | some fault =>
    .error (.config ("invalid log_level '" ++ s.logLevel ++ "': " ++ fault.message))
  | none =>
    if 0 < s.cache.ttlSecs && s.cache.maxEntries = 0 then
      .error (.config "embedding_cache.max_entries must be positive when ttl_secs is set")
    else s.store.validate.mapError .store

/-! ### Files -/

/-- What is found at the path of the settings. -/
inductive File where
  | missing
  /-- Something is there that cannot be read. -/
  | unreadable
  | bytes (content : ByteArray)

/-- What differs in TOML: an array may hold more items than a record has fields, and a constant may
carry an empty table or array. -/
def tomlRules : Rules where
  surplusItems := true
  isUnit
    | .obj fields => fields.isEmpty
    | .arr items => items.isEmpty
    | _ => false

/-- The settings of a text, if it is a document of the right types. -/
def ofText? (text : String) : Option ServiceSettings :=
  (Toml.parse? text).bind fun j => (read tomlRules j).toOption

/-- The settings of a file, or the defaults. -/
def ofFile : File → ServiceSettings
  | .bytes content => ((String.fromUTF8? content).bind ofText?).getD default
  | _ => default

/-- The path of the settings under a home directory. -/
def pathUnder (home : String) : String :=
  (if home.endsWith "/" then home else home ++ "/") ++ ".brainstore/config.toml"

/-! ### The environment -/

/-- Puts the variables of the environment over the settings.  Blank ones are ignored, and so is a
dimension that is no number. -/
def override (lookup : String → Option String) (s : ServiceSettings) : ServiceSettings :=
  let find := fun name => (lookup name).filter fun v => !Text.isBlank v
  let url := (find "BRAINSTORE_DATABASE_URL").getD s.store.databaseUrl
  let schema := ((find "BRAINSTORE_SCHEMA").map Text.trim).getD s.store.schema
  let dim := ((find "BRAINSTORE_VECTOR_DIM").bind fun v => Text.parseWord? (Text.trim v)).getD
    s.store.vectorDim
  { s with store := { s.store with databaseUrl := url, schema := schema, vectorDim := dim } }

end ServiceSettings

end KnowledgeBase
