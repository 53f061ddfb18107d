import KnowledgeBase.Text.Blank
import KnowledgeBase.Number.Shortest

/-!
# Errors of the store

A failed operation belongs to one of nine categories, each with a stable code for callers and a
sentence for people.  Input that is refused before or after a statement has a cause of its own, from
which the sentence is written.

## Main definitions

* `StoreError`, `StoreError.code`, `StoreError.message`, `StoreError.isTransient`.
* `Refusal`, `Refusal.message` — why input was refused.
* `requireTenant`, `requireText`, `requireDimension`, `requireEmbedding` — the refusals that many
  operations share.
-/

namespace KnowledgeBase

/-- The category of a failed operation, with its detail. -/
inductive StoreError where
  /-- Input was refused. -/
  | validation (detail : String)
  /-- A table, column, index or operator that a statement names does not exist. -/
  | schemaMismatch (detail : String)
  /-- Any other failure of the database. -/
  | query (detail : String)
  /-- The database was not reached, or the connection was lost. -/
  | connection (detail : String)
  /-- No connection became free in time. -/
  | poolTimeout
  /-- A uniqueness, foreign-key or check constraint refused a write. -/
  | constraint (detail : String)
  /-- The operation belongs to a module that is not enabled. -/
  | notSupported (detail : String)
  /-- A value could not be encoded or decoded. -/
  | serialization (detail : String)
  /-- The configuration is invalid. -/
  | config (detail : String)
deriving DecidableEq

namespace StoreError

/-- The stable name of the category. -/
def code : StoreError → String
  | validation _ => "VALIDATION_ERROR"
  | schemaMismatch _ => "SCHEMA_MISMATCH"
  | query _ => "DB_QUERY_ERROR"
  | connection _ => "DB_CONNECTION_ERROR"
  | poolTimeout => "POOL_TIMEOUT"
  | constraint _ => "CONSTRAINT_VIOLATION"
  | notSupported _ => "NOT_SUPPORTED"
  | serialization _ => "SERIALIZATION_ERROR"
  | config _ => "CONFIGURATION_ERROR"

/-- The sentence shown to people. -/
def message : StoreError → String
  | validation d => "Validation error: " ++ d
  | schemaMismatch d =>
    "Schema mismatch: " ++ d ++ ". Run migrations (ensure_schema) against this database"
  | query d => "Query failed: " ++ d
  | connection d => "Database connection error: " ++ d
  | poolTimeout => "Timed out waiting for a pooled connection"
  | constraint d => "Constraint violation: " ++ d
  | notSupported d => "Not supported: " ++ d
  | serialization d => "Serialization error: " ++ d
  | config d => "Configuration error: " ++ d

/-- Whether the same call may succeed later.  Nothing is retried here. -/
def isTransient : StoreError → Bool
  | connection _ => true
  | poolTimeout => true
  | _ => false

end StoreError

/-- Why input is refused. -/
inductive Refusal where
  | missingTenant
  | blankField (field : String)
  | wrongDimension (field : String) (actual expected : Nat)
  | emptyPath
  | badLabel (path label : String)
  | unknownFusion (name : String)
  | unknownDomain (name : String)
  | foreignNode (id owner tenant : String)
  | unknownSource (name : String)
  | foreignEdge (source target owner tenant : String)
  | weightNotFinite
  | nodeTaken (id : String)
  | unlinkedEdge (source relation target tenant : String)
  | unlinkedAlias (node tenant : String)
  | confidenceOutOfRange (confidence : Float)
  | postTaken (id : String)
  | zeroDimension
deriving DecidableEq

/-- The source types that a node may name. -/
def sourceTypes : List String := ["video", "book", "qa", "web", "knowledge"]

/-- Plain words as a bracketed list of quoted strings. -/
def quotedList (words : List String) : String :=
  "[" ++ ", ".intercalate (words.map fun w => "\"" ++ w ++ "\"") ++ "]"

namespace Refusal

/-- The sentence that names the cause. -/
def message : Refusal → String
  | missingTenant => "tenant_id is required"
  | blankField field => field ++ " must not be empty"
  | wrongDimension field actual expected =>
    field ++ " has dimension " ++ toString actual ++ ", expected " ++ toString expected
  | emptyPath => "taxonomy path is empty"
  | badLabel path label => "invalid taxonomy path '" ++ path ++ "': bad label '" ++ label ++ "'"
  | unknownFusion name => "unknown fusion mode '" ++ name ++ "'"
  | unknownDomain name => "unknown taxonomy domain '" ++ name ++ "'"
  | foreignNode id owner tenant =>
    "node '" ++ id ++ "' has tenant '" ++ owner ++ "' but the call is for '" ++ tenant ++ "'"
  | unknownSource name =>
    "unknown source_type '" ++ name ++ "' (expected one of " ++ quotedList sourceTypes ++ ")"
  | foreignEdge source target owner tenant =>
    "edge " ++ source ++ " -> " ++ target ++ " has tenant '" ++ owner ++ "' but the call is for '"
      ++ tenant ++ "'"
  | weightNotFinite => "edge weight must be finite"
  | nodeTaken id => "node id '" ++ id ++ "' already belongs to another tenant"
  | unlinkedEdge source relation target tenant =>
    "edge " ++ source ++ " -[" ++ relation ++ "]-> " ++ target
      ++ " must connect two nodes of tenant '" ++ tenant ++ "'"
  | unlinkedAlias node tenant =>
    "alias target '" ++ node ++ "' is not a node of tenant '" ++ tenant ++ "'"
  | confidenceOutOfRange confidence =>
    "confidence must be within [0, 1], got " ++ Shortest.text confidence
  | postTaken id => "post id '" ++ id ++ "' already belongs to another tenant"
  | zeroDimension => "vector dimension must be positive"

/-- A refusal as the error of an operation. -/
def toError (r : Refusal) : StoreError := .validation r.message

end Refusal

/-- Refuses a blank tenant. -/
def requireTenant (tenant : String) : Except StoreError Unit :=
  if Text.isBlank tenant then .error Refusal.missingTenant.toError else .ok ()

/-- Refuses a blank required field. -/
def requireText (field value : String) : Except StoreError Unit :=
  if Text.isBlank value then .error (Refusal.blankField field).toError else .ok ()

/-- Refuses a vector whose length is not the dimension of the deployment. -/
def requireDimension (field : String) (vector : List Float32) (expected : Nat) :
    Except StoreError Unit :=
  if vector.length = expected then .ok ()
  else .error (Refusal.wrongDimension field vector.length expected).toError

/-- Refuses an embedding, if there is one, whose length is not the dimension of the deployment. -/
def requireEmbedding (field : String) (embedding : Option (List Float32)) (expected : Nat) :
    Except StoreError Unit :=
  match embedding with
  | none => .ok ()
  | some vector => requireDimension field vector expected

end KnowledgeBase
