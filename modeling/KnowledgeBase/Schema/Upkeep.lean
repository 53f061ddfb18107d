import KnowledgeBase.Schema.Migration
import KnowledgeBase.Connection.Operation

/-!
# Keeping the schema up to date

A database in any earlier state is brought to the present shape: schema, extensions, tables, pending
migrations, policies.  Every statement stands on its own, so that a failure never undoes what was
done before.  Extensions and policies may need rights that the deployment lacks; a failure among
them is counted and passed over.

## Main definitions

* `Schema.Report` — what a run did.
* `Schema.ensure`, `Schema.recordedVersion`, `Schema.changeDimension` — the operations.
-/

namespace KnowledgeBase.Schema

open Sql

/-- What a run did. -/
structure Report where
  /-- The versions applied, in order. -/
  applied : List Int32
  /-- The highest version recorded afterwards. -/
  version : Int32
  /-- How many statements on extensions and policies failed. -/
  skipped : Nat

/-- Sends texts in order; the first failure ends the work. -/
def runAll : List String → Work Unit
  | [] => .done ()
  | sql :: rest => do
    let _ ← Work.send (.simple sql)
    runAll rest

/-- Sends texts in order, whatever the replies, and counts the failures. -/
def tryAll : List String → Work Nat
  | [] => .done 0
  | sql :: rest => do
    let succeeded ← Work.attempt (.simple sql)
    let failures ← tryAll rest
    return (if succeeded then failures else failures + 1)

/-- Asks for the versions that are recorded as applied. -/
def versionQuery : Statement := .prepared "SELECT version FROM schema_migrations" []

/-- The versions that some rows hold. -/
def readVersions (rows : List Row) : Except StoreError (List Int32) :=
  decodeAll (fun row => row.column "version") rows

/-- The versions that are recorded as applied. -/
def appliedVersions : Work (List Int32) := do
  let rows ← Work.rows versionQuery
  Work.ofExcept (readVersions rows)

/-- The error of a migration whose statement failed.  It names the migration, whatever the category
of the failure. -/
def migrationError (m : Migration) (failure : Failure) : StoreError :=
  .query ("migration " ++ toString m.version ++ " (" ++ m.description ++ ") failed: "
    ++ failure.classify.message)

/-- Runs the statements of a migration. -/
def runMigration (m : Migration) : List String → Work Unit
  | [] => .done ()
  | sql :: rest =>
    .step (.simple sql) fun
      | .ok _ => runMigration m rest
      | .error failure => .fail (migrationError m failure)

/-- The text of the statement that records a migration. -/
def recordText : String :=
  "INSERT INTO schema_migrations (version, description) VALUES ($1, $2) " ++
    "ON CONFLICT (version) DO NOTHING"

/-- The statement that records a migration. -/
def recordStatement (m : Migration) : Statement :=
  .prepared recordText [.int4 m.version, .text m.description]

/-- Applies migrations in order, each recorded after its statements. -/
def applyAll (dim : Nat) : List Migration → Work Unit
  | [] => .done ()
  | m :: rest => do
    runMigration m (m.statements dim)
    let _ ← Work.send (recordStatement m)
    applyAll dim rest

/-- The greatest of some versions, or zero. -/
def highest (versions : List Int32) : Int32 :=
  match versions with
  | [] => 0
  | v :: vs => vs.foldl (fun best v => if best ≤ v then v else best) v

/-- Brings the database to the present shape. -/
def ensureWork (s : StoreSettings) : Work Report := do
  let dim := s.dimension
  runAll [createSchema s.schema]
  let missing ← tryAll extensions
  runAll ([searchPath s.schema] ++ layout dim s.modules ++ [migrationsTable.create])
  let recorded ← appliedVersions
  -- the upgrades are chosen after the backfills, which count as recorded by then
  let backfills := Migration.pending Migration.all recorded .backfill s.modules
  applyAll dim backfills
  let filled := recorded ++ backfills.map Migration.version
  let upgrades := Migration.pending Migration.all filled .constraintUpgrade s.modules
  applyAll dim upgrades
  let refused ← tryAll (policies s.schema s.modules.tenantTables)
  let applied := (backfills ++ upgrades).map Migration.version
  return ⟨applied, highest (recorded ++ applied), missing + refused⟩

/-- Brings the database to the present shape.  It may be called at every start. -/
def ensure (s : StoreSettings) : Operation Report := .onConnection (ensureWork s)

/-- The highest recorded version, zero for a database never migrated. -/
def recordedVersion : Operation Int32 :=
  .onConnection do
    let version : Option Int32 ←
      Work.scalar (.prepared "SELECT MAX(version) FROM schema_migrations" [])
    return version.getD 0

/-- Gives every embedding column another dimension.  The embeddings are cleared and have to be
computed again. -/
def changeDimension (s : StoreSettings) (dim : Nat) : Operation Unit :=
  if dim = 0 then .fail Refusal.zeroDimension.toError
  else .onConnection (runAll (s.modules.embeddingColumns.flatMap fun c => resize c dim))

end KnowledgeBase.Schema
