import KnowledgeBase.Connection.Operation
import KnowledgeBase.Settings.Store
import KnowledgeBase.Url.Options

/-!
# Opening a store

A store is opened lazily, without a connection, or eagerly, with one.  Either way the settings are
checked first, and then the address.

## Main definitions

* `Pool.openLazy`, `Pool.openEager` — the pool of some settings, if they are valid.
-/

namespace KnowledgeBase.Pool

open Sql

variable {σ : Type} [Server σ]

/-- The pool of some settings, before its first connection. -/
def ofSettings (server : σ) (s : StoreSettings) : Pool σ where
  wire := ⟨server, []⟩
  schema := s.schema
  attempts := attemptsWithin (1000 * s.acquireTimeoutSecs.toNat)
  maxSize := s.poolMax
  idle := none
  closed := none

/-- The checks of a lazy opening. -/
def checkLazy (s : StoreSettings) : Except StoreError Unit := do
  s.validate
  match Url.fault? s.databaseUrl with
  | some fault => .error (.config ("invalid database_url: " ++ fault.message))
  | none => .ok ()

/-- The checks of an eager opening, for which an address that is none is a failure to connect. -/
def checkEager (s : StoreSettings) : Except StoreError Unit := do
  s.validate
  match Url.fault? s.databaseUrl with
  | some fault => .error (Failure.configuration fault.message).classify
  | none => .ok ()

/-- Opens a store without a connection. -/
def openLazy (server : σ) (s : StoreSettings) : Except StoreError Unit × Pool σ :=
  (checkLazy s, ofSettings server s)

/-- Opens a store with a connection. -/
def openEager (server : σ) (s : StoreSettings) : Except StoreError Unit × Pool σ :=
  match checkEager s with
  | .ok () => (ofSettings server s).warm
  | .error e => (.error e, ofSettings server s)

end KnowledgeBase.Pool
