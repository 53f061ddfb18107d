import KnowledgeBase.Error

/-!
# Failures of statements

What can go wrong between sending a statement and having its rows read, and to which category of
errors it belongs.

## Main definitions

* `Sql.Failure`, `Sql.Failure.message` — the failure and its sentence.
* `Sql.Failure.classify` — the error of the operation that met the failure.

## Main results

* `Sql.Failure.classify_database_of_absent`, `Sql.Failure.classify_database_of_integrity` — the two
  families of database codes with a category of their own.
-/

namespace KnowledgeBase.Sql

/-- Why a statement failed. -/
inductive Failure where
  /-- The database refused the statement with a five-character code. -/
  | database (code message : String)
  /-- A row lacks a column. -/
  | columnNotFound (column : String)
  /-- No connection became free in time. -/
  | poolTimedOut
  /-- The pool is closed. -/
  | poolClosed
  /-- The task that serves a connection has ended. -/
  | workerCrashed
  /-- A single row was expected. -/
  | rowNotFound
  /-- The database has no type of this name. -/
  | typeNotFound (name : String)
  /-- The connection broke. -/
  | io (detail : String)
  | tls (detail : String)
  | protocol (detail : String)
  | configuration (detail : String)
  | decode (detail : String)
  | encode (detail : String)
  /-- A column holds another type than expected, or NULL. -/
  | columnDecode (column detail : String)
  /-- A row has fewer columns than expected. -/
  | columnIndexOutOfBounds (length index : Nat)
deriving DecidableEq

namespace Failure

/-- The sentence that describes the failure. -/
def message : Failure → String
  | database _ m => "error returned from database: " ++ m
  | columnNotFound c => "no column found for name: " ++ c
  | poolTimedOut => "pool timed out while waiting for an open connection"
  | poolClosed => "attempted to acquire a connection on a closed pool"
  | workerCrashed => "attempted to communicate with a crashed background worker"
  | rowNotFound => "no rows returned by a query that expected to return at least one row"
  | typeNotFound n => "type named " ++ n ++ " not found"
  | io d => "error communicating with database: " ++ d
  | tls d => "error occurred while attempting to establish a TLS connection: " ++ d
  | protocol d => "encountered unexpected or invalid data: " ++ d
  | configuration d => "error with configuration: " ++ d
  | decode d => "error occurred while decoding: " ++ d
  | encode d => "error occurred while encoding a value: " ++ d
  | columnDecode c d => "error occurred while decoding column " ++ c ++ ": " ++ d
  | columnIndexOutOfBounds length index =>
    "column index out of bounds: the len is " ++ toString length ++ ", but the index is "
      ++ toString index

/-- The codes for a column, table, object or function that does not exist. -/
def absentCodes : List String := ["42703", "42P01", "42704", "42883"]

/-- Whether a code is of the class of violated integrity constraints. -/
def isIntegrityCode (code : String) : Bool := ['2', '3'].isPrefixOf code.toList

/-- The error of an operation that met the failure. -/
def classify : Failure → StoreError
  | database code m =>
    if absentCodes.contains code then .schemaMismatch m
    else if isIntegrityCode code then .constraint m
    else .query ("[" ++ code ++ "] " ++ m)
  | columnNotFound c => .schemaMismatch ("column \"" ++ c ++ "\" not found in result")
  | poolTimedOut => .poolTimeout
  | f@(io _) => .connection f.message
  | f@(tls _) => .connection f.message
  | f@poolClosed => .connection f.message
  | f@(columnDecode _ _) => .serialization f.message
  | f@(decode _) => .serialization f.message
  | f => .query f.message

theorem classify_database_of_absent {code : String} (m : String)
    (h : absentCodes.contains code = true) : classify (database code m) = .schemaMismatch m := by
  simp only [classify, h, ite_true]

theorem classify_database_of_integrity {code : String} (m : String)
    (h : isIntegrityCode code = true) : classify (database code m) = .constraint m := by
  have hc : absentCodes.contains code = false := by
    cases ha : absentCodes.contains code with
    | false => rfl
    | true =>
      have : code = "42703" ∨ code = "42P01" ∨ code = "42704" ∨ code = "42883" := by
        simpa [absentCodes] using ha
      rcases this with rfl | rfl | rfl | rfl <;> exact absurd h (by decide)
  simp only [classify, hc, h, Bool.false_eq_true, ite_false, ite_true]

end Failure

end KnowledgeBase.Sql
