import KnowledgeBase.Connection.Work
import KnowledgeBase.Schema.Table

/-!
# The pool

The pool keeps at most one connection, opened when it is first needed and kept for later use.  Each
new connection is told the schema of the deployment before anything else.  Work for a tenant runs in
a transaction of its own, in which the tenant and the user are set for the row-level policies of the
database.  When they cannot be set the work goes on, since every statement names its tenant itself.

## Main definitions

* `Pool`, `Pool.acquire`, `Pool.release` — the connection and its life.
* `Frame` — how work is framed: on a bare connection or in a tenant's transaction.
* `Pool.perform` — framed work, from taking a connection to giving it back.
* `Pool.Status` — what the pool tells about itself.
-/

namespace KnowledgeBase

open Sql

/-- The pool of one connection. -/
structure Pool (σ : Type) where
  wire : Wire σ
  /-- The schema that a new connection is told. -/
  schema : String
  /-- How often opening a connection is tried. -/
  attempts : Nat
  maxSize : UInt32
  /-- The connection, if one is open. -/
  idle : Option Link
  /-- After closing: how many connections were idle when the pool was closed. -/
  closed : Option Nat

/-- The occupancy of a pool. -/
structure Pool.Status where
  size : Nat
  idle : Nat
  maxSize : UInt32

/-- How many waits fit into the time that remains.  Each is twice the one before, up to a cap. -/
def waitsWithin (cap : Nat) : Nat → Nat → Nat → Nat
  | 0, _, _ => 0
  | fuel + 1, wait, remaining =>
    if wait ≤ remaining then 1 + waitsWithin cap fuel (min (2 * wait) cap) (remaining - wait) else 0

/-- How often a connection is tried within a time-out in milliseconds.  The waits between attempts
double from ten milliseconds to a fifth of the time-out. -/
def attemptsWithin (timeout : Nat) : Nat :=
  if timeout = 0 then 0 else 1 + waitsWithin (timeout / 5) 100 10 timeout

/-- The codes of a database that is starting up or has no room for another connection. -/
def transientRefusals : List String := ["53300", "57P03"]

/-- The statement that sets the tenant and the user for the current transaction. -/
def contextStatement (tenant : String) (user : Option String) : Statement :=
  .prepared ("SELECT set_config('app.current_tenant', $1, true), " ++
    "set_config('app.current_user', $2, true)") [.text tenant, .text (user.getD "")]

/-- How a tenant's transaction ends when the work in it succeeds. -/
inductive Ending where
  | commit
  | rollback
  /-- The transaction is abandoned. -/
  | abandon
deriving DecidableEq

/-- How work is framed. -/
inductive Frame where
  /-- No transaction. -/
  | bare
  /-- A transaction of a tenant and perhaps a user. -/
  | tenant (id : String) (user : Option String) (ending : Ending)

variable {σ α : Type} [Server σ]

/-- Opens a connection, trying again after a passing refusal or a failed first statement. -/
def Wire.connect (schema : String) : Nat → Wire σ → Except Failure Link × Wire σ
  | 0, w => (.error .poolTimedOut, w)
  | n + 1, w =>
    match Server.refusal? w.server with
    | some (code, message) =>
      if transientRefusals.contains code then w.connect schema n
      else (.error (.database code message), w)
    | none =>
      -- a connection that cannot be told its schema is dropped, and another one is tried
      let (reply, w) := w.send (.simple (Schema.searchPath schema))
      if reply.failure?.isNone then (.ok .fresh, w) else w.connect schema n

namespace Channel

/-- Sets tenant and user in a level of their own, so that a failure leaves the level around it
usable. -/
def setContext (tenant : String) (user : Option String) (c : Channel σ) : Channel σ :=
  match c.enter with
  | (some _, c) => c
  | (none, c) =>
    match c.execute (contextStatement tenant user) with
    | (.ok _, c) => settle c.commit
    | (.error _, c) => settle c.rollback

/-- Ends a transaction. -/
def finish : Ending → Channel σ → Option Failure × Channel σ
  | .commit, c => c.commit
  | .rollback, c => c.rollback
  | .abandon, c => (none, c.abandon)

/-- Runs framed work. -/
def perform (work : Work α) : Frame → Channel σ → Except StoreError α × Channel σ
  | .bare, c => work.run c
  | .tenant id user ending, c =>
    match c.enter with
    | (some failure, c) => (.error failure.classify, c)
    | (none, c) =>
      -- the level of the context may be lost, and with it the transaction; the work goes on
      match work.run (c.setContext id user) with
      | (.error e, c) => (.error e, c.abandon)
      | (.ok a, c) =>
        match c.finish ending with
        | (none, c) => (.ok a, c)
        | (some failure, c) => (.error failure.classify, c.abandon)

end Channel

namespace Pool

/-- Takes the connection, opening one if there is none. -/
def acquire (p : Pool σ) : Except Failure (Channel σ) × Pool σ :=
  if p.closed.isSome then (.error .poolClosed, p)
  else
    match p.idle with
    | some link => (.ok ⟨p.wire, link⟩, { p with idle := none })
    | none =>
      match p.wire.connect p.schema p.attempts with
      | (.ok link, wire) => (.ok ⟨wire, link⟩, { p with wire })
      | (.error failure, wire) => (.error failure, { p with wire })

/-- Gives a connection back.  What waits in its queue is sent, and a connection that fails then, or
that is broken, is closed. -/
def release (c : Channel σ) (p : Pool σ) : Pool σ :=
  let (failure, c) := c.flush
  { p with wire := c.wire, idle := if failure.isNone && c.link.alive then some c.link else none }

/-- Takes a connection, runs framed work over it and gives it back. -/
def perform (frame : Frame) (work : Work α) (p : Pool σ) : Except StoreError α × Pool σ :=
  match p.acquire with
  | (.error failure, p) => (.error failure.classify, p)
  | (.ok c, p) =>
    let (result, c) := c.perform work frame
    (result, p.release c)

/-- Opens a connection at once, to find out whether the database can be reached. -/
def warm (p : Pool σ) : Except StoreError Unit × Pool σ := p.perform .bare (.done ())

/-- The number of open connections, all of them idle between operations. -/
def size (p : Pool σ) : Nat := if p.idle.isSome then 1 else 0

/-- Closes the connection; no further one is opened. -/
def close (p : Pool σ) : Pool σ :=
  { p with idle := none, closed := some (p.closed.getD p.size) }

/-- The occupancy of the pool between operations.  Closing the pool takes nothing off the count of
idle connections. -/
def status (p : Pool σ) : Status := ⟨p.size, p.closed.getD p.size, p.maxSize⟩

end Pool

end KnowledgeBase
