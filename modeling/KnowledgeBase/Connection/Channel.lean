import KnowledgeBase.Sql.Statement

/-!
# A connection and its transactions

Transactions nest: the outermost one is opened by `BEGIN`, each further level by a savepoint named
after its depth.  A level that is abandoned, rather than committed or rolled back, is rolled back
when the connection is next used: its roll-back waits in a queue that is sent ahead of the next
statement.

## Main definitions

* `Wire` — a server together with all that was sent to it.
* `Link` — the transaction state of one connection.
* `Channel` — a connection in use; `Channel.execute` sends a statement over it.
* `Channel.enter`, `Channel.commit`, `Channel.rollback`, `Channel.abandon` — levels of transaction.

## Main results

* `Wire.log_send` — each statement sent adds one entry to the record.
-/

namespace KnowledgeBase

open Sql

/-- A server, and the statements sent to it so far with their replies, oldest first. -/
structure Wire (σ : Type) where
  server : σ
  log : List Sent

namespace Wire

variable {σ : Type} [Server σ]

/-- Sends a statement and records it with its reply. -/
def send (s : Statement) (w : Wire σ) : Reply × Wire σ :=
  let (reply, server) := Server.answer s w.server
  (reply, ⟨server, w.log ++ [⟨s, reply⟩]⟩)

theorem log_send (s : Statement) (w : Wire σ) :
    (w.send s).2.log = w.log ++ [⟨s, (w.send s).1⟩] := rfl

end Wire

/-- The transaction state of one connection. -/
structure Link where
  /-- How many levels of transaction are open. -/
  depth : Nat
  /-- Roll-backs to be sent ahead of the next statement. -/
  queue : List String
  /-- Whether the connection still stands. -/
  alive : Bool
deriving DecidableEq

namespace Link

/-- A connection without a transaction. -/
def fresh : Link := ⟨0, [], true⟩

/-- The name of the savepoint that opens the level above `depth`. -/
def savepoint (depth : Nat) : String := "_sqlx_savepoint_" ++ toString depth

/-- Opens a level when `depth` levels are open. -/
def beginText : Nat → String
  | 0 => "BEGIN"
  | depth => "SAVEPOINT " ++ savepoint depth

/-- Commits the level above `depth` others. -/
def commitText : Nat → String
  | 0 => "COMMIT"
  | depth => "RELEASE SAVEPOINT " ++ savepoint depth

/-- Rolls back the level above `depth` others. -/
def rollbackText : Nat → String
  | 0 => "ROLLBACK"
  | depth => "ROLLBACK TO SAVEPOINT " ++ savepoint depth

/-- Leaves the innermost level, its roll-back to be sent later. -/
def abandon (l : Link) : Link :=
  match l.depth with
  | 0 => l
  | depth + 1 => { l with depth := depth, queue := l.queue ++ [rollbackText depth] }

end Link

/-- A connection in use. -/
structure Channel (σ : Type) where
  wire : Wire σ
  link : Link

namespace Channel

variable {σ : Type} [Server σ]

/-- Sends a statement, unless the connection is broken. -/
def send (s : Statement) (c : Channel σ) : Reply × Channel σ :=
  if c.link.alive then
    let (reply, wire) := c.wire.send s
    (reply, ⟨wire, { c.link with alive := !reply.isLost }⟩)
  else (.lost, c)

/-- Sends texts in order; of several failures the first counts. -/
def sendAll : List String → Channel σ → Option Failure × Channel σ
  | [], c => (none, c)
  | sql :: rest, c =>
    let (reply, c) := c.send (.simple sql)
    let (later, c) := sendAll rest c
    (reply.failure?.or later, c)

/-- Sends what waits in the queue. -/
def flush (c : Channel σ) : Option Failure × Channel σ :=
  sendAll c.link.queue { c with link := { c.link with queue := [] } }

/-- Sends a statement after what waits in the queue.  When that fails, so does the statement, and
it is not sent. -/
def execute (s : Statement) (c : Channel σ) : Except Failure Reply × Channel σ :=
  match c.flush with
  -- the replies of the queue come first, so its failure is taken for that of the statement
  | (some failure, c) => (.error failure, c)
  | (none, c) =>
    let (reply, c) := c.send s
    (reply.failure?.elim (.ok reply) .error, c)

/-- The same connection with another number of open levels. -/
def atDepth (depth : Nat) (c : Channel σ) : Channel σ := { c with link := { c.link with depth } }

/-- Leaves the innermost level, its roll-back to be sent later. -/
def abandon (c : Channel σ) : Channel σ := { c with link := c.link.abandon }

/-- Opens a level.  When that fails, the level around it is abandoned. -/
def enter (c : Channel σ) : Option Failure × Channel σ :=
  match c.execute (.simple (Link.beginText c.link.depth)) with
  | (.ok _, after) => (none, after.atDepth (c.link.depth + 1))
  | (.error failure, after) => (some failure, after.abandon)

/-- Leaves the innermost level, if there is one, by a statement.  When that fails, the level stays
open. -/
def leave (text : Nat → String) (c : Channel σ) : Option Failure × Channel σ :=
  match c.link.depth with
  | 0 => (none, c)
  | depth + 1 =>
    match c.execute (.simple (text depth)) with
    | (.ok _, after) => (none, after.atDepth depth)
    | (.error failure, after) => (some failure, after)

/-- Commits the innermost level. -/
def commit (c : Channel σ) : Option Failure × Channel σ := c.leave Link.commitText

/-- Rolls the innermost level back. -/
def rollback (c : Channel σ) : Option Failure × Channel σ := c.leave Link.rollbackText

/-- Abandons the innermost level after a failure. -/
def settle : Option Failure × Channel σ → Channel σ
  | (none, c) => c
  | (some _, c) => c.abandon

end Channel

end KnowledgeBase
