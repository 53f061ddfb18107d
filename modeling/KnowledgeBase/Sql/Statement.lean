import KnowledgeBase.Sql.Row
import KnowledgeBase.Text.Ascii

/-!
# Statements and replies

## Main definitions

* `Sql.Statement` — SQL text, alone or with the values of its placeholders.
* `Sql.Reply` — what the database answers to a statement.
* `Sql.Server` — what answers statements: any state machine over statements.
* `Sql.Sent` — a statement together with its reply, as the record of a session keeps it.
-/

namespace KnowledgeBase.Sql

/-- A statement to send. -/
inductive Statement where
  /-- SQL text without placeholders. -/
  | simple (sql : String)
  /-- SQL text with the values of its placeholders `$1`, `$2` and so on. -/
  | prepared (sql : String) (binds : List Value)

namespace Statement

/-- The SQL text as written. -/
def sql : Statement → String
  | simple s => s
  | prepared s _ => s

/-- The bound values. -/
def binds : Statement → List Value
  | simple _ => []
  | prepared _ vs => vs

/-- The SQL text on one line. -/
def line (s : Statement) : String := Text.collapse s.sql

end Statement

/-- What the database answers to a statement. -/
inductive Reply where
  /-- No rows; so many were affected. -/
  | done (affected : Nat)
  | rows (rows : List Row)
  | error (code message : String)
  /-- The connection breaks. -/
  | lost

namespace Reply

/-- The failure that a reply reports. -/
def failure? : Reply → Option Failure
  | done _ => none
  | rows _ => none
  | error code message => some (.database code message)
  | lost => some (.io "connection lost")

/-- Whether the connection broke. -/
def isLost : Reply → Bool
  | lost => true
  | _ => false

/-- How many rows a statement affected. -/
def affected : Reply → Nat
  | done n => n
  | rows rs => rs.length
  | _ => 0

/-- The rows of a result. -/
def resultRows : Reply → List Row
  | rows rs => rs
  | _ => []

end Reply

/-- What answers statements.  A new connection may be refused with a code and a message. -/
class Server (σ : Type) where
  refusal? : σ → Option (String × String)
  answer : Statement → σ → Reply × σ

/-- A statement that was sent, and the reply to it. -/
structure Sent where
  statement : Statement
  reply : Reply

end KnowledgeBase.Sql
