import KnowledgeBase.Sql.Statement

/-!
# A scripted server

A server without a database: it understands no SQL and answers from a list of replies, for trying
out operations.

## Main definitions

* `Script` — the replies, and the faults that come before them.
* `Script.Fault` — a reply to any statement whose text contains some words, a number of times.
-/

namespace KnowledgeBase

open Sql

/-- A reply to the statements whose text contains some words, while there are uses left. -/
structure Script.Fault where
  contains : String
  reply : Reply
  uses : Nat

/-- What a scripted server answers. -/
structure Script where
  replies : List Reply
  faults : List Script.Fault
  /-- The refusal of a new connection. -/
  refusal : Option (String × String)

namespace Script

/-- Nothing scripted: every statement succeeds. -/
def empty : Script := ⟨[], [], none⟩

/-- The reply of the first fault that matches, and the faults with one use of it spent. -/
def takeFault (line : String) : List Fault → Option (Reply × List Fault)
  | [] => none
  | f :: rest =>
    if 0 < f.uses && Text.contains line f.contains then
      some (f.reply, { f with uses := f.uses - 1 } :: rest)
    else (takeFault line rest).map fun (reply, rest) => (reply, f :: rest)

/-- Whether a statement sets the tenant of a transaction. -/
def setsContext (line : String) : Bool := "SELECT set_config(".toList.isPrefixOf line.toList

/-- The reply to a statement: that of a fault, else success for a simple statement and for one that
sets the tenant, else the next reply, else one affected row. -/
def answer (s : Statement) (script : Script) : Reply × Script :=
  match takeFault s.line script.faults with
  | some (reply, faults) => (reply, { script with faults })
  | none =>
    match s with
    | .simple _ => (.done 0, script)
    | .prepared _ _ =>
      if setsContext s.line then (.done 1, script)
      else
        match script.replies with
        | [] => (.done 1, script)
        | reply :: replies => (reply, { script with replies })

instance : Server Script where
  refusal? := Script.refusal
  answer := answer

end Script

end KnowledgeBase
