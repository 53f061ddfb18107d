import KnowledgeBase.Trace.Record
import KnowledgeBase.Connection.Operation

/-!
# Traces in the database

## Main definitions

* `Trace.append`, `Trace.list` — appending a trace and listing traces.
-/

namespace KnowledgeBase.Trace

open Sql

/-- What is selected of a trace. -/
def columns : String :=
  "id, tenant_id, agent_id, session_id, user_id, graph_name, tool_calls, token_usage, " ++
  "timing_ms, security_flags, metadata, provenance, created_at"

/-- The trace of a row.  A negative time counts as none spent. -/
def ofRow (row : Row) : Except StoreError Trace := do
  let toolCalls ← row.column "tool_calls"
  let tokenUsage ← row.column "token_usage"
  let securityFlags ← row.column "security_flags"
  let metadata ← row.column "metadata"
  let timing : Option Int32 ← row.column "timing_ms"
  let id ← row.column "id"
  let tenant ← row.column "tenant_id"
  let agent ← row.column "agent_id"
  let session ← row.column "session_id"
  let user ← row.column "user_id"
  let graph ← row.column "graph_name"
  let provenance ← row.column "provenance"
  let createdAt ← row.column "created_at"
  let timingMs := timing.map fun ms => UInt64.ofNat ms.toInt.toNat
  return { id, tenant, agent, session, user, graph, toolCalls, tokenUsage, timingMs, securityFlags,
           metadata, provenance, createdAt }

/-- Appends a trace under an id.  A time that does not fit its column is cut to the greatest that
does. -/
def appendStatement (id : Uuid) (t : Draft) : Statement :=
  .prepared
    ("INSERT INTO agent_traces ( id, tenant_id, agent_id, session_id, user_id, graph_name, " ++
     "tool_calls, token_usage, timing_ms, security_flags, metadata, provenance ) " ++
     "VALUES ($1, $2, $3, $4, $5, $6, $7, $8, $9, $10, $11, $12)")
    [toValue id, toValue t.tenant, toValue t.agent, toValue t.session, toValue t.user,
      toValue t.graph, toValue t.toolCalls, toValue t.tokenUsage,
      toValue (t.timingMs.map fun ms => saturate ms.toNat), toValue t.securityFlags,
      toValue t.metadata, toValue t.provenance]

/-- Selects the traces that match a query. -/
def listStatement (q : Query) : Statement :=
  .prepared
    ("SELECT " ++ columns ++ " FROM agent_traces WHERE tenant_id = $1 " ++
      "AND ($2::text IS NULL OR agent_id = $2) AND ($3::text IS NULL OR session_id = $3) " ++
      "AND ($4::timestamptz IS NULL OR created_at > $4) ORDER BY created_at DESC, id LIMIT $5")
    [toValue q.tenant, toValue q.agent, toValue q.session, toValue q.since, toValue (widen q.limit)]

/-- Appends a trace under a fresh id, and answers the id. -/
def append (id : Uuid) (t : Draft) : Operation Uuid := do
  requireTenant t.tenant
  requireText "agent_id" t.agent
  let _ ← .forTenant t.tenant t.user (Work.send (appendStatement id t))
  return id

/-- The traces that match a query, most recent first. -/
def list (q : Query) : Operation (List Trace) := do
  requireTenant q.tenant
  if q.limit = 0 then return []
  else
    let rows ← .forTenant q.tenant none (Work.rows (listStatement q))
    decodeAll ofRow rows

end KnowledgeBase.Trace
