import KnowledgeBase.Json.Record

/-!
# Traces of agent runs

A trace records one run of an agent, for observation and audit.  Traces are only ever appended.

## Main definitions

* `Trace.Draft`, `Trace`, `Trace.Query` — traces to append, stored traces, and a listing of them.
-/

namespace KnowledgeBase

/-- A stored trace. -/
structure Trace where
  id : Uuid
  tenant : String
  agent : String
  session : Option String
  user : Option String
  /-- The name of the agent graph that ran. -/
  graph : Option String
  toolCalls : List Json
  tokenUsage : Metadata
  timingMs : Option UInt64
  securityFlags : Metadata
  metadata : Metadata
  /-- The producing components, oldest first. -/
  provenance : List String
  createdAt : Timestamp

namespace Trace

/-- A trace to append.  Its id is made when it is written. -/
structure Draft where
  tenant : String
  agent : String
  session : Option String
  user : Option String
  graph : Option String
  toolCalls : List Json
  tokenUsage : Metadata
  timingMs : Option UInt64
  securityFlags : Metadata
  metadata : Metadata
  provenance : List String

/-- A trace with the required fields only. -/
def Draft.ofAgent (tenant agent : String) : Draft :=
  ⟨tenant, agent, none, none, none, [], .empty, none, .empty, .empty, []⟩

/-- A listing of traces, most recent first. -/
structure Query where
  tenant : String
  agent : Option String
  session : Option String
  /-- Traces made strictly after this instant. -/
  since : Option Timestamp
  limit : UInt32

/-- The twenty most recent traces of a tenant. -/
def Query.ofTenant (tenant : String) : Query := ⟨tenant, none, none, none, 20⟩

end Trace

instance Trace.codec : Codec Trace where
  encode t := .obj [("id", encode t.id), ("tenant_id", encode t.tenant),
    ("agent_id", encode t.agent), ("session_id", encode t.session), ("user_id", encode t.user),
    ("graph_name", encode t.graph), ("tool_calls", encode t.toolCalls),
    ("token_usage", encode t.tokenUsage), ("timing_ms", encode t.timingMs),
    ("security_flags", encode t.securityFlags), ("metadata", encode t.metadata),
    ("provenance", encode t.provenance), ("created_at", encode t.createdAt)]
  decode := Json.readRecord .strict
      ["id", "tenant_id", "agent_id", "session_id", "user_id", "graph_name", "tool_calls",
        "token_usage", "timing_ms", "security_flags", "metadata", "provenance", "created_at"]
      fun r =>
    Trace.mk <$> r.required "id" decode <*> r.required "tenant_id" decode
      <*> r.required "agent_id" decode <*> r.optional "session_id" decode
      <*> r.optional "user_id" decode <*> r.optional "graph_name" decode
      <*> r.required "tool_calls" decode <*> r.required "token_usage" decode
      <*> r.optional "timing_ms" decode <*> r.required "security_flags" decode
      <*> r.required "metadata" decode <*> r.required "provenance" decode
      <*> r.required "created_at" decode

instance Trace.Draft.codec : Codec Trace.Draft where
  encode t := .obj [("tenant_id", encode t.tenant), ("agent_id", encode t.agent),
    ("session_id", encode t.session), ("user_id", encode t.user), ("graph_name", encode t.graph),
    ("tool_calls", encode t.toolCalls), ("token_usage", encode t.tokenUsage),
    ("timing_ms", encode t.timingMs), ("security_flags", encode t.securityFlags),
    ("metadata", encode t.metadata), ("provenance", encode t.provenance)]
  decode := Json.readRecord .strict
      ["tenant_id", "agent_id", "session_id", "user_id", "graph_name", "tool_calls", "token_usage",
        "timing_ms", "security_flags", "metadata", "provenance"] fun r =>
    Trace.Draft.mk <$> r.required "tenant_id" decode <*> r.required "agent_id" decode
      <*> r.optional "session_id" decode <*> r.optional "user_id" decode
      <*> r.optional "graph_name" decode <*> r.required "tool_calls" decode
      <*> r.required "token_usage" decode <*> r.optional "timing_ms" decode
      <*> r.required "security_flags" decode <*> r.required "metadata" decode
      <*> r.required "provenance" decode

instance Trace.Query.codec : Codec Trace.Query where
  encode q := .obj [("tenant_id", encode q.tenant), ("agent_id", encode q.agent),
    ("session_id", encode q.session), ("since", encode q.since), ("limit", encode q.limit)]
  decode := Json.readRecord .strict ["tenant_id", "agent_id", "session_id", "since", "limit"]
      fun r =>
    Trace.Query.mk <$> r.required "tenant_id" decode <*> r.optional "agent_id" decode
      <*> r.optional "session_id" decode <*> r.optional "since" decode
      <*> r.required "limit" decode

end KnowledgeBase
