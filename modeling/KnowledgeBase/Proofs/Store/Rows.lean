import KnowledgeBase.Call
import KnowledgeBase.Proofs.Sql.Written

/-!
# Rows of the store, written and read

Each kind of entity has an insertion, whose text names columns in one order, and a decoder, which
reads them by name in another.  Here the row of each insertion is read off its text, and the decoder
is applied to it.

## Main results

* `Graph.nodeStatement_written`, `Graph.edgeStatement_written`, `Memory.addStatement_written`,
  `Memory.beliefStatement_written`, `Catalog.upsertStatement_written`,
  `Trace.appendStatement_written`, `News.factStatement_written` — the columns with their values.
* `Node.ofRow_of_holds`, `ReachedEdge.ofRow_of_holds`, `Memory.episodeOfRow_of_holds`,
  `Memory.beliefOfRow_of_holds`, `Catalog.entryOfRow_of_holds`, `Trace.ofRow_of_holds`,
  `News.factOfRow_of_holds` — what is decoded is what was written.
-/

namespace KnowledgeBase

open Sql

-- the texts are read character by character
set_option maxRecDepth 1000

variable {row : Row}

/-! ### Nodes and edges -/

theorem Graph.nodeStatement_written (tenant : String) (user : Option String) (n : Node) :
    (nodeStatement tenant user n).written =
      [("id", toValue n.id), ("tenant_id", toValue tenant), ("user_id", toValue (n.user.or user)),
        ("node_kind", toValue n.kind.name), ("source_type", toValue n.sourceType),
        ("source_id", toValue n.sourceId), ("title", toValue n.title),
        ("content", toValue n.content), ("struct_data", toValue n.metadata),
        ("keywords_text", toValue n.keywords), ("content_hash", toValue n.contentHash),
        ("taxonomy_path", toValue (n.path.map LabelPath.text)),
        ("embedding", toValue n.embedding)] := by
  refine Statement.written_eq ?_ rfl
  repeat rw [String.toList_append]
  repeat rw [String.toList_ofList]
  rfl

@[simp] theorem LabelPath.ofStored_text (p : LabelPath) : ofStored p.text = .ok p := by
  rw [ofStored, ofText_text]
  rfl

/-- What becomes of a node that is written for a tenant and perhaps a user: it is theirs, unless it
has a user of its own. -/
def Node.stored (n : Node) (tenant : String) (user : Option String)
    (createdAt : Option Timestamp) : Node :=
  { n with tenant := some tenant, user := n.user.or user, embedding := none, createdAt }

theorem Node.ofRow_of_holds {tenant : String} {user : Option String} {n : Node}
    {createdAt : Option Timestamp} (h : row.Holds (Graph.nodeStatement tenant user n))
    (hcreated : row.find? "created_at" = some (toValue createdAt)) :
    ofRow row = .ok (n.stored tenant user createdAt) := by
  rw [Row.Holds, Graph.nodeStatement_written] at h
  simp only [List.forall_mem_cons] at h
  obtain ⟨hid, htenant, huser, hkind, hsourceType, hsourceId, htitle, hcontent, hmetadata,
    hkeywords, hhash, hpath, -⟩ := h
  have htenant : row.column "tenant_id" = .ok (some tenant) := Row.column_eq htenant
  have hpaths : (n.path.map LabelPath.text).mapM LabelPath.ofStored = .ok n.path := by
    cases n.path with
    | none => rfl
    | some p => simp [Functor.map, Except.map]
  simp only [ofRow, Row.column_eq hid, htenant, Row.column_eq huser, Row.column_eq hkind,
    Row.column_eq hsourceType, Row.column_eq hsourceId, Row.column_eq htitle,
    Row.column_eq hcontent, Row.column_eq hmetadata, Row.column_eq hkeywords, Row.column_eq hhash,
    Row.column_eq hpath, Row.column_eq hcreated, NodeKind.parse_name, hpaths, bind, Except.bind]
  rfl

theorem Graph.edgeStatement_written (tenant : String) (e : Edge) :
    (edgeStatement tenant e).written =
      [("tenant_id", toValue tenant), ("source_id", toValue e.source),
        ("target_id", toValue e.target), ("relation", toValue e.relation),
        ("weight", toValue e.weight), ("metadata", toValue e.metadata)] := by
  refine Statement.written_eq ?_ rfl
  repeat rw [String.toList_append]
  repeat rw [String.toList_ofList]
  rfl

/-- What a walk of a tenant makes of an edge that it reaches at a depth. -/
def Edge.reached (e : Edge) (tenant : String) (depth : Int32) : ReachedEdge :=
  ⟨{ e with tenant := some tenant }, UInt32.ofNat depth.toInt.toNat⟩

theorem ReachedEdge.ofRow_of_holds {tenant owner : String} {e : Edge} {depth : Int32}
    (h : row.Holds (Graph.edgeStatement owner e))
    (hdepth : row.find? "depth" = some (toValue depth)) :
    ofRow tenant row = .ok (e.reached tenant depth) := by
  rw [Row.Holds, Graph.edgeStatement_written] at h
  simp only [List.forall_mem_cons] at h
  obtain ⟨-, hsource, htarget, hrelation, hweight, hmetadata, -⟩ := h
  simp only [ofRow, Row.column_eq hsource, Row.column_eq htarget, Row.column_eq hrelation,
    Row.column_eq hweight, Row.column_eq hmetadata, Row.column_eq hdepth, bind, Except.bind]
  rfl

/-! ### Episodes and beliefs -/

/-- What becomes of a turn that is appended. -/
def Episode.Draft.stored (e : Episode.Draft) (createdAt : Timestamp) : Episode where
  id := e.id
  tenant := e.tenant
  user := e.user
  session := e.session
  content := e.content
  metadata := e.metadata
  createdAt := createdAt

namespace Memory

theorem addStatement_written (e : Episode.Draft) :
    (addStatement e).written =
      [("id", toValue e.id), ("tenant_id", toValue e.tenant), ("user_id", toValue e.user),
        ("session_id", toValue e.session), ("content", toValue e.content),
        ("embedding", toValue e.embedding), ("metadata", toValue e.metadata)] := by
  refine Statement.written_eq ?_ rfl
  repeat rw [String.toList_append]
  repeat rw [String.toList_ofList]
  rfl

theorem episodeOfRow_of_holds {e : Episode.Draft} {createdAt : Timestamp}
    (h : row.Holds (addStatement e))
    (hcreated : row.find? "created_at" = some (toValue createdAt)) :
    episodeOfRow row = .ok (e.stored createdAt) := by
  rw [Row.Holds, addStatement_written] at h
  simp only [List.forall_mem_cons] at h
  obtain ⟨hid, htenant, huser, hsession, hcontent, -, hmetadata, -⟩ := h
  simp only [episodeOfRow, Row.column_eq hid, Row.column_eq htenant, Row.column_eq huser,
    Row.column_eq hsession, Row.column_eq hcontent, Row.column_eq hmetadata,
    Row.column_eq hcreated, bind, Except.bind]
  rfl

theorem beliefStatement_written (tenant user key : String) (value : Json) (confidence : Float)
    (source : Option Uuid) :
    (beliefStatement tenant user key value confidence source).written =
      [("tenant_id", toValue tenant), ("user_id", toValue user), ("fact_key", toValue key),
        ("fact_value", toValue value), ("confidence", toValue confidence),
        ("source_id", toValue source)] := by
  refine Statement.written_eq ?_ rfl
  repeat rw [String.toList_append]
  repeat rw [String.toList_ofList]
  rfl

theorem beliefOfRow_of_holds {tenant user key : String} {value : Json} {confidence : Float}
    {source : Option Uuid} {updatedAt : Timestamp}
    (h : row.Holds (beliefStatement tenant user key value confidence source))
    (hupdated : row.find? "updated_at" = some (toValue updatedAt)) :
    beliefOfRow row = .ok ⟨tenant, user, key, value, confidence, source, updatedAt⟩ := by
  rw [Row.Holds, beliefStatement_written] at h
  simp only [List.forall_mem_cons] at h
  obtain ⟨htenant, huser, hkey, hvalue, hconfidence, hsource, -⟩ := h
  simp only [beliefOfRow, Row.column_eq htenant, Row.column_eq huser, Row.column_eq hkey,
    Row.column_eq hvalue, Row.column_eq hconfidence, Row.column_eq hsource,
    Row.column_eq hupdated, bind, Except.bind]
  rfl

end Memory

/-! ### The catalog -/

namespace Catalog

theorem upsertStatement_written (e : Entry) :
    (upsertStatement e).written =
      [("tenant_id", toValue e.tenant), ("domain", toValue e.domain.singular),
        ("name", toValue e.name), ("path", toValue e.path.text), ("keywords", toValue e.keywords),
        ("embedding", toValue e.embedding), ("metadata", toValue e.metadata)] := by
  refine Statement.written_eq ?_ rfl
  repeat rw [String.toList_append]
  repeat rw [String.toList_ofList]
  rfl

@[simp] theorem Domain.ofStored_singular (d : Domain) : ofStored d.singular = .ok d := by
  rw [ofStored, parse_singular]
  rfl

/-- What becomes of an entry that is written. -/
def Entry.stored (e : Entry) (updatedAt : Option Timestamp) : Entry :=
  { e with embedding := none, updatedAt }

theorem entryOfRow_of_holds {e : Entry} {updatedAt : Option Timestamp}
    (h : row.Holds (upsertStatement e))
    (hupdated : row.find? "updated_at" = some (toValue updatedAt)) :
    entryOfRow row = .ok (e.stored updatedAt) := by
  rw [Row.Holds, upsertStatement_written] at h
  simp only [List.forall_mem_cons] at h
  obtain ⟨htenant, hdomain, hname, hpath, hkeywords, -, hmetadata, -⟩ := h
  simp only [entryOfRow, Row.column_eq htenant, Row.column_eq hdomain, Row.column_eq hname,
    Row.column_eq hpath, Row.column_eq hkeywords, Row.column_eq hmetadata,
    Row.column_eq hupdated, Domain.ofStored_singular, LabelPath.ofStored_text, bind, Except.bind]
  rfl

end Catalog

/-! ### Traces -/

namespace Trace

/-- The greatest time that its column holds. -/
def greatestTime : UInt64 := UInt64.ofNat (2 ^ 31 - 1)

/-- A time that does not fit its column comes back as the greatest that does. -/
theorem ofNat_toInt_saturate (ms : UInt64) :
    UInt64.ofNat (saturate ms.toNat).toInt.toNat = min ms greatestTime := by
  have hgreatest : greatestTime.toNat = 2 ^ 31 - 1 := by decide
  change _ = if ms ≤ greatestTime then ms else greatestTime
  rw [saturate]
  by_cases h : ms.toNat < 2 ^ 31
  · have hle : ms ≤ greatestTime := by rw [UInt64.le_iff_toNat_le]; omega
    rw [if_pos h, if_pos hle, Int32.toInt_ofNat_of_lt h]
    exact UInt64.ofNat_toNat
  · have hgt : ¬ ms ≤ greatestTime := by rw [UInt64.le_iff_toNat_le]; omega
    rw [if_neg h, if_neg hgt]
    decide

theorem appendStatement_written (id : Uuid) (t : Draft) :
    (appendStatement id t).written =
      [("id", toValue id), ("tenant_id", toValue t.tenant), ("agent_id", toValue t.agent),
        ("session_id", toValue t.session), ("user_id", toValue t.user),
        ("graph_name", toValue t.graph), ("tool_calls", toValue t.toolCalls),
        ("token_usage", toValue t.tokenUsage),
        ("timing_ms", toValue (t.timingMs.map fun ms => saturate ms.toNat)),
        ("security_flags", toValue t.securityFlags), ("metadata", toValue t.metadata),
        ("provenance", toValue t.provenance)] := by
  refine Statement.written_eq ?_ rfl
  repeat rw [String.toList_append]
  repeat rw [String.toList_ofList]
  rfl

/-- What becomes of a trace that is appended under an id. -/
def Draft.stored (t : Draft) (id : Uuid) (createdAt : Timestamp) : Trace where
  id := id
  tenant := t.tenant
  agent := t.agent
  session := t.session
  user := t.user
  graph := t.graph
  toolCalls := t.toolCalls
  tokenUsage := t.tokenUsage
  timingMs := t.timingMs.map (min · greatestTime)
  securityFlags := t.securityFlags
  metadata := t.metadata
  provenance := t.provenance
  createdAt := createdAt

theorem ofRow_of_holds {id : Uuid} {t : Draft} {createdAt : Timestamp}
    (h : row.Holds (appendStatement id t))
    (hcreated : row.find? "created_at" = some (toValue createdAt)) :
    ofRow row = .ok (t.stored id createdAt) := by
  rw [Row.Holds, appendStatement_written] at h
  simp only [List.forall_mem_cons] at h
  obtain ⟨hid, htenant, hagent, hsession, huser, hgraph, htools, htokens, htiming, hflags,
    hmetadata, hprovenance, -⟩ := h
  simp only [ofRow, Row.column_eq hid, Row.column_eq htenant, Row.column_eq hagent,
    Row.column_eq hsession, Row.column_eq huser, Row.column_eq hgraph, Row.column_eq htools,
    Row.column_eq htokens, Row.column_eq htiming, Row.column_eq hflags, Row.column_eq hmetadata,
    Row.column_eq hprovenance, Row.column_eq hcreated, Option.map_map, Function.comp_def,
    ofNat_toInt_saturate, bind, Except.bind]
  rfl

end Trace

/-! ### News -/

namespace News

theorem factStatement_written (f : Fact) :
    (factStatement f).written =
      [("id", toValue f.id), ("tenant_id", toValue f.tenant), ("url", toValue f.url),
        ("headline", toValue f.headline), ("summary", toValue f.summary),
        ("category", toValue f.category), ("suggested_agent", toValue f.suggestedAgent),
        ("significance", toValue f.significance), ("atomic_facts", toValue f.atomicFacts),
        ("irony_potential", toValue f.ironyPotential), ("embedding", toValue f.embedding),
        ("metadata", toValue f.metadata), ("raw_id", toValue f.rawId)] := by
  refine Statement.written_eq ?_ rfl
  repeat rw [String.toList_append]
  repeat rw [String.toList_ofList]
  rfl

/-- What becomes of a fact that is written. -/
def Fact.stored (f : Fact) (createdAt : Option Timestamp) : Fact :=
  { f with embedding := none, createdAt }

theorem factOfRow_of_holds {f : Fact} {createdAt : Option Timestamp}
    (h : row.Holds (factStatement f))
    (hcreated : row.find? "created_at" = some (toValue createdAt)) :
    factOfRow row = .ok (f.stored createdAt) := by
  rw [Row.Holds, factStatement_written] at h
  simp only [List.forall_mem_cons] at h
  obtain ⟨hid, htenant, hurl, hheadline, hsummary, hcategory, hagent, hsignificance, hfacts,
    hirony, -, hmetadata, hraw, -⟩ := h
  simp only [factOfRow, Row.column_eq hid, Row.column_eq htenant, Row.column_eq hurl,
    Row.column_eq hheadline, Row.column_eq hsummary, Row.column_eq hcategory,
    Row.column_eq hagent, Row.column_eq hsignificance, Row.column_eq hfacts,
    Row.column_eq hirony, Row.column_eq hmetadata, Row.column_eq hraw,
    Row.column_eq hcreated, bind, Except.bind]
  rfl

end News

end KnowledgeBase
