import KnowledgeBase.Proofs.Connection.Accepted
import KnowledgeBase.Proofs.Store.Rows
import KnowledgeBase.Proofs.Store.Writes

/-!
# Rows that writes have filled

The insertion that a write sends fills a row, and what is to be read off such a row is known from
what was written.  A write that is accepted has sent its insertion, so every row with its values is
one that it has filled.

## Main definitions

* `Sql.Row.WrittenBy` — a row that an operation has filled.
* `Node.Stored`, `Edge.Stored` and so on — a row that an operation has filled with an entity, and
  what is to be read off it.

## Main results

* `Sql.Row.WrittenBy.holds` — the row of an operation with one statement is that of the statement.
* `Node.Stored.ofRow_eq`, `Edge.Stored.ofRow_eq` and so on — what is read off it.
* `Episode.Stored.of_accepted`, `Belief.Stored.of_accepted` and so on — what is accepted is stored.
-/

namespace KnowledgeBase

open Sql

variable {σ α β : Type}

/-! ### Rows that operations have filled -/

/-- A row that holds what an operation writes with its data statement in some place, in whatever run
sends it. -/
def Sql.Row.WrittenBy (row : Row) (o : Operation α) (place : Nat) : Prop :=
  ∃ (σ : Type) (_ : Server σ) (p : Pool σ) (e : Sent),
    (data (o.sent p))[place]? = some e ∧ row.Holds e.statement

/-- Where an operation has one statement only, no other data is sent. -/
theorem Operation.Sends.statement_eq [Server σ] {o : Operation α} {st : Statement}
    (ho : o.Sends (fun _ => True) (· = st)) (p : Pool σ) {e : Sent} (he : e ∈ data (o.sent p)) :
    e.statement = st := by
  obtain ⟨hsent, hdata⟩ := List.mem_filter.1 he
  have hall : o.Sends (fun _ => True) fun s => s = st ∨ s.isData = false :=
    ho.mono fun _ h => .inl h
  have hcontext (id : String) (user : Option String) :
      (contextStatement id user).isData = false := (Statement.aside_context id user).not_data
  rcases hall.sent (fun _ => .inr rfl) (fun id user _ _ => .inr (hcontext id user)) p e hsent
    with heq | hcontrol
  · exact heq
  · rw [hcontrol] at hdata
    cases hdata

/-- Where an operation has one statement only, the row is the one of that. -/
theorem Sql.Row.WrittenBy.holds {o : Operation α} {st : Statement} {row : Row} {place : Nat}
    (h : row.WrittenBy o place) (ho : o.Sends (fun _ => True) (· = st)) : row.Holds st := by
  obtain ⟨σ, _, p, e, he, hrow⟩ := h
  rw [← ho.statement_eq p (List.mem_of_getElem? he)]
  exact hrow

/-- An operation that answers a value has filled every row that holds its statement. -/
theorem Sql.Row.WrittenBy.of_accepted [Server σ] {dim : Nat} {tenant : String} {F : Frame → Prop}
    {o : Operation α} {st : Statement} {p : Pool σ} {a : α} {row : Row} (ho : o.SendsOnce st)
    (hissued : o.Sends F (Call.Issued dim tenant)) (hrun : (o.run p).1 = .ok a)
    (hrow : row.Holds st) : row.WrittenBy o 0 := by
  obtain ⟨r, hsent⟩ := ho.data_eq (hissued.mono fun _ => Call.Issued.isData) hrun
  refine ⟨σ, inferInstance, p, ⟨st, r⟩, ?_, hrow⟩
  rw [hsent]
  rfl

/-! ### Writes of one statement -/

section Writes

variable {s : StoreSettings}

theorem Memory.addEpisode_sendsOnce {e : Episode.Draft} :
    (addEpisode s e).SendsOnce (addStatement e) :=
  .check fun _ => .check fun _ => .check fun _ => .check fun _ => .forTenant_map .send _

theorem Memory.upsertBelief_sendsOnce {tenant user key : String} {value : Json}
    {confidence : Float} {source : Option Uuid} :
    (upsertBelief tenant user key value confidence source).SendsOnce
      (beliefStatement tenant user key value confidence source) :=
  .check fun _ => .check fun _ => .check fun _ => .check fun _ => .forTenant_map .send _

theorem Catalog.upsert_sendsOnce {e : Entry} : (upsert s e).SendsOnce (upsertStatement e) :=
  .check fun _ => .check fun _ => .check fun _ => .check fun _ => .forTenant_map .send _

theorem Trace.append_sendsOnce {id : Uuid} {t : Draft} :
    (append id t).SendsOnce (appendStatement id t) :=
  .check fun _ => .check fun _ => .forTenant_map .send _

theorem News.upsertFact_sendsOnce {f : Fact} : (upsertFact s f).SendsOnce (factStatement f) :=
  .check fun _ => .check fun _ => .check fun _ => .check fun _ => .check fun _ =>
    .forTenant .scalar

end Writes

/-! ### Writes of nodes and edges -/

namespace Graph

variable {s : StoreSettings} {tenant : String} {user : Option String} {nodes : List Node}
  {edges : List Edge}

theorem sendEffective_follows {st : Statement} {refusal : Refusal} {f : Unit → Work β}
    {plan : List Statement} (h : (f ()).Follows plan) :
    (sendEffective st refusal >>= f).Follows (st :: plan) := by
  refine .step (fun failure => ⟨_, rfl⟩) fun r => ?_
  change (Work.bind (if r.affected = 0 then .fail refusal.toError else .done ()) f).Follows plan
  split
  · exact .fail plan _
  · exact h

theorem writeNodes_follows {f : Unit → Work β} {plan : List Statement} (h : (f ()).Follows plan) :
    (writeNodes tenant user nodes >>= f).Follows
      (nodes.map (nodeStatement tenant user) ++ plan) := by
  induction nodes with
  | nil => exact h
  | cons n rest ih =>
    rw [writeNodes, Work.bind_assoc]
    exact sendEffective_follows ih

theorem writeEdges_follows :
    (writeEdges tenant edges).Follows (edges.map (edgeStatement tenant)) := by
  induction edges with
  | nil => exact .done _ _
  | cons e rest ih => exact sendEffective_follows ih

/-- **Nodes and edges are written in their order**, nodes first. -/
theorem upsert_statements_isPrefix {sent : List Sent} {answer : Except StoreError Unit}
    (h : (upsert s tenant user nodes edges).Exchange sent answer) :
    sent.map Sent.statement <+:
      nodes.map (nodeStatement tenant user) ++ edges.map (edgeStatement tenant) := by
  rcases h.of_check with ⟨rfl, -⟩ | ⟨_, -, h⟩
  · exact List.nil_prefix
  split at h
  · cases h
    exact List.nil_prefix
  · have hfollows : (writeNodes tenant user nodes >>= fun _ => writeEdges tenant edges).Follows
        (nodes.map (nodeStatement tenant user) ++ edges.map (edgeStatement tenant)) :=
      writeNodes_follows writeEdges_follows
    cases h with
    | failed hwork => cases hwork with
      | unopened e => exact List.nil_prefix
      | unclosed hwork e => exact hfollows.statements_isPrefix hwork
      | answered hwork => exact hfollows.statements_isPrefix hwork
    | within hwork hnext =>
      cases hnext
      rw [List.append_nil]
      exact hfollows.statements_isPrefix hwork.of_ok

variable {row : Row} {place : Nat}

/-- A row that a write of nodes and edges has filled is that of the statement in its place. -/
theorem holds_of_writtenBy (h : row.WrittenBy (upsert s tenant user nodes edges) place)
    {st : Statement}
    (hst : (nodes.map (nodeStatement tenant user) ++ edges.map (edgeStatement tenant))[place]? =
      some st) : row.Holds st := by
  obtain ⟨σ, _, p, e, he, hrow⟩ := h
  have hsends := (@upsert_sends s tenant user nodes edges).mono fun _ => Call.Issued.isData
  obtain ⟨rest, hplan⟩ := upsert_statements_isPrefix (Operation.exchange hsends p)
  obtain ⟨hplace, rfl⟩ := List.getElem?_eq_some_iff.1 he
  rw [← hplan, List.getElem?_append_left (by simpa using hplace), List.getElem?_map, he] at hst
  cases hst
  exact hrow

end Graph

/-! ### Entities in rows -/

variable (s : StoreSettings)

/-- A row that a write has filled with a node, and the node that is to be read off it. -/
inductive Node.Stored (row : Row) : Node → Prop where
  | intro {tenant : String} {user : Option String} {nodes : List Node} {edges : List Edge}
    {i : Nat} {n : Node} {createdAt : Option Timestamp} (hnode : nodes[i]? = some n)
    (hwritten : row.WrittenBy (Graph.upsert s tenant user nodes edges) i)
    (hcreated : row.find? "created_at" = some (toValue createdAt)) :
    Stored row (n.stored tenant user createdAt)

/-- A row that a write has filled with an edge, and the edge that a walk is to read off it. -/
inductive Edge.Stored (tenant : String) (row : Row) : ReachedEdge → Prop where
  | intro {owner : String} {user : Option String} {nodes : List Node} {edges : List Edge}
    {i : Nat} {e : Edge} {depth : Int32} (hedge : edges[i]? = some e)
    (hwritten : row.WrittenBy (Graph.upsert s owner user nodes edges) (nodes.length + i))
    (hdepth : row.find? "depth" = some (toValue depth)) :
    Stored tenant row (e.reached tenant depth)

/-- A row that a write has filled with a turn, and the turn that is to be read off it. -/
inductive Episode.Stored (row : Row) : Episode → Prop where
  | intro {draft : Draft} {createdAt : Timestamp}
    (hwritten : row.WrittenBy (Memory.addEpisode s draft) 0)
    (hcreated : row.find? "created_at" = some (toValue createdAt)) :
    Stored row (draft.stored createdAt)

/-- A row that a write has filled with a belief, and the belief that is to be read off it. -/
inductive Belief.Stored (row : Row) : Belief → Prop where
  | intro {b : Belief}
    (hwritten :
      row.WrittenBy (Memory.upsertBelief b.tenant b.user b.key b.value b.confidence b.source) 0)
    (hupdated : row.find? "updated_at" = some (toValue b.updatedAt)) : Stored row b

/-- A row that a write has filled with an entry, and the entry that is to be read off it. -/
inductive Catalog.Entry.Stored (row : Row) : Entry → Prop where
  | intro {e : Entry} {updatedAt : Option Timestamp}
    (hwritten : row.WrittenBy (Catalog.upsert s e) 0)
    (hupdated : row.find? "updated_at" = some (toValue updatedAt)) : Stored row (e.stored updatedAt)

/-- A row that a write has filled with a trace, and the trace that is to be read off it. -/
inductive Trace.Stored (row : Row) : Trace → Prop where
  | intro {id : Uuid} {draft : Draft} {createdAt : Timestamp}
    (hwritten : row.WrittenBy (Trace.append id draft) 0)
    (hcreated : row.find? "created_at" = some (toValue createdAt)) :
    Stored row (draft.stored id createdAt)

/-- A row that a write has filled with a fact, and the fact that is to be read off it. -/
inductive News.Fact.Stored (row : Row) : Fact → Prop where
  | intro {f : Fact} {createdAt : Option Timestamp}
    (hwritten : row.WrittenBy (News.upsertFact s f) 0)
    (hcreated : row.find? "created_at" = some (toValue createdAt)) : Stored row (f.stored createdAt)

section Decoding

variable {s} {row : Row}

theorem Node.Stored.ofRow_eq {n : Node} (h : n.Stored s row) : ofRow row = .ok n := by
  obtain ⟨hnode, hwritten, hcreated⟩ := h
  refine ofRow_of_holds (Graph.holds_of_writtenBy hwritten ?_) hcreated
  obtain ⟨hlength, -⟩ := List.getElem?_eq_some_iff.1 hnode
  rw [List.getElem?_append_left (by simpa using hlength), List.getElem?_map, hnode]
  rfl

theorem Edge.Stored.ofRow_eq {tenant : String} {e : ReachedEdge} (h : Edge.Stored s tenant row e) :
    ReachedEdge.ofRow tenant row = .ok e := by
  obtain @⟨owner, user, nodes, edges, i, e, depth, hedge, hwritten, hdepth⟩ := h
  have hst : (nodes.map (Graph.nodeStatement owner user) ++
      edges.map (Graph.edgeStatement owner))[nodes.length + i]? =
        some (Graph.edgeStatement owner e) := by
    rw [List.getElem?_append_right (by simp), List.getElem?_map]
    simp [hedge]
  exact ReachedEdge.ofRow_of_holds (Graph.holds_of_writtenBy hwritten hst) hdepth

theorem Episode.Stored.ofRow_eq {e : Episode} (h : e.Stored s row) :
    Memory.episodeOfRow row = .ok e := by
  obtain ⟨hwritten, hcreated⟩ := h
  exact Memory.episodeOfRow_of_holds (hwritten.holds Memory.addEpisode_sendsOnce.sends) hcreated

theorem Belief.Stored.ofRow_eq {b : Belief} (h : b.Stored row) :
    Memory.beliefOfRow row = .ok b := by
  obtain ⟨hwritten, hupdated⟩ := h
  exact Memory.beliefOfRow_of_holds (hwritten.holds Memory.upsertBelief_sendsOnce.sends) hupdated

theorem Catalog.Entry.Stored.ofRow_eq {e : Entry} (h : e.Stored s row) :
    entryOfRow row = .ok e := by
  obtain ⟨hwritten, hupdated⟩ := h
  exact entryOfRow_of_holds (hwritten.holds upsert_sendsOnce.sends) hupdated

theorem Trace.Stored.ofRow_eq {t : Trace} (h : t.Stored row) : ofRow row = .ok t := by
  obtain ⟨hwritten, hcreated⟩ := h
  exact ofRow_of_holds (hwritten.holds append_sendsOnce.sends) hcreated

theorem News.Fact.Stored.ofRow_eq {f : Fact} (h : f.Stored s row) : factOfRow row = .ok f := by
  obtain ⟨hwritten, hcreated⟩ := h
  exact factOfRow_of_holds (hwritten.holds upsertFact_sendsOnce.sends) hcreated

end Decoding

/-! ### What is accepted is stored -/

section Accepted

variable {s} [Server σ] {p : Pool σ} {row : Row}

/-- A turn that is accepted is stored in every row with its values. -/
theorem Episode.Stored.of_accepted {draft : Draft} {id : Uuid} {createdAt : Timestamp}
    (h : ((Memory.addEpisode s draft).run p).1 = .ok id)
    (hrow : row.Holds (Memory.addStatement draft))
    (hcreated : row.find? "created_at" = some (toValue createdAt)) :
    (draft.stored createdAt).Stored s row :=
  .intro (.of_accepted Memory.addEpisode_sendsOnce (Memory.addEpisode_sends s draft) h hrow)
    hcreated

/-- So is a belief. -/
theorem Belief.Stored.of_accepted {b : Belief}
    (h : ((Memory.upsertBelief b.tenant b.user b.key b.value b.confidence b.source).run p).1 =
      .ok ())
    (hrow : row.Holds
      (Memory.beliefStatement b.tenant b.user b.key b.value b.confidence b.source))
    (hupdated : row.find? "updated_at" = some (toValue b.updatedAt)) : b.Stored row := by
  have hissued := @Memory.upsertBelief_sends 0 b.tenant b.user b.key b.value b.confidence b.source
  exact .intro (.of_accepted Memory.upsertBelief_sendsOnce hissued h hrow) hupdated

/-- So is an entry of the catalog. -/
theorem Catalog.Entry.Stored.of_accepted {e : Entry} {updatedAt : Option Timestamp}
    (h : ((Catalog.upsert s e).run p).1 = .ok ()) (hrow : row.Holds (upsertStatement e))
    (hupdated : row.find? "updated_at" = some (toValue updatedAt)) :
    (e.stored updatedAt).Stored s row :=
  .intro (.of_accepted upsert_sendsOnce (upsert_sends s e) h hrow) hupdated

/-- So is a trace. -/
theorem Trace.Stored.of_accepted {id id' : Uuid} {draft : Draft} {createdAt : Timestamp}
    (h : ((append id draft).run p).1 = .ok id') (hrow : row.Holds (appendStatement id draft))
    (hcreated : row.find? "created_at" = some (toValue createdAt)) :
    (draft.stored id createdAt).Stored row :=
  .intro (.of_accepted append_sendsOnce (@append_sends 0 id draft) h hrow) hcreated

/-- So is a fact. -/
theorem News.Fact.Stored.of_accepted {f : Fact} {id : String} {createdAt : Option Timestamp}
    (h : ((upsertFact s f).run p).1 = .ok id) (hrow : row.Holds (factStatement f))
    (hcreated : row.find? "created_at" = some (toValue createdAt)) :
    (f.stored createdAt).Stored s row :=
  .intro (.of_accepted upsertFact_sendsOnce (upsertFact_sends s f) h hrow) hcreated

end Accepted

end KnowledgeBase
