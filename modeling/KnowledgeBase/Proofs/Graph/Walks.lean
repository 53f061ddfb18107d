import KnowledgeBase.Proofs.Graph.Validation
import KnowledgeBase.Proofs.Store.ReadBack
import KnowledgeBase.Proofs.Text.ByteOrder

/-!
# What a walk asks for and what it answers

A search of the graph sends two statements that depend on one another: a walk over the edges, and a
query for the nodes at either end of what the walk found.  Here the answer is read off the replies
to these two, row by row.

## Main definitions

* `Sql.Statement.isWalk`, `Sql.walks` — a walk over the edges, and the walks on a record.
* `ReachedEdge.ReadFrom` — an edge that is read off a row.
* `Walk.statement`, `Walk.Asks` — the statement of a walk, and what it asks for.
* `Graph.Walked` — the edges of a walk, and what was sent for them.

## Main results

* `ReachedEdge.ofRow_eq_ok_iff` — what decoding the row of an edge comes to.
* `Graph.walked_of_exchange` — every walk that succeeds is one of these.
* `Graph.search_answer` — **what an answered search has sent, and what it answers.**
-/

namespace KnowledgeBase

open Sql

/-! ### Rows of edges -/

/-- An edge that is read off a row of a walk of a tenant. -/
structure ReachedEdge.ReadFrom (tenant : String) (row : Row) (x : ReachedEdge) : Prop where
  tenant : x.edge.tenant = some tenant
  source : row.column "source_id" = .ok x.edge.source
  target : row.column "target_id" = .ok x.edge.target
  relation : row.column "relation" = .ok x.edge.relation
  weight : row.column "weight" = .ok x.edge.weight
  metadata : row.column "metadata" = .ok x.edge.metadata
  /-- A depth below zero counts as zero. -/
  depth : ∃ d : Int32, row.column "depth" = .ok d ∧ (x.depth.toNat : Int) = max d.toInt 0

theorem ReachedEdge.toNat_depth (d : Int32) :
    ((UInt32.ofNat d.toInt.toNat).toNat : Int) = max d.toInt 0 := by
  have hlt : d.toInt < 2 ^ 31 := d.toInt_lt
  have hsize : d.toInt.toNat < UInt32.size :=
    (Int.toNat_lt' (by decide)).2 (Int.lt_of_lt_of_le hlt (by decide))
  rw [UInt32.toNat_ofNat_of_lt' hsize, Int.ofNat_toNat]

/-- **What decoding the row of an edge comes to.** -/
theorem ReachedEdge.ofRow_eq_ok_iff {tenant : String} {row : Row} {x : ReachedEdge} :
    ofRow tenant row = .ok x ↔ x.ReadFrom tenant row := by
  simp only [ofRow, Except.bind_eq_ok]
  constructor
  · rintro ⟨d, hdepth, metadata, hmetadata, source, hsource, target, htarget, relation, hrelation,
      weight, hweight, hx⟩
    cases hx
    exact ⟨rfl, hsource, htarget, hrelation, hweight, hmetadata, d, hdepth, toNat_depth d⟩
  · rintro ⟨htenant, hsource, htarget, hrelation, hweight, hmetadata, d, hdepth, hmax⟩
    refine ⟨d, hdepth, _, hmetadata, _, hsource, _, htarget, _, hrelation, _, hweight, ?_⟩
    obtain ⟨⟨tenant', source, target, relation, weight, metadata⟩, depth⟩ := x
    cases htenant
    have heq : UInt32.ofNat d.toInt.toNat = depth := by
      rw [← UInt32.toNat_inj, ← Int.ofNat_inj, toNat_depth]
      exact hmax.symm
    exact congrArg (fun n => Except.ok (⟨_, n⟩ : ReachedEdge)) heq

/-! ### Statements of walks -/

/-- Whether a statement walks over edges. -/
def Sql.Statement.isWalk : Statement → Bool
  | .simple _ => false
  | .prepared sql _ => "WITH RECURSIVE walk ".toList.isPrefixOf sql.toList

/-- The walks on a record, with their replies. -/
def Sql.walks (sent : List Sent) : List Sent := sent.filter fun e => e.statement.isWalk

@[simp] theorem Sql.walks_append (sent sent' : List Sent) :
    walks (sent ++ sent') = walks sent ++ walks sent' := List.filter_append ..

@[simp] theorem Sql.Statement.isWalk_simple (sql : String) :
    (Statement.simple sql).isWalk = false := rfl

/-- A walk is no statement of a transaction and sets no context. -/
theorem Sql.Statement.isData_of_isWalk {st : Statement} (h : st.isWalk = true) :
    st.isData = true := by
  obtain sql | ⟨sql, values⟩ := st
  · cases h
  · rw [isWalk, String.toList_ofList, List.isPrefixOf_iff_prefix] at h
    rw [isData, Bool.not_eq_true', Script.setsContext, String.toList_ofList,
      Bool.eq_false_iff, ne_eq, List.isPrefixOf_iff_prefix]
    intro hcontext
    -- one text cannot begin with both words
    exact absurd (List.prefix_or_prefix_of_prefix h hcontext) (by decide)

/-- The walks on a record are among its data. -/
theorem Sql.walks_data (sent : List Sent) : walks (data sent) = walks sent := by
  rw [walks, walks, data, List.filter_filter]
  refine List.filter_congr fun e _ => ?_
  cases hwalk : e.statement.isWalk with
  | false => rfl
  | true => rw [Statement.isData_of_isWalk hwalk]; rfl

theorem Sql.exists_walk_iff {sent : List Sent} :
    (∃ x ∈ sent, x.statement.isWalk = true) ↔ walks sent ≠ [] := by
  rw [walks, ne_eq, List.filter_eq_nil_iff]
  simp

/-- What is bound for the relations to follow.  NULL stands for all of them. -/
def Walk.followed (w : Walk) : Value :=
  match w.relations with
  | none => .null
  | some [] => .null
  | some (name :: names) => .textArray (name :: names)

/-- The statement of a walk. -/
def Walk.statement (w : Walk) : Statement :=
  Graph.walkStatement w.tenant w.entrypoints (Graph.allowlist w.relations) w.maxHops w.maxResults

/-- A statement that asks for a walk: its text, and the values of its five placeholders. -/
structure Walk.Asks (w : Walk) (st : Statement) : Prop where
  eq_statement : st = w.statement
  isWalk : st.isWalk = true
  binds : ∃ hops limit, st.binds =
      [.text w.tenant, .textArray w.entrypoints, w.followed, .int4 hops, .int8 limit] ∧
    hops.toInt = min w.maxHops.toNat (2 ^ 31 - 1) ∧ limit.toInt = w.maxResults.toNat

theorem toInt_saturate (n : Nat) : ((saturate n).toInt : Int) = min n (2 ^ 31 - 1) := by
  rw [saturate]
  split
  · rw [Int32.toInt_ofNat_of_lt (by assumption)]
    omega
  · have hmax : Int32.maxValue.toInt = 2 ^ 31 - 1 := by decide
    rw [hmax]
    omega

theorem toInt_widen (n : UInt32) : (widen n).toInt = n.toNat := by
  have hlt := n.toNat_lt
  exact Int64.toInt_ofNat_of_lt (by omega)

namespace Graph

/-- The relations of a walk are bound unless there are none. -/
theorem toValue_allowlist (w : Walk) : toValue (allowlist w.relations) = w.followed := by
  rw [Walk.followed, allowlist]
  split
  · next h => rw [h]; rfl
  · next h => rw [h]; rfl
  · next h => rw [h]; rfl

-- the text is read character by character
set_option maxRecDepth 1000 in
theorem isWalk_walkStatement (tenant : String) (entrypoints : List String)
    (relations : Option (List String)) (maxHops limit : UInt32) :
    (walkStatement tenant entrypoints relations maxHops limit).isWalk = true := by
  rw [walkStatement, Statement.isWalk]
  repeat rw [String.toList_append]
  repeat rw [String.toList_ofList]
  rfl

theorem isWalk_nodesStatement (tenant : String) (ids : List String) :
    (nodesStatement tenant ids).isWalk = false := by
  rw [nodesStatement, Statement.isWalk]
  repeat rw [String.toList_append]
  repeat rw [String.toList_ofList]
  rfl

theorem isWalk_contextStatement (tenant : String) (user : Option String) :
    (contextStatement tenant user).isWalk = false := by
  rw [contextStatement, Statement.isWalk]
  repeat rw [String.toList_append]
  repeat rw [String.toList_ofList]
  rfl

theorem asks_statement (w : Walk) : w.Asks w.statement where
  eq_statement := rfl
  isWalk := isWalk_walkStatement ..
  binds := by
    refine ⟨saturate w.maxHops.toNat, widen w.maxResults, ?_, toInt_saturate _, toInt_widen _⟩
    rw [← toValue_allowlist]
    rfl

/-! ### Answers -/

variable {s : StoreSettings} {w : Walk}

/-- The edges of a walk that succeeds, and what is sent for them. -/
inductive Walked (w : Walk) : List Sent → List ReachedEdge → Prop where
  /-- A walk of no hops or no results is not sent. -/
  | skipped (hzero : w.maxHops = 0 ∨ w.maxResults = 0) : Walked w [] []
  | answered {st : Statement} {r : Reply} {edges : List ReachedEdge} (hhops : 0 < w.maxHops)
    (hresults : 0 < w.maxResults) (hst : w.Asks st) (hreply : r.failure? = none)
    (hrows : List.Forall₂ (ReachedEdge.ReadFrom w.tenant) r.resultRows edges) :
    Walked w [⟨st, r⟩] edges

/-- A walk that may have hops and results is one statement, and the reply to it decides. -/
theorem walk_exchange (hhops : w.maxHops ≠ 0) (hresults : w.maxResults ≠ 0) {sent : List Sent}
    {answer : Except StoreError (List ReachedEdge)} (h : (walk w).Exchange sent answer) :
    (sent = [] ∧ ∃ e, answer = .error e) ∨
      ∃ r, sent = [⟨w.statement, r⟩] ∧
        answer = r.failure?.elim (decodeAll (ReachedEdge.ofRow w.tenant) r.resultRows)
          fun f => .error f.classify := by
  rw [walk, if_neg (by simp [hhops, hresults])] at h
  cases h with
  | unsent f rest =>
    cases rest
    exact .inl ⟨rfl, _, rfl⟩
  | sent r rest =>
    refine .inr ⟨r, ?_⟩
    cases hreply : r.failure? with
    | some f =>
      rw [hreply] at rest
      cases rest
      exact ⟨rfl, rfl⟩
    | none =>
      rw [hreply] at rest
      obtain ⟨rfl, rfl⟩ := Work.Exchange.of_ofExcept rest
      exact ⟨rfl, rfl⟩

/-- **Every walk that succeeds** is not sent, or is answered with the rows of its edges. -/
theorem walked_of_exchange {sent : List Sent} {edges : List ReachedEdge}
    (h : (walk w).Exchange sent (.ok edges)) : Walked w sent edges := by
  by_cases hzero : w.maxHops = 0 ∨ w.maxResults = 0
  · rw [walk, if_pos (by simpa using hzero)] at h
    cases h
    exact .skipped hzero
  · obtain ⟨hhops, hresults⟩ := not_or.1 hzero
    rcases walk_exchange hhops hresults h with ⟨-, e, he⟩ | ⟨r, rfl, hanswer⟩
    · cases he
    · cases hreply : r.failure? with
      | some f =>
        rw [hreply] at hanswer
        cases hanswer
      | none =>
        rw [hreply] at hanswer
        refine .answered (UInt32.pos_iff_ne_zero.2 hhops) (UInt32.pos_iff_ne_zero.2 hresults)
          (asks_statement w) hreply ?_
        exact (decodeAll_eq_ok_iff.1 hanswer.symm).imp fun _ _ => ReachedEdge.ofRow_eq_ok_iff.1

theorem Walked.walks_ne_nil_iff {sent : List Sent} {edges : List ReachedEdge}
    (h : Walked w sent edges) : walks sent ≠ [] ↔ 0 < w.maxHops ∧ 0 < w.maxResults := by
  cases h with
  | skipped hzero =>
    refine iff_of_false (by simp [walks]) ?_
    rintro ⟨hhops, hresults⟩
    exact hzero.elim (UInt32.pos_iff_ne_zero.1 hhops) (UInt32.pos_iff_ne_zero.1 hresults)
  | answered hhops hresults hst _ _ =>
    exact iff_of_true (by simp [walks, hst.isWalk]) ⟨hhops, hresults⟩

/-- The ids of the nodes to be read are the entry points and the ends of the edges. -/
theorem mem_touched {entrypoints : List String} {edges : List ReachedEdge} {id : String} :
    id ∈ touched entrypoints edges ↔
      id ∈ entrypoints ∨ ∃ x ∈ edges, id = x.edge.source ∨ id = x.edge.target := by
  simp [touched, Text.mem_ascending]

theorem previewOfRow_eq_ok_iff {row : Row} {n : Node} {limit : Nat} :
    previewOfRow limit row = .ok n ↔
      ∃ whole, Node.ofRow row = .ok whole ∧
        { whole with content := Node.preview whole.content limit } = n := by
  rw [previewOfRow, Except.bind_eq_ok]
  simp [pure, Except.pure]

theorem decode_previews {rows : List Row} {nodes : List Node} {limit : Nat}
    (h : decodeAll (previewOfRow limit) rows = .ok nodes) :
    ∃ wholes, List.Forall₂ (fun row n => Node.ofRow row = .ok n) rows wholes ∧
      nodes = wholes.map fun n =>
        { n with content := String.ofList (n.content.toList.take limit) } := by
  simp only [← Node.preview_eq]
  rw [decodeAll_eq_ok_iff] at h
  induction h with
  | nil => exact ⟨[], .nil, rfl⟩
  | cons hrow _ ih =>
    obtain ⟨whole, hwhole, rfl⟩ := previewOfRow_eq_ok_iff.1 hrow
    obtain ⟨wholes, hwholes, rfl⟩ := ih
    exact ⟨whole :: wholes, .cons hwhole hwholes, rfl⟩

/-! ### Searches -/

variable {σ : Type} [Server σ] {p : Pool σ} {g : Neighbourhood}

/-- A search for some entry points that succeeds has walked, and then asked for the nodes. -/
theorem search_exchange {sent : List Sent} (hentry : w.entrypoints ≠ [])
    (h : (search s w).Exchange sent (.ok g)) :
    ∃ walked reply, sent = walked ++ [⟨nodesStatement w.tenant (touched w.entrypoints g.edges),
        reply⟩] ∧ (walk w).Exchange walked (.ok g.edges) ∧ reply.failure? = none ∧
      decodeAll (previewOfRow s.graph.previewChars.toNat) reply.resultRows = .ok g.nodes := by
  rcases h.of_check with ⟨-, e, he⟩ | ⟨_, -, h⟩
  · cases he
  rw [if_neg (by simpa using hentry)] at h
  rcases h.of_forTenant.of_bind with ⟨e, he, -⟩ | ⟨edges, walked, sent₂, rfl, hwalk, hread⟩
  · cases he
  rcases hread.of_bind with ⟨e, he, -⟩ | ⟨rows, sent₂, sent₃, rfl, hrows, hdecode⟩
  · cases he
  obtain ⟨reply, rfl, hreply, rfl⟩ := hrows.of_rows
  rcases hdecode.of_bind with ⟨e, he, -⟩ | ⟨nodes, sent₃, sent₄, rfl, hnodes, hdone⟩
  · cases he
  obtain ⟨rfl, hdecoded⟩ := hnodes.of_ofExcept
  cases hdone
  exact ⟨walked, reply, rfl, hwalk, hreply, hdecoded.symm⟩

/-- What a search for some entry points has sent when it succeeds. -/
theorem exchange_of_search (hentry : w.entrypoints ≠ []) (h : ((search s w).run p).1 = .ok g) :
    ∃ walked reply, data ((search s w).sent p) =
        walked ++ [⟨nodesStatement w.tenant (touched w.entrypoints g.edges), reply⟩] ∧
      (walk w).Exchange walked (.ok g.edges) ∧ reply.failure? = none ∧
      decodeAll (previewOfRow s.graph.previewChars.toNat) reply.resultRows = .ok g.nodes := by
  have hsends := (@search_sends s 0 w).mono fun _ => Call.Issued.isData
  have hexchange := Operation.exchange hsends p
  rw [h] at hexchange
  exact search_exchange hentry hexchange

/-- **What an answered search has sent, and what it answers.**  A walk is sent if it may have hops
and results.  Then the nodes at the entry points and at the ends of the edges are asked for, each
once and by ascending bytes.  The answer has the rows of both replies in order, the nodes with their
content cut. -/
theorem search_answer (hentry : w.entrypoints ≠ []) (h : ((search s w).run p).1 = .ok g) :
    ∃ walked ids reply nodes,
      data ((search s w).sent p) = walked ++ [⟨nodesStatement w.tenant ids, reply⟩] ∧
      (nodesStatement w.tenant ids).binds = [.text w.tenant, .textArray ids] ∧
      Walked w walked g.edges ∧
      ((∃ x ∈ (search s w).sent p, x.statement.isWalk = true) ↔
        0 < w.maxHops ∧ 0 < w.maxResults) ∧
      (ids.map Text.bytes).Pairwise (· < ·) ∧
      (∀ id, id ∈ ids ↔
        id ∈ w.entrypoints ∨ ∃ x ∈ g.edges, id = x.edge.source ∨ id = x.edge.target) ∧
      reply.failure? = none ∧
      List.Forall₂ (fun row n => Node.ofRow row = .ok n) reply.resultRows nodes ∧
      g.nodes = nodes.map fun n =>
        { n with content := String.ofList (n.content.toList.take s.graph.previewChars.toNat) } := by
  obtain ⟨walked, reply, hdata, hwalk, hreply, hdecode⟩ := exchange_of_search hentry h
  obtain ⟨nodes, hrows, hnodes⟩ := decode_previews hdecode
  have hwalked := walked_of_exchange hwalk
  refine ⟨walked, _, reply, nodes, hdata, rfl, hwalked, ?_, Text.ascending_bytes _,
    fun id => mem_touched, hreply, hrows, hnodes⟩
  have hnodes (ids : List String) : walks [⟨nodesStatement w.tenant ids, reply⟩] = [] := by
    simp [walks, isWalk_nodesStatement]
  rw [exists_walk_iff, ← walks_data, hdata, walks_append, hnodes, List.append_nil]
  exact hwalked.walks_ne_nil_iff

/-- A walk of one hop along any relation, and settings that cut content to four characters. -/
def oneHop : Walk := ⟨"acme", ["c1"], 1, some [], 10⟩

def briefly : StoreSettings := { StoreSettings.default with graph.previewChars := 4 }

/-- A server that answers it with an edge at a depth below zero, and then with a node. -/
def oneHopPool : Pool Replies :=
  Pool.replying [.done 0, .done 0, .done 0, .done 0, .done 0,
    .rows [⟨[("source_id", .text "c1"), ("target_id", .text "c2"), ("relation", .text "cites"),
      ("depth", .int4 (-1)), ("weight", .float8 1.0), ("metadata", .jsonb (.obj []))]⟩],
    .rows [⟨[("id", .text "c2"), ("tenant_id", .text "acme"), ("user_id", .null),
      ("node_kind", .text "chunk"), ("source_type", .null), ("source_id", .null),
      ("title", .null), ("content", .text "Rustacean"), ("struct_data", .jsonb (.obj [])),
      ("keywords_text", .null), ("content_hash", .null), ("taxonomy_path", .null),
      ("created_at", .null)]⟩]]

/-- The edge at depth zero and the node with its first characters are the answer. -/
theorem search_answer_oneHop :
    ((search briefly oneHop).run oneHopPool).1 =
        .ok ⟨[{ Node.ofContent "c2" .chunk "Rust" with tenant := some "acme" }],
          [⟨⟨some "acme", "c1", "c2", "cites", 1.0, .empty⟩, 0⟩]⟩ ∧
      ∃ walked ids reply,
        data ((search briefly oneHop).sent oneHopPool) =
          walked ++ [⟨nodesStatement "acme" ids, reply⟩] ∧
        (∃ x ∈ (search briefly oneHop).sent oneHopPool, x.statement.isWalk = true) ∧
        ∀ id, id ∈ ids ↔ id = "c1" ∨ id = "c2" := by
  have hanswer : ((search briefly oneHop).run oneHopPool).1 =
      .ok ⟨[{ Node.ofContent "c2" .chunk "Rust" with tenant := some "acme" }],
        [⟨⟨some "acme", "c1", "c2", "cites", 1.0, .empty⟩, 0⟩]⟩ := by
    have hcut : Node.preview "Rustacean" 4 = "Rust" := Node.preview_eq _ _
    rw [← hcut]
    rfl
  obtain ⟨walked, ids, reply, nodes, hdata, -, -, hwalk, -, hids, -⟩ :=
    search_answer (List.cons_ne_nil _ _) hanswer
  refine ⟨hanswer, walked, ids, reply, hdata, hwalk.2 ⟨by decide, by decide⟩, ?_⟩
  simpa [oneHop] using hids

end Graph

end KnowledgeBase
