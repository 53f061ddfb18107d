import KnowledgeBase.Proofs.Connection.Delivery
import KnowledgeBase.Proofs.Store.Categories
import KnowledgeBase.Proofs.Store.Rows
import KnowledgeBase.Proofs.Store.Writes

/-!
# Nodes and edges written in order

A call that writes a graph sends one statement for each node and then one for each edge, and stops
at the first that fails or affects no row.  It succeeds when all of them affect a row and are
committed, unless the savepoint of its context was refused: then nothing is committed, and the call
succeeds all the same.

## Main definitions

* `Node.cells`, `Edge.cells` — the columns that a call for a tenant fills.
* `Graph.Element`, `Graph.elements` — what is to be written, nodes before edges.
* `Graph.Wrote` — what comes of writing elements in order.
* `Graph.Complete` — every element was written.
* `Graph.InOrder` — what a call that writes a graph sends, and its error.

## Main results

* `Graph.Wrote.eq_ok_iff` — elements are written when each of them affects a row.
* `Graph.wrote_of_delivered` — a graph is written element by element.
* `Graph.upsert_commits_iff` — **a graph is written in order, and when success means a commit.**
-/

namespace KnowledgeBase

open Sql

/-- The columns of a node that a call for a tenant fills.  A node without a user gets that of the
call. -/
def Node.cells (tenant : String) (user : Option String) (n : Node) : List (String × Value) :=
  [("id", toValue n.id), ("tenant_id", toValue tenant), ("user_id", toValue (n.user.or user)),
    ("node_kind", toValue n.kind.name), ("source_type", toValue n.sourceType),
    ("source_id", toValue n.sourceId), ("title", toValue n.title), ("content", toValue n.content),
    ("struct_data", toValue n.metadata), ("keywords_text", toValue n.keywords),
    ("content_hash", toValue n.contentHash),
    ("taxonomy_path", toValue (n.path.map LabelPath.text)), ("embedding", toValue n.embedding)]

/-- The columns of an edge that a call for a tenant fills. -/
def Edge.cells (tenant : String) (e : Edge) : List (String × Value) :=
  [("tenant_id", toValue tenant), ("source_id", toValue e.source),
    ("target_id", toValue e.target), ("relation", toValue e.relation),
    ("weight", toValue e.weight), ("metadata", toValue e.metadata)]

/-- A statement that failed affects no row. -/
theorem Sql.Reply.affected_of_failure? {r : Reply} {f : Failure}
    (h : r.failure? = some f) : r.affected = 0 := by
  cases r with
  | done n => cases h
  | rows rows => cases h
  | error code message => rfl
  | lost => rfl

namespace Graph

/-! ### Elements -/

/-- A node or an edge to be written: its statement, and why the call fails if no row is affected. -/
structure Element where
  statement : Statement
  refusal : Refusal

/-- A node, which is refused if its id is another tenant's. -/
def Element.ofNode (tenant : String) (user : Option String) (n : Node) : Element :=
  ⟨nodeStatement tenant user n, .nodeTaken n.id⟩

/-- An edge, which is refused if one of its nodes is not the tenant's. -/
def Element.ofEdge (tenant : String) (e : Edge) : Element :=
  ⟨edgeStatement tenant e, .unlinkedEdge e.source e.relation e.target tenant⟩

/-- The nodes in order, and then the edges in order. -/
def elements (tenant : String) (user : Option String) (nodes : List Node) (edges : List Edge) :
    List Element :=
  nodes.map (.ofNode tenant user) ++ edges.map (.ofEdge tenant)

/-- Elements are written one after the other, up to the first whose statement fails or affects no
row. -/
inductive Wrote : List Element → List Sent → Except StoreError Unit → Prop where
  | all : Wrote [] [] (.ok ())
  | failed {x : Element} {rest : List Element} {r : Reply} {f : Failure}
    (hreply : r.failure? = some f) : Wrote (x :: rest) [⟨x.statement, r⟩] (.error f.classify)
  | ineffective {x : Element} {rest : List Element} {r : Reply} (hreply : r.failure? = none)
    (hnone : r.affected = 0) : Wrote (x :: rest) [⟨x.statement, r⟩] (.error x.refusal.toError)
  | effective {x : Element} {rest : List Element} {r : Reply} {done : List Sent}
    {answer : Except StoreError Unit} (hsome : 0 < r.affected) (hrest : Wrote rest done answer) :
    Wrote (x :: rest) (⟨x.statement, r⟩ :: done) answer

/-- Every element was written, and affected a row. -/
def Complete (plan : List Element) (done : List Sent) : Prop :=
  done.map Sent.statement = plan.map Element.statement ∧ ∀ x ∈ done, 0 < x.reply.affected

namespace Wrote

variable {plan : List Element} {done : List Sent} {answer : Except StoreError Unit}

/-- What is sent is the beginning of what is to be written. -/
theorem statements_isPrefix (h : Wrote plan done answer) :
    done.map Sent.statement <+: plan.map Element.statement := by
  induction h with
  | all => exact List.prefix_rfl
  | failed _ => exact List.cons_prefix_cons.2 ⟨rfl, List.nil_prefix⟩
  | ineffective _ _ => exact List.cons_prefix_cons.2 ⟨rfl, List.nil_prefix⟩
  | effective _ _ ih => exact List.cons_prefix_cons.2 ⟨rfl, ih⟩

/-- **Elements are written when each of them affects a row.** -/
theorem eq_ok_iff (h : Wrote plan done answer) : answer = .ok () ↔ Complete plan done := by
  induction h with
  | all => exact ⟨fun _ => ⟨rfl, nofun⟩, fun _ => rfl⟩
  | failed hreply =>
    refine ⟨nofun, ?_⟩
    rintro ⟨-, heffective⟩
    have hsome := heffective _ (List.mem_singleton_self _)
    rw [Reply.affected_of_failure? hreply] at hsome
    cases hsome
  | ineffective hreply hnone =>
    refine ⟨nofun, ?_⟩
    rintro ⟨-, heffective⟩
    have hsome := heffective _ (List.mem_singleton_self _)
    rw [hnone] at hsome
    cases hsome
  | effective hsome _ ih =>
    rw [ih, Complete, Complete, List.map_cons, List.map_cons, List.cons_inj_right,
      List.forall_mem_cons]
    exact and_congr_right fun _ => (and_iff_right hsome).symm

/-- Writing goes on behind an element when that affects a row. -/
theorem cons {x : Element} {rest : List Element} {w : Work Unit}
    (h : (sendEffective x.statement x.refusal >>= fun _ => w).Delivered done answer)
    (hrest : ∀ done answer, w.Delivered done answer → Wrote rest done answer) :
    Wrote (x :: rest) done answer := by
  cases h with
  | sent r hnext =>
    cases hreply : r.failure? with
    | some f =>
      rw [Reply.outcome, hreply] at hnext
      cases hnext
      exact .failed hreply
    | none =>
      rw [Reply.outcome_of_failure? hreply] at hnext
      change ((if r.affected = 0 then Work.fail x.refusal.toError else Work.done ()) >>=
        fun _ => w).Delivered _ _ at hnext
      split at hnext
      · next hnone =>
        cases hnext
        exact .ineffective hreply hnone
      · next hsome => exact .effective (Nat.pos_of_ne_zero hsome) (hrest _ _ hnext)

end Wrote

variable {tenant : String} {user : Option String} {nodes : List Node} {edges : List Edge}

theorem wrote_edges {done : List Sent} {answer : Except StoreError Unit}
    (h : (writeEdges tenant edges).Delivered done answer) :
    Wrote (edges.map (.ofEdge tenant)) done answer := by
  induction edges generalizing done answer with
  | nil =>
    cases h
    exact .all
  | cons e rest ih => exact Wrote.cons h fun _ _ => ih

/-- **A graph is written element by element**, whatever the replies. -/
theorem wrote_of_delivered {done : List Sent} {answer : Except StoreError Unit}
    (h : (writeNodes tenant user nodes >>= fun _ =>
      writeEdges tenant edges).Delivered done answer) :
    Wrote (elements tenant user nodes edges) done answer := by
  induction nodes generalizing done answer with
  | nil => exact wrote_edges h
  | cons n rest ih =>
    rw [writeNodes, Work.bind_assoc] at h
    exact Wrote.cons h fun _ _ => ih

theorem Element.ofNode_written (tenant : String) (user : Option String) (n : Node) :
    (ofNode tenant user n).statement.written = n.cells tenant user :=
  nodeStatement_written tenant user n

theorem Element.ofEdge_written (tenant : String) (e : Edge) :
    (ofEdge tenant e).statement.written = e.cells tenant :=
  edgeStatement_written tenant e

/-- Each element is bound with its own fields. -/
theorem elements_written (tenant : String) (user : Option String) (nodes : List Node)
    (edges : List Edge) :
    (elements tenant user nodes edges).map (fun x => x.statement.written) =
      nodes.map (Node.cells tenant user) ++ edges.map (Edge.cells tenant) := by
  simp only [elements, List.map_append, List.map_map, Function.comp_def, Element.ofNode_written,
    Element.ofEdge_written]

theorem Wrote.written_isPrefix {done : List Sent} {answer : Except StoreError Unit}
    (h : Wrote (elements tenant user nodes edges) done answer) :
    done.map (fun x => x.statement.written) <+:
      nodes.map (Node.cells tenant user) ++ edges.map (Edge.cells tenant) := by
  have hprefix := h.statements_isPrefix.map Statement.written
  rw [List.map_map, List.map_map] at hprefix
  exact elements_written tenant user nodes edges ▸ hprefix

/-! ### The call -/

variable {σ : Type} [Server σ] {s : StoreSettings} {p : Pool σ}

theorem not_isEmpty_of_some (hsome : nodes ≠ [] ∨ edges ≠ []) :
    ¬ (nodes.isEmpty && edges.isEmpty) = true := by
  rw [Bool.and_eq_true, List.isEmpty_iff, List.isEmpty_iff]
  rintro ⟨hnodes, hedges⟩
  exact hsome.elim (absurd hnodes) (absurd hedges)

/-- A call that passes its checks and has something to write is work in a transaction of its own. -/
theorem upsert_of_valid (hvalid : validate s.dimension tenant nodes edges = .ok ())
    (hsome : nodes ≠ [] ∨ edges ≠ []) :
    upsert s tenant user nodes edges = .forTenant tenant user
      (writeNodes tenant user nodes >>= fun _ => writeEdges tenant edges) := by
  rw [upsert, hvalid]
  exact if_neg (not_isEmpty_of_some hsome)

theorem elements_ne_nil (hsome : nodes ≠ [] ∨ edges ≠ []) :
    elements tenant user nodes edges ≠ [] := by
  intro hnil
  obtain ⟨hnodes, hedges⟩ := List.append_eq_nil_iff.1 hnil
  exact hsome.elim (absurd (List.map_eq_nil_iff.1 hnodes)) (absurd (List.map_eq_nil_iff.1 hedges))

end Graph

/-- Work in a transaction of its own is all that such an operation does. -/
theorem Operation.run_forTenant {σ α : Type} [Server σ] (tenant : String) (user : Option String)
    (w : Work α) (p : Pool σ) :
    (Operation.forTenant tenant user w).run p = p.perform (.tenant tenant user .commit) w := by
  rw [forTenant, run]
  obtain ⟨e | a, p'⟩ := p.perform (.tenant tenant user .commit) w
  · rfl
  · rfl

namespace Graph

variable {tenant : String} {user : Option String} {nodes : List Node} {edges : List Edge}
  {σ : Type} [Server σ] {s : StoreSettings} {p : Pool σ}

/-- A graph is written in order: the context goes ahead of the elements, then come the elements up
to the first that is not written, each bound with its own fields, and then no further statement with
values. -/
structure InOrder (p : Pool σ) (tenant : String) (user : Option String) (nodes : List Node)
    (edges : List Edge) (lead done tail : List Sent) (result : Except StoreError Unit) : Prop where
  ahead : ∀ x ∈ lead, x.statement.Ahead tenant user
  behind : ∀ x ∈ tail, x.statement.IsText
  bound : done.map (fun x => x.statement.written) <+:
    nodes.map (Node.cells tenant user) ++ edges.map (Edge.cells tenant)
  /-- Something fails before the first element, or the error is that of the first element that is
  not written. -/
  outcome : (done = [] ∧ (∃ e, result = .error e) ∧
      ((∃ x ∈ lead, ¬ x.Answered) ∨ ∃ f, p.acquire.1 = .error f)) ∨
    ∃ answer, Wrote (elements tenant user nodes edges) done answer ∧
      ∀ e, answer = .error e → result = .error e

/-- **A graph is written in order, and when success means a commit.**  The context is set ahead of
the elements exactly if its savepoint is not refused.  The call succeeds just when every element
affects a row and a commit succeeds, unless every element affects a row though the savepoint was
refused. -/
theorem upsert_commits_iff (hp : p.Reachable s)
    (hvalid : validate s.dimension tenant nodes edges = .ok ())
    (hsome : nodes ≠ [] ∨ edges ≠ []) :
    ∃ lead done tail, (upsert s tenant user nodes edges).sent p = lead ++ done ++ tail ∧
      InOrder p tenant user nodes edges lead done tail
        ((upsert s tenant user nodes edges).run p).1 ∧
      (done ≠ [] → ((∃ x ∈ lead, x.statement = contextStatement tenant user) ↔
        ∀ x ∈ lead, ¬ x.RefusesSavepoint)) ∧
      ((((upsert s tenant user nodes edges).run p).1 = .ok () ↔
          Complete (elements tenant user nodes edges) done ∧ ∃ x ∈ tail, x.Commits) ↔
        (Complete (elements tenant user nodes edges) done → ∀ x ∈ lead, ¬ x.RefusesSavepoint)) := by
  obtain ⟨lead, done, tail, hlog, hlead, htail, hcases⟩ :=
    Pool.transacted (writes_faithful tenant user nodes edges) hp.atRest
      (writes_begins (not_isEmpty_of_some hsome)) tenant user
  rw [← Operation.run_forTenant, ← upsert_of_valid hvalid hsome] at hlog hcases
  refine ⟨lead, done, tail, Operation.sent_eq hlog, ?_⟩
  have hinOrder {answer result : Except StoreError Unit}
      (hwrote : Wrote (elements tenant user nodes edges) done answer)
      (herror : ∀ e, answer = .error e → result = .error e) :
      InOrder p tenant user nodes edges lead done tail result :=
    ⟨hlead, htail, hwrote.written_isPrefix, .inr ⟨answer, hwrote, herror⟩⟩
  have huncommitted (hcommit : ∀ x ∈ tail, ¬ x.Commits) : ¬ ∃ x ∈ tail, x.Commits := by
    rintro ⟨x, hx, hcommits⟩
    exact hcommit x hx hcommits
  generalize ((upsert s tenant user nodes edges).run p).1 = result at *
  cases hcases with
  | unsent e hcause =>
    have hincomplete : ¬ Complete (elements tenant user nodes edges) [] := by
      rintro ⟨hall, -⟩
      exact elements_ne_nil hsome (List.map_eq_nil_iff.1 hall.symm)
    refine ⟨⟨hlead, htail, List.nil_prefix, .inl ⟨rfl, ⟨e, rfl⟩, hcause⟩⟩, absurd rfl, ?_⟩
    exact iff_of_true (iff_of_false nofun fun h => hincomplete h.1) fun h => absurd h hincomplete
  | committed hcontext hsavepoint hdone hcommit =>
    have hwrote := wrote_of_delivered hdone
    have hcomplete := hwrote.eq_ok_iff.1 rfl
    refine ⟨hinOrder hwrote nofun, fun _ => iff_of_true hcontext hsavepoint, ?_⟩
    exact iff_of_true (iff_of_true rfl ⟨hcomplete, hcommit⟩) fun _ => hsavepoint
  | undone hcontext hsavepoint hdone herror hcommit =>
    have hwrote := wrote_of_delivered hdone
    refine ⟨hinOrder hwrote fun e he => congrArg _ (herror e he),
      fun _ => iff_of_true hcontext hsavepoint, ?_⟩
    exact iff_of_true (iff_of_false nofun fun h => huncommitted hcommit h.2) fun _ => hsavepoint
  | astray hcontext hsavepoint hdone hcommit =>
    have hwrote := wrote_of_delivered hdone
    have hrefused : ¬ ∀ x ∈ lead, ¬ x.RefusesSavepoint := by
      obtain ⟨x, hx, hrefuses⟩ := hsavepoint
      exact fun h => h x hx hrefuses
    refine ⟨hinOrder hwrote fun e he => he, fun _ => iff_of_false ?_ hrefused, ?_⟩
    · rintro ⟨x, hx, hset⟩
      exact hcontext x hx hset
    · -- what is written is the answer, and there is no commit
      rw [hwrote.eq_ok_iff]
      constructor
      · intro h hcomplete
        exact absurd (h.1 hcomplete).2 (huncommitted hcommit)
      · intro h
        exact iff_of_false (fun hcomplete => hrefused (h hcomplete))
          fun hboth => huncommitted hcommit hboth.2

/-- A concept to write, and an edge from it to itself. -/
def rust : Node := .ofContent "c:rust" .concept "Rust"

def selfHosting : Edge := .between "c:rust" "c:rust" "compiles"

/-- When every statement affects a row, the concept and its edge are written and committed. -/
theorem upsert_commits_iff_rust :
    (Pool.replying []).Reachable .default ∧
      validate StoreSettings.default.dimension "acme" [rust] [selfHosting] = .ok () ∧
      [rust] ≠ [] ∧
      ∃ lead done tail,
        (upsert .default "acme" none [rust] [selfHosting]).sent (Pool.replying []) =
          lead ++ done ++ tail ∧
        done.map Sent.statement =
          [nodeStatement "acme" none rust, edgeStatement "acme" selfHosting] ∧
        ∃ x ∈ tail, x.Commits := by
  have hvalid : validate StoreSettings.default.dimension "acme" [rust] [selfHosting] = .ok () := rfl
  have hopened : (Pool.replying []).Reachable .default := .opened _
  obtain ⟨lead, done, tail, hsent, -, -, hcommits⟩ :=
    @upsert_commits_iff "acme" none _ _ _ _ _ _ hopened hvalid (.inl (List.cons_ne_nil _ _))
  have hanswered : ((upsert .default "acme" none [rust] [selfHosting]).sent
      (Pool.replying [])).all (fun x => x.reply.failure?.isNone) = true := rfl
  have hnone : ∀ x ∈ lead, ¬ x.RefusesSavepoint := by
    rintro x hx ⟨-, code, message, hrefused⟩
    rw [hsent, List.all_append, List.all_append] at hanswered
    simp only [Bool.and_eq_true, List.all_eq_true] at hanswered
    have hreply := hanswered.1.1 x hx
    rw [hrefused] at hreply
    cases hreply
  obtain ⟨hcomplete, hcommit⟩ := (hcommits.2 fun _ => hnone).1 rfl
  exact ⟨hopened, hvalid, List.cons_ne_nil _ _, lead, done, tail, hsent, hcomplete.1, hcommit⟩

/-- A server that refuses the savepoint of the first context. -/
def refusingSavepoint : Pool Replies :=
  Pool.replying [.done 0, .done 0, .error "53200" "out of memory"]

/-- **A refused savepoint makes success mean nothing.**  The driver sends a roll-back ahead of the
concept, which is then written outside of any transaction, and the call succeeds without a
commit. -/
theorem not_upsert_commits_rust :
    ((upsert .default "acme" none [rust] []).run refusingSavepoint).1 = .ok () ∧
      (upsert .default "acme" none [rust] []).sent refusingSavepoint =
        [⟨.simple (Schema.searchPath StoreSettings.default.schema), .done 0⟩,
          ⟨.simple "BEGIN", .done 0⟩,
          ⟨.simple (Link.beginText 1), .error "53200" "out of memory"⟩,
          ⟨.simple "ROLLBACK", .done 1⟩, ⟨nodeStatement "acme" none rust, .done 1⟩] ∧
      ∀ x ∈ (upsert .default "acme" none [rust] []).sent refusingSavepoint, ¬ x.Commits := by
  have hsent : (upsert .default "acme" none [rust] []).sent refusingSavepoint =
    [⟨.simple (Schema.searchPath StoreSettings.default.schema), .done 0⟩,
      ⟨.simple "BEGIN", .done 0⟩, ⟨.simple (Link.beginText 1), .error "53200" "out of memory"⟩,
      ⟨.simple "ROLLBACK", .done 1⟩, ⟨nodeStatement "acme" none rust, .done 1⟩] := rfl
  refine ⟨rfl, hsent, ?_⟩
  rw [hsent]
  have hpath := Statement.searchPath_ne StoreSettings.default.schema "COMMIT" (by decide)
  have hnode (sql : String) : nodeStatement "acme" none rust ≠ .simple sql := by
    intro h
    cases h
  simp [Sent.Commits, hnode, hpath, Reply.failure?]

end Graph

end KnowledgeBase
