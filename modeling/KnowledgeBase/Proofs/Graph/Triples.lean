import KnowledgeBase.Proofs.Connection.Beginnings
import KnowledgeBase.Proofs.Graph.Upsert
import KnowledgeBase.Proofs.Graph.Walks

/-!
# The triples of a walk are the edges of a search

A walk can be asked for with the nodes it touches or as bare triples.  Both ways check their input
and settle on a walk by themselves, and the second leaves out what the first needs a connection for
even without a walk.  Here they are kept in step, over one server and over two.

## Main definitions

* `Walk.Proper` — a walk that is sent when the transaction can be opened.

## Main results

* `Graph.walks_search_eq` — over the same server, both ways send the same walk.
* `Graph.facts_agree` — **given the same reply to the walk, the triples are those of the edges.**
-/

namespace KnowledgeBase

open Sql

/-- A walk that is asked for whenever its transaction can be opened. -/
structure Walk.Proper (w : Walk) : Prop where
  tenant : Text.isBlank w.tenant = false
  entrypoints : w.entrypoints ≠ []
  hops : w.maxHops ≠ 0
  results : w.maxResults ≠ 0

/-! ### Walks on a record -/

variable {σ τ α : Type}

theorem Wire.Grows.walks_eq {w w' : Wire σ} (h : w.Grows (fun s => s.isWalk = false) w') :
    walks w'.log = walks w.log := by
  obtain ⟨sent, hlog, hsent⟩ := h
  have hnone : walks sent = [] := by
    rw [walks, List.filter_eq_nil_iff]
    intro e he
    rw [hsent e he]
    exact Bool.false_ne_true
  rw [hlog, walks_append, hnone, List.append_nil]

theorem Wire.Alike.walks_eq {w w' : Wire σ} (h : w.Alike (fun s => s.isWalk = false) w') :
    walks w.log = walks w'.log := by
  obtain ⟨v, hgrows, hgrows'⟩ := h
  rw [hgrows.walks_eq, hgrows'.walks_eq]

/-- Where all walks are the same statement, the replies say it all. -/
theorem Sql.walks_eq_map {st : Statement} {sent : List Sent}
    (h : ∀ e ∈ sent, e.statement.isWalk = true → e.statement = st) :
    walks sent = ((walks sent).map Sent.reply).map fun r => ⟨st, r⟩ := by
  rw [List.map_map]
  refine (List.map_id' _).symm.trans (List.map_congr_left fun e he => ?_)
  obtain ⟨hsent, hwalk⟩ := List.mem_filter.1 he
  rw [Function.comp_apply, ← h e hsent hwalk]

namespace Graph

variable {s : StoreSettings} {w : Walk}

/-! ### What is sent -/

/-- What a search does with the edges of its walk. -/
def readNodes (s : StoreSettings) (w : Walk) (edges : List ReachedEdge) : Work Neighbourhood := do
  let rows ← Work.rows (nodesStatement w.tenant (touched w.entrypoints edges))
  let nodes ← Work.ofExcept (decodeAll (previewOfRow s.graph.previewChars.toNat) rows)
  return ⟨nodes, edges⟩

theorem search_of_proper (h : w.Proper) :
    search s w = .forTenant w.tenant none (walk w >>= readNodes s w) := by
  rw [search, requireTenant_eq_ok.2 h.tenant]
  exact if_neg (by simpa using h.entrypoints)

theorem facts_of_proper (h : w.Proper) :
    facts w = .forTenant w.tenant none
      (walk w >>= fun edges => .done (edges.map fun x => x.edge.triple)) := by
  rw [facts, requireTenant_eq_ok.2 h.tenant]
  exact if_neg (by simp [h.entrypoints, h.hops, h.results])

/-- A walk without hops or results is answered with no edges. -/
theorem walk_of_zero (h : w.maxHops = 0 ∨ w.maxResults = 0) : walk w = .done [] := by
  rw [walk, if_pos (by simpa using h)]

theorem walk_opens {P : Statement → Prop} (h : w.Proper) : (walk w).Opens P w.statement := by
  rw [walk, if_neg (by simp [h.hops, h.results])]
  exact (Work.Opens.rows _).bind fun _ => .ofExcept _

theorem walk_begins (h : w.Proper) : (walk w).Begins := by
  rw [walk, if_neg (by simp [h.hops, h.results])]
  exact ((Work.Begins.send _).bind _).bind _

theorem walk_sends_only (w : Walk) : (walk w).Sends (· = w.statement) := by
  rw [walk]
  split
  · exact .done _
  · have hrows : (Work.rows w.statement).Sends (· = w.statement) := .rows rfl
    exact hrows.bind fun _ => .ofExcept _

theorem readNodes_sends (edges : List ReachedEdge) :
    (readNodes s w edges).Sends fun st => st.isWalk = false :=
  (Work.Sends.rows (isWalk_nodesStatement _ _)).bind fun _ =>
    (Work.Sends.ofExcept _).bind fun _ => .done _

/-- A search sends no walk but its own, and none at all unless that is proper. -/
theorem search_sends_walk (w : Walk) : (search s w).Sends (fun _ => True) fun st =>
    st.isWalk = true → st = w.statement ∧ w.Proper := by
  refine .check fun _ htenant => ?_
  split
  · exact .done _
  · next hentry =>
    refine .forTenant trivial (.bind ?_ fun edges => ?_)
    · by_cases hzero : w.maxHops = 0 ∨ w.maxResults = 0
      · rw [walk_of_zero hzero]
        exact .done _
      · obtain ⟨hhops, hresults⟩ := not_or.1 hzero
        have hproper : w.Proper :=
          ⟨requireTenant_eq_ok.1 htenant, by simpa using hentry, hhops, hresults⟩
        exact (walk_sends_only w).mono fun st hst _ => ⟨hst, hproper⟩
    · refine (readNodes_sends edges).mono fun st hst hwalk => ?_
      rw [hst] at hwalk
      cases hwalk

/-- The same holds where triples are asked for. -/
theorem facts_sends_walk (w : Walk) : (facts w).Sends (fun _ => True) fun st =>
    st.isWalk = true → st = w.statement ∧ w.Proper := by
  refine .check fun _ htenant => ?_
  split
  · exact .done _
  · next hsettled =>
    have hproper : w.Proper := by
      simp only [Bool.or_eq_true, List.isEmpty_iff, decide_eq_true_eq, not_or] at hsettled
      exact ⟨requireTenant_eq_ok.1 htenant, hsettled.1.1, hsettled.1.2, hsettled.2⟩
    exact .forTenant trivial
      (((walk_sends_only w).mono fun st hst _ => ⟨hst, hproper⟩).bind fun _ => .done _)

/-! ### Over one server -/

variable [Server σ] [Server τ] {p : Pool σ} {q : Pool τ}

/-- The walks of a run are those of a record that it adds. -/
theorem walks_run (o : Operation α) (p : Pool σ) :
    walks (o.run p).2.wire.log = walks p.wire.log ++ walks (o.sent p) := by
  rw [o.log_run, walks_append]

theorem isWalk_sent {P : Prop} {o : Operation α}
    (ho : o.Sends (fun _ => True) fun st => st.isWalk = true → st = w.statement ∧ P) (p : Pool σ) :
    ∀ x ∈ o.sent p, x.statement.isWalk = true → x.statement = w.statement ∧ P := by
  refine ho.sent (fun sql h => ?_) (fun id user _ _ h => ?_) p
  · cases h
  · rw [isWalk_contextStatement] at h
    cases h

/-- Without a proper walk none is sent. -/
theorem walks_of_not_proper {o : Operation α}
    (ho : o.Sends (fun _ => True) fun st => st.isWalk = true → st = w.statement ∧ w.Proper)
    (h : ¬ w.Proper) (p : Pool σ) : walks (o.sent p) = [] := by
  rw [walks, List.filter_eq_nil_iff]
  intro x hx hwalk
  exact h (isWalk_sent ho p x hx hwalk).2

/-- **Over the same server, both ways send the same walk, and get the same reply to it.** -/
theorem walks_search_eq (w : Walk) (p : Pool σ) :
    walks ((search s w).sent p) = walks ((facts w).sent p) := by
  by_cases hproper : w.Proper
  · -- what comes after the walk differs, but sends no walk
    have halike : ((search s w).run p).2.wire.Alike (fun st => st.isWalk = false)
        ((facts w).run p).2.wire := by
      rw [search_of_proper hproper, facts_of_proper hproper, Operation.run_forTenant,
        Operation.run_forTenant]
      exact Pool.perform_alike Statement.isWalk_simple
        ((walk_opens hproper).bind fun edges => readNodes_sends edges)
        ((walk_opens hproper).bind fun _ => .done _) _ p
    have hwalks := halike.walks_eq
    rw [walks_run, walks_run] at hwalks
    exact List.append_cancel_left hwalks
  · rw [walks_of_not_proper (search_sends_walk w) hproper,
      walks_of_not_proper (facts_sends_walk w) hproper]

/-! ### Over two servers -/

/-- Replies to walks determine what was sent. -/
theorem walks_eq_of_replies
    (h : (walks ((search s w).sent p)).map Sent.reply = (walks ((facts w).sent q)).map Sent.reply) :
    walks ((search s w).sent p) = walks ((facts w).sent q) := by
  rw [walks_eq_map fun x hx hwalk => (isWalk_sent (search_sends_walk w) p x hx hwalk).1,
    walks_eq_map fun x hx hwalk => (isWalk_sent (facts_sends_walk w) q x hx hwalk).1, h]

/-- A search that succeeds with a proper walk got rows for it. -/
theorem walks_of_search {g : Neighbourhood} (hproper : w.Proper)
    (h : ((search s w).run p).1 = .ok g) :
    ∃ r, walks ((search s w).sent p) = [⟨w.statement, r⟩] ∧ r.failure? = none ∧
      decodeAll (ReachedEdge.ofRow w.tenant) r.resultRows = .ok g.edges := by
  obtain ⟨walked, reply, hdata, hwalk, -, -⟩ := exchange_of_search hproper.entrypoints h
  rcases walk_exchange hproper.hops hproper.results hwalk with ⟨-, e, he⟩ | ⟨r, rfl, hanswer⟩
  · cases he
  · refine ⟨r, ?_, ?_⟩
    · rw [← walks_data, hdata]
      simp [walks, isWalk_nodesStatement, (asks_statement w).isWalk]
    · cases hreply : r.failure? with
      | some f =>
        rw [hreply] at hanswer
        cases hanswer
      | none =>
        rw [hreply] at hanswer
        exact ⟨rfl, hanswer.symm⟩

/-- The rows of a proper walk are its answer. -/
theorem walk_answer (hproper : w.Proper) {sent : List Sent} {r : Reply} {edges : List ReachedEdge}
    {answer : Except StoreError (List ReachedEdge)} (h : (walk w).Exchange sent answer)
    (hwalks : walks sent = [⟨w.statement, r⟩]) (hreply : r.failure? = none)
    (hedges : decodeAll (ReachedEdge.ofRow w.tenant) r.resultRows = .ok edges) :
    answer = .ok edges := by
  rcases walk_exchange hproper.hops hproper.results h with ⟨rfl, -⟩ | ⟨r', rfl, hanswer⟩
  · cases hwalks
  · have hsame : r' = r := by simpa [walks, (asks_statement w).isWalk] using hwalks
    rw [hanswer, hsame, hreply]
    exact hedges

/-- Where triples are asked for with a proper walk and the commit does not fail, the rows of the
walk are answered. -/
theorem facts_of_walks (hproper : w.Proper) (hq : q.AtRest)
    (hcommit : ∀ x ∈ (facts w).sent q, x.NoFailedCommit) {r : Reply} {edges : List ReachedEdge}
    (hwalks : walks ((facts w).sent q) = [⟨w.statement, r⟩]) (hreply : r.failure? = none)
    (hedges : decodeAll (ReachedEdge.ofRow w.tenant) r.resultRows = .ok edges) :
    ((facts w).run q).1 = .ok (edges.map fun x => x.edge.triple) := by
  have hadds : q.wire.Adds Sent.NoFailedCommit ((facts w).run q).2.wire :=
    ⟨_, (facts w).log_run q, hcommit⟩
  have hdata : (walk w).Sends fun st => st.isData = true := by
    refine (walk_sends_only w).mono fun st hst => ?_
    rw [hst]
    exact Statement.isData_of_isWalk (asks_statement w).isWalk
  rw [facts_of_proper hproper, Operation.run_forTenant] at hadds
  obtain ⟨sent, hlog, hcases⟩ := Pool.perform_committed
    ((walk_begins hproper).bind _) (hdata.bind fun _ => .done _)
    ((walk_faithful w).bind fun _ => .done _) hq w.tenant none hadds
  rw [← Operation.run_forTenant, ← facts_of_proper hproper] at hlog hcases
  rw [(facts w).log_run q, data_append] at hlog
  rw [← walks_data, List.append_cancel_left hlog] at hwalks
  -- a walk is on the record, so that the work was begun, and the walk in it decides
  rcases hcases with ⟨rfl, -⟩ | hexchange
  · cases hwalks
  · rcases hexchange.of_bind with ⟨e, -, hfailed⟩ | ⟨edges', sent₁, sent₂, rfl, hwalk, hdone⟩
    · cases walk_answer hproper hfailed hwalks hreply hedges
    · generalize ((facts w).run q).1 = answer at *
      cases hdone
      rw [List.append_nil] at hwalks
      cases walk_answer hproper hwalk hwalks hreply hedges
      rfl

/-- A search that succeeds has passed its check. -/
theorem tenant_of_search {g : Neighbourhood} (h : ((search s w).run p).1 = .ok g) :
    Text.isBlank w.tenant = false := by
  cases htenant : requireTenant w.tenant with
  | error e =>
    rw [search, htenant] at h
    cases h
  | ok _ => exact requireTenant_eq_ok.1 htenant

/-- Without entry points, hops or results there are no triples. -/
theorem facts_of_settled (htenant : Text.isBlank w.tenant = false)
    (h : w.entrypoints = [] ∨ w.maxHops = 0 ∨ w.maxResults = 0) :
    ((facts w).run q).1 = .ok [] := by
  have hfacts : facts w = .done [] := by
    rw [facts, requireTenant_eq_ok.2 htenant]
    exact if_pos (by simpa [or_assoc] using h)
  rw [hfacts]
  rfl

/-- And a search that succeeds has no edges. -/
theorem edges_of_settled {g : Neighbourhood} (h : ((search s w).run p).1 = .ok g)
    (hsettled : w.entrypoints = [] ∨ w.maxHops = 0 ∨ w.maxResults = 0) : g.edges = [] := by
  by_cases hentry : w.entrypoints = []
  · rw [search, requireTenant_eq_ok.2 (tenant_of_search h), hentry] at h
    cases h
    rfl
  · obtain ⟨walked, reply, -, hwalk, -, -⟩ := exchange_of_search hentry h
    rw [walk_of_zero (hsettled.resolve_left hentry)] at hwalk
    generalize g.edges = edges at hwalk ⊢
    cases hwalk
    rfl

/-- **The triples of a walk are those of the edges of a search**, in the same order and as often.
Over one server both ways send the same walk, or none.  Over two servers that give the same replies
to the walks, what was sent is the same; and when the search succeeds, so does the other way unless
its commit fails. -/
theorem facts_agree (hq : q.Reachable s) :
    walks ((search s w).sent p) = walks ((facts w).sent p) ∧
      ((walks ((search s w).sent p)).map Sent.reply = (walks ((facts w).sent q)).map Sent.reply →
        walks ((search s w).sent p) = walks ((facts w).sent q) ∧
        ∀ g, ((search s w).run p).1 = .ok g → (∀ x ∈ (facts w).sent q, x.NoFailedCommit) →
          ((facts w).run q).1 =
            .ok (g.edges.map fun x => ⟨x.edge.source, x.edge.relation, x.edge.target⟩)) := by
  refine ⟨walks_search_eq w p, fun hreplies => ?_⟩
  have hwalks := walks_eq_of_replies hreplies
  refine ⟨hwalks, fun g h hcommit => ?_⟩
  have htenant := tenant_of_search h
  -- the search reads nodes even without a walk, where no triples need a connection
  by_cases hsettled : w.entrypoints = [] ∨ w.maxHops = 0 ∨ w.maxResults = 0
  · rw [edges_of_settled h hsettled]
    exact facts_of_settled htenant hsettled
  · simp only [not_or] at hsettled
    have hproper : w.Proper := ⟨htenant, hsettled.1, hsettled.2.1, hsettled.2.2⟩
    obtain ⟨r, hwalk, hreply, hedges⟩ := walks_of_search hproper h
    rw [hwalks] at hwalk
    exact facts_of_walks hproper hq.atRest hcommit hwalk hreply hedges

/-- A server that answers the walk of one hop with the same statement twice. -/
def echoing : Pool Replies :=
  let row : Row := ⟨[("source_id", .text "c1"), ("target_id", .text "c2"),
    ("relation", .text "cites"), ("depth", .int4 1), ("weight", .float8 1.0),
    ("metadata", .jsonb (.obj []))]⟩
  Pool.replying [.done 0, .done 0, .done 0, .done 0, .done 0, .rows [row, row]]

/-- The triple is answered as often as the edge is found. -/
theorem facts_agree_echoing :
    echoing.Reachable .default ∧
      ((facts oneHop).run echoing).1 = .ok [⟨"c1", "cites", "c2"⟩, ⟨"c1", "cites", "c2"⟩] := by
  have hopened : echoing.Reachable .default := .opened _
  obtain ⟨hwalks, hagree⟩ := @facts_agree _ _ _ oneHop _ _ echoing _ hopened
  have hreplies := congrArg (List.map Sent.reply) hwalks
  have hanswered : ((facts oneHop).sent echoing).all (fun x => x.reply.failure?.isNone) = true :=
    rfl
  have hcommit : ∀ x ∈ (facts oneHop).sent echoing, x.NoFailedCommit := by
    rw [List.all_eq_true] at hanswered
    exact fun x hx _ => Option.isNone_iff_eq_none.1 (hanswered x hx)
  obtain ⟨-, htriples⟩ := hagree hreplies
  exact ⟨hopened, htriples _ rfl hcommit⟩

end Graph

end KnowledgeBase
