import KnowledgeBase.Proofs.Connection.Served
import KnowledgeBase.Proofs.Search.Pipeline
import KnowledgeBase.Proofs.Store.Stored

/-!
# What is written is what is read back

Between a write and a read there is only the row, which the write fills by position and the read
takes apart by name.  If a read is answered with rows that writes have filled, then it answers what
was written.

## Main definitions

* `Operation.ReadsBack`, `Graph.ReadsBack`, `Search.ReadsBack` — a listing, a walk and a search that
  answer what was stored.
* `Pool.answering` — a pool that opens a transaction and then answers rows.

## Main results

* `Operation.ReadsBack.run_answering` — what a listing makes of rows that are answered.
* `Call.reads_back` — every read of entities answers what was written.
-/

namespace KnowledgeBase

open Sql

variable {α β σ : Type} {s : StoreSettings}

/-! ### Reads -/

variable [Server σ] {p : Pool σ}

/-- A run for a tenant in which no statement fails is served. -/
theorem Call.served {c : Call} {tenant : String} (h : c.tenant? = some tenant) (hp : p.AtRest)
    (hanswered : ∀ e ∈ (c.operation s).sent p, e.Answered) :
    (c.operation s).Served (data ((c.operation s).sent p)) ((c.operation s).run p).1 :=
  Operation.served ((sends_issued s h).mono fun _ => Issued.isData) hp hanswered

/-! ### Listings -/

/-- When no statement fails, a listing that is answered with rows of entities answers these
entities, in the order of the rows. -/
def Operation.ReadsBack (o : Operation (List α)) (p : Pool σ) (stored : Row → α → Prop) : Prop :=
  ∀ st rows xs, (∀ e ∈ o.sent p, e.Answered) → data (o.sent p) = [⟨st, .rows rows⟩] →
    List.Forall₂ stored rows xs → (o.run p).1 = .ok xs

theorem Operation.Lists.readsBack {o : Operation (List α)} {stored : Row → α → Prop}
    {decode : Row → Except StoreError α} (h : o.Lists (decodeAll decode))
    (hserved : (∀ e ∈ o.sent p, e.Answered) → o.Served (data (o.sent p)) (o.run p).1)
    (hdecode : ∀ row x, stored row x → decode row = .ok x) : o.ReadsBack p stored := by
  intro st rows xs hanswered hdata hrows
  have hserved := hserved hanswered
  rw [hdata] at hserved
  rw [h st rows _ hserved]
  exact decodeAll_eq_ok (hrows.imp hdecode)

section Listings

variable {tenant user : String}

theorem Memory.recentEpisodes_lists {limit : UInt32} :
    (recentEpisodes tenant user limit).Lists (decodeAll episodeOfRow) := by
  refine .check fun _ => .check fun _ => ?_
  split
  · exact .done []
  · exact .reading

theorem Memory.beliefs_lists : (beliefs tenant user).Lists (decodeAll beliefOfRow) :=
  .check fun _ => .check fun _ => .reading

theorem Catalog.entries_lists {domain : Option Domain} :
    (entries s tenant domain).Lists (decodeAll entryOfRow) :=
  .check fun _ => .check fun _ => .reading

theorem Trace.list_lists {q : Query} : (list q).Lists (decodeAll ofRow) := by
  refine .check fun _ => ?_
  split
  · exact .done []
  · exact .reading

theorem News.recentFacts_lists {limit : UInt32} {since : Option Timestamp} :
    (recentFacts s tenant limit since).Lists (decodeAll factOfRow) := by
  refine .check fun _ => .check fun _ => ?_
  split
  · exact .done []
  · exact .reading

end Listings

/-! ### Walks -/

namespace Graph

/-- A node as a walk answers it. -/
def previewed (s : StoreSettings) (n : Node) : Node :=
  { n with content := Node.preview n.content s.graph.previewChars.toNat }

/-- When no statement fails, a walk that is answered with rows of edges and then with rows of nodes
answers these edges, in the order of the rows, and the nodes with their content cut. -/
def ReadsBack (s : StoreSettings) (w : Walk) (p : Pool σ) : Prop :=
  ∀ st st' edgeRows nodeRows edges nodes, (∀ e ∈ (search s w).sent p, e.Answered) →
    data ((search s w).sent p) = [⟨st, .rows edgeRows⟩, ⟨st', .rows nodeRows⟩] →
    List.Forall₂ (Edge.Stored s w.tenant) edgeRows edges →
    List.Forall₂ (Node.Stored s) nodeRows nodes →
    ((search s w).run p).1 = .ok ⟨nodes.map (previewed s), edges⟩

theorem previewOfRow_eq {row : Row} {n : Node} (h : n.Stored s row) :
    previewOfRow s.graph.previewChars.toNat row = .ok (previewed s n) := by
  rw [previewOfRow, h.ofRow_eq]
  rfl

theorem search_served {w : Walk} {st st' : Statement} {edgeRows nodeRows : List Row}
    {edges : List ReachedEdge} {nodes : List Node} {answer : Except StoreError Neighbourhood}
    (h : (search s w).Served [⟨st, .rows edgeRows⟩, ⟨st', .rows nodeRows⟩] answer)
    (hedges : decodeAll (ReachedEdge.ofRow w.tenant) edgeRows = .ok edges)
    (hnodes : decodeAll (previewOfRow s.graph.previewChars.toNat) nodeRows = .ok nodes) :
    answer = .ok ⟨nodes, edges⟩ := by
  rcases h.of_check with ⟨hnil, -⟩ | ⟨_, -, h⟩
  · cases hnil
  split at h
  · cases h
  rcases h.of_forTenant with ⟨hnil, -⟩ | h
  · cases hnil
  rw [walk] at h
  split at h
  · -- without hops or results there is one statement only
    obtain ⟨r, rest, hsent, h⟩ := Work.Served.of_rows h
    cases hsent
    rcases Work.Served.of_ofExcept h with ⟨hnil, -⟩ | ⟨_, -, h⟩
    · cases hnil
    · cases h
  · rw [Work.bind_assoc] at h
    obtain ⟨r, rest, hsent, h⟩ := Work.Served.of_rows h
    cases hsent
    simp only [Reply.resultRows, hedges] at h
    obtain ⟨r, rest, hsent, h⟩ := Work.Served.of_rows h
    cases hsent
    simp only [Reply.resultRows, hnodes] at h
    cases h
    rfl

theorem readsBack (w : Walk) (hp : p.AtRest) : ReadsBack s w p := by
  intro st st' edgeRows nodeRows edges nodes hanswered hdata hedges hnodes
  have hserved := Call.served (s := s) (c := .searchGraph w) rfl hp hanswered
  have hdecoded : List.Forall₂ (fun row n => previewOfRow s.graph.previewChars.toNat row = .ok n)
      nodeRows (nodes.map (previewed s)) :=
    List.forall₂_map_right_iff.2 (hnodes.imp fun _ _ => previewOfRow_eq)
  change (search s w).Served (data ((search s w).sent p)) ((search s w).run p).1 at hserved
  rw [hdata] at hserved
  exact search_served hserved (decodeAll_eq_ok (hedges.imp fun _ _ => Edge.Stored.ofRow_eq))
    (decodeAll_eq_ok hdecoded)

end Graph

/-! ### Searches -/

namespace Search

open Fusion

/-- When no statement fails, a search whose fetch is answered with rows of nodes answers these nodes
with the scores of the candidates; and if there is one row for each of some candidates, it answers
exactly the nodes of the rows. -/
def ReadsBack (s : StoreSettings) (r : Request) (p : Pool σ) : Prop :=
  ∀ ids rows nodes, (∀ e ∈ (hybrid s r).sent p, e.Answered) →
    ⟨fetchStatement r.tenant ids, .rows rows⟩ ∈ data ((hybrid s r).sent p) →
    List.Forall₂ (Node.Stored s) rows nodes →
    ∃ fused results, ((hybrid s r).run p).1 = .ok results ∧ fused.map Fused.id = ids ∧
      Joined nodes fused results ∧
      ((nodes.map Node.id).Nodup → (∀ n ∈ nodes, n.id ∈ ids) →
        (results.map Result.node).Perm nodes)

/-- A ranking sends its statement, if any, before the rest of an operation. -/
theorem ranking_served {tenant : String} {useful : Bool} {st : Statement}
    {f : List (Hit Float) → Operation β} {sent : List Sent} {answer : Except StoreError β}
    (h : (ranking tenant useful st >>= f).Served sent answer) :
    ∃ ranked rest, sent = ranked ++ rest ∧ (∀ e ∈ ranked, e.statement = st) ∧
      (rest = [] ∨ ∃ hits, (f hits).Served rest answer) := by
  rw [ranking] at h
  split at h
  · change (Operation.forTenant tenant none (Work.rows st) >>= fun rows =>
      (liftM (decodeAll hitOfRow rows) : Operation (List (Hit Float))) >>= f).Served _ _ at h
    rcases h.of_rows with ⟨rfl, -⟩ | ⟨r, rest, rfl, hdecode⟩
    · exact ⟨[], [], rfl, List.forall_mem_nil _, .inl rfl⟩
    · refine ⟨[⟨st, r⟩], rest, rfl, List.forall_mem_singleton.2 rfl, ?_⟩
      rcases hdecode.of_check with ⟨hnil, -⟩ | ⟨hits, -, hrest⟩
      · exact .inl hnil
      · exact .inr ⟨hits, hrest⟩
  · exact ⟨[], sent, rfl, List.forall_mem_nil _, .inr ⟨[], h⟩⟩

/-- A search whose fetch is answered answers what it makes of the rows, or fails to decode them. -/
theorem hybrid_served {r : Request} {ids : List String} {sent : List Sent}
    {answer : Except StoreError (List Result)} (h : (hybrid s r).Served sent answer) {e : Sent}
    (he : e ∈ sent) (hfetch : e.statement = fetchStatement r.tenant ids) :
    ∃ fused : List (Fused Float), fused.map Fused.id = ids ∧ (fused.map Fused.id).Nodup ∧
      answer = (decodeAll Node.ofRow e.reply.resultRows).map fun nodes => join nodes fused := by
  -- a fetch is neither of the rankings, so it is found after them
  have hafter {ranked rest : List Sent} {st : Statement}
      (hst : st = vectorStatement r ∨ st = textStatement r)
      (hranked : ∀ e ∈ ranked, e.statement = st) (hmem : e ∈ ranked ++ rest) : e ∈ rest := by
    refine (List.mem_append.1 hmem).resolve_left fun hmem => ?_
    exact not_ranking_of_fetch hfetch (by rwa [← hranked _ hmem] at hst)
  rw [hybrid] at h
  split at h
  · cases h
    cases he
  split at h
  · cases h
    cases he
  rcases h.of_check with ⟨rfl, -⟩ | ⟨_, -, h⟩
  · cases he
  obtain ⟨ranked, sent, rfl, hranked, h⟩ := ranking_served h
  replace he := hafter (.inl rfl) hranked he
  rcases h with rfl | ⟨vectorHits, h⟩
  · cases he
  obtain ⟨ranked, sent, rfl, hranked, h⟩ := ranking_served h
  replace he := hafter (.inr rfl) hranked he
  rcases h with rfl | ⟨textHits, h⟩
  · cases he
  simp only at h
  split at h
  · cases h
    cases he
  rcases h.of_rows with ⟨rfl, -⟩ | ⟨reply, rest, rfl, hdecode⟩
  · cases he
  have hlast : rest = [] := by
    rcases hdecode.of_check with ⟨hnil, -⟩ | ⟨_, -, hjoin⟩
    · exact hnil
    · cases hjoin
      rfl
  subst hlast
  cases List.mem_singleton.1 he
  refine ⟨_, (fetchStatement_inj hfetch), nodup_fuse .., ?_⟩
  cases hnodes : decodeAll Node.ofRow reply.resultRows with
  | error failure =>
    rw [hnodes] at hdecode
    cases hdecode
    rfl
  | ok nodes =>
    rw [hnodes] at hdecode
    cases hdecode
    rfl

theorem readsBack (r : Request) (hp : p.AtRest) : ReadsBack s r p := by
  intro ids rows nodes hanswered hfetch hrows
  have hserved : (hybrid s r).Served (data ((hybrid s r).sent p)) ((hybrid s r).run p).1 :=
    Call.served (c := .searchHybrid r) rfl hp hanswered
  have hdecoded := decodeAll_eq_ok (hrows.imp fun _ _ => Node.Stored.ofRow_eq)
  obtain ⟨fused, rfl, hfused, hanswer⟩ := hybrid_served hserved hfetch rfl
  have hjoined : Joined nodes fused (join nodes fused) := joined_iff.2 rfl
  rw [Reply.resultRows, hdecoded] at hanswer
  exact ⟨fused, _, hanswer, rfl, hjoined, hjoined.perm hfused⟩

end Search

/-! ### Pools that answer rows -/

/-- What a tenant's transaction records on a new connection that opens it without trouble. -/
def transcript (tenant : String) (user : Option String) (r : Reply) (sent : List Sent) :
    List Sent :=
  [⟨.simple (Schema.searchPath StoreSettings.default.schema), r⟩, ⟨.simple "BEGIN", r⟩,
    ⟨.simple (Link.beginText 1), r⟩, ⟨contextStatement tenant user, r⟩,
    ⟨.simple (Link.commitText 1), r⟩] ++ sent ++ [⟨.simple "COMMIT", .done 1⟩]

theorem data_transcript {tenant : String} {user : Option String} {r : Reply} {sent : List Sent}
    (h : ∀ e ∈ sent, e.statement.isData = true) : data (transcript tenant user r sent) = sent := by
  have hset := (Statement.aside_context tenant user).not_data
  have hsent : data sent = sent := List.filter_eq_self.2 h
  rw [transcript, data_append, data_append, hsent]
  simp [data, hset]

theorem answered_transcript {tenant : String} {user : Option String} {r : Reply}
    {sent : List Sent} (hr : r.failure? = none) (h : ∀ e ∈ sent, e.Answered) :
    ∀ e ∈ transcript tenant user r sent, e.Answered := by
  rw [transcript, List.forall_mem_append, List.forall_mem_append, List.forall_mem_singleton]
  refine ⟨⟨?_, h⟩, rfl⟩
  simp only [List.forall_mem_cons, Sent.Answered]
  exact ⟨hr, hr, hr, hr, hr, List.forall_mem_nil _⟩

/-- A pool that opens a transaction and then answers rows. -/
def Pool.answering (rows : List Row) : Pool Replies :=
  replying [.done 0, .done 0, .done 0, .done 0, .done 0, .rows rows]

/-- What a reading of one statement records on it. -/
theorem Operation.sent_answering {tenant : String} {user : Option String} {st : Statement}
    {rows : List Row} {decode : List Row → Except StoreError α} (hst : st.isData = true) :
    (Operation.forTenant tenant user (Work.rows st) >>= fun rows =>
      (liftM (decode rows) : Operation α)).sent (Pool.answering rows) =
        transcript tenant user (.done 0) [⟨st, .rows rows⟩] := by
  cases st with
  | simple sql => cases hst
  | prepared sql binds =>
    -- nothing depends on the rows until the transaction is over, so that it can be computed
    have hperform : ∃ p', (Pool.answering rows).perform (.tenant tenant user .commit)
        (Work.rows (.prepared sql binds)) = (.ok rows, p') ∧
          p'.wire.log = transcript tenant user (.done 0) [⟨.prepared sql binds, .rows rows⟩] :=
      ⟨_, rfl, rfl⟩
    obtain ⟨p', hperform, hlog⟩ := hperform
    refine sent_eq (Eq.trans ?_ hlog)
    rw [forTenant, within_bind, run, hperform]
    cases hdecode : decode rows <;> simp only [done_bind, hdecode] <;> rfl

/-- **What a listing makes of rows that are answered**, when it reads back what is stored. -/
theorem Operation.ReadsBack.run_answering {o : Operation (List α)} {stored : Row → α → Prop}
    {tenant : String} {user : Option String} {st : Statement}
    {decode : List Row → Except StoreError (List α)} {rows : List Row} {xs : List α}
    (h : o.ReadsBack (Pool.answering rows) stored)
    (ho : o = Operation.forTenant tenant user (Work.rows st) >>= fun rows => liftM (decode rows))
    (hst : st.isData = true) (hrows : List.Forall₂ stored rows xs) :
    (o.run (Pool.answering rows)).1 = .ok xs := by
  have hsent : o.sent (Pool.answering rows) =
      transcript tenant user (.done 0) [⟨st, .rows rows⟩] := by
    rw [ho]
    exact sent_answering hst
  refine h st rows xs ?_ ?_ hrows
  · rw [hsent]
    exact answered_transcript rfl (List.forall_mem_singleton.2 rfl)
  · rw [hsent]
    exact data_transcript (List.forall_mem_singleton.2 hst)

/-- **What is written is what is read back**: nodes by a search, edges by a walk, and turns,
beliefs, entries, traces and facts by their listings. -/
theorem Call.reads_back (s : StoreSettings) {p : Pool σ} (hp : p.Reachable s) :
    (∀ r, Search.ReadsBack s r p) ∧
    (∀ w, Graph.ReadsBack s w p) ∧
    (∀ tenant user limit,
      (Memory.recentEpisodes tenant user limit).ReadsBack p (Episode.Stored s)) ∧
    (∀ tenant user, (Memory.beliefs tenant user).ReadsBack p Belief.Stored) ∧
    (∀ tenant domain, (Catalog.entries s tenant domain).ReadsBack p (Catalog.Entry.Stored s)) ∧
    (∀ q, (Trace.list q).ReadsBack p Trace.Stored) ∧
    (∀ tenant limit since,
      (News.recentFacts s tenant limit since).ReadsBack p (News.Fact.Stored s)) := by
  have hrest := hp.atRest
  refine ⟨fun r => Search.readsBack r hrest, fun w => Graph.readsBack w hrest, ?_, ?_, ?_, ?_, ?_⟩
  · intro tenant user limit
    exact Memory.recentEpisodes_lists.readsBack
      (served (s := s) (c := .recentEpisodes tenant user limit) rfl hrest)
      fun _ _ => Episode.Stored.ofRow_eq
  · intro tenant user
    exact Memory.beliefs_lists.readsBack (served (s := s) (c := .beliefs tenant user) rfl hrest)
      fun _ _ => Belief.Stored.ofRow_eq
  · intro tenant domain
    exact Catalog.entries_lists.readsBack (served (c := .entries tenant domain) rfl hrest)
      fun _ _ => Catalog.Entry.Stored.ofRow_eq
  · intro q
    exact Trace.list_lists.readsBack (served (s := s) (c := .listTraces q) rfl hrest)
      fun _ _ => Trace.Stored.ofRow_eq
  · intro tenant limit since
    exact News.recentFacts_lists.readsBack
      (served (c := .recentNewsFacts tenant limit since) rfl hrest)
      fun _ _ => News.Fact.Stored.ofRow_eq

/-- A chunk that nobody owns yet. -/
def passage : Node := { Node.ofContent "c1" .chunk "Rust" with title := some "Intro" }

/-- An edge from that chunk to itself. -/
def quotation : Edge := .between "c1" "c1" "cites"

/-- The row of the chunk when a user of a tenant writes it. -/
def passageRow : Row :=
  ⟨(Graph.nodeStatement "acme" (some "u1") passage).written ++ [("created_at", .null)]⟩

/-- The row of the edge, as a walk from the chunk finds it. -/
def quotationRow : Row :=
  ⟨(Graph.edgeStatement "acme" quotation).written ++ [("depth", .int4 1)]⟩

/-- What this user's write sends. -/
def quotationWrites : List Sent :=
  [⟨Graph.nodeStatement "acme" (some "u1") passage, .done 1⟩,
    ⟨Graph.edgeStatement "acme" quotation, .done 1⟩]

theorem data_quotationWrites : data ((Graph.upsert .default "acme" (some "u1") [passage]
    [quotation]).sent (Pool.replying [])) = quotationWrites := by
  have hsent : (Graph.upsert .default "acme" (some "u1") [passage] [quotation]).sent
      (Pool.replying []) = transcript "acme" (some "u1") (.done 1) quotationWrites := rfl
  rw [hsent]
  refine data_transcript (List.forall_mem_cons.2 ⟨?_, List.forall_mem_singleton.2 ?_⟩)
  · exact (@Call.Issued.node 0 "acme" (some "u1") passage nofun).isData
  · exact (@Call.Issued.edge 0 "acme" quotation).isData

theorem passage_stored :
    (passage.stored "acme" (some "u1") none).Stored .default passageRow := by
  obtain ⟨hrow, hcreated⟩ := Row.holds_and_find?_of_written "created_at" .null
    (Graph.nodeStatement_written "acme" (some "u1") passage) (by simp)
  have hnode : [passage][0]? = some passage := rfl
  have hwritten : passageRow.WrittenBy
      (Graph.upsert .default "acme" (some "u1") [passage] [quotation]) 0 := by
    refine ⟨Replies, inferInstance, Pool.replying [],
      ⟨Graph.nodeStatement "acme" (some "u1") passage, .done 1⟩, ?_, hrow⟩
    rw [data_quotationWrites]
    rfl
  exact .intro hnode hwritten hcreated

theorem quotation_stored :
    Edge.Stored .default "acme" quotationRow (quotation.reached "acme" 1) := by
  obtain ⟨hrow, hdepth⟩ := Row.holds_and_find?_of_written "depth" (.int4 1)
    (Graph.edgeStatement_written "acme" quotation) (by simp)
  have hedge : [quotation][0]? = some quotation := rfl
  have hwritten : quotationRow.WrittenBy
      (Graph.upsert .default "acme" (some "u1") [passage] [quotation]) 1 := by
    refine ⟨Replies, inferInstance, Pool.replying [],
      ⟨Graph.edgeStatement "acme" quotation, .done 1⟩, ?_, hrow⟩
    rw [data_quotationWrites]
    rfl
  exact .intro hedge hwritten hdepth

/-- A walk from the chunk, and a server that answers it with the two rows. -/
def quotationWalk : Walk := ⟨"acme", ["c1"], 2, none, 10⟩

def quotationPool : Pool Replies :=
  Pool.replying
    [.done 0, .done 0, .done 0, .done 0, .done 0, .rows [quotationRow], .rows [passageRow]]

/-- What the walk sends. -/
def quotationReads : List Sent :=
  [⟨Graph.walkStatement "acme" ["c1"] none 2 10, .rows [quotationRow]⟩,
    ⟨Graph.nodesStatement "acme" (Graph.touched ["c1"] [quotation.reached "acme" 1]),
      .rows [passageRow]⟩]

theorem sent_quotationWalk : (Graph.search .default quotationWalk).sent quotationPool =
    transcript "acme" none (.done 0) quotationReads := by
  have hpassage : passageRow = ⟨[("id", .text "c1"), ("tenant_id", .text "acme"),
      ("user_id", .text "u1"), ("node_kind", .text "chunk"), ("source_type", .null),
      ("source_id", .null), ("title", .text "Intro"), ("content", .text "Rust"),
      ("struct_data", .jsonb (.obj [])), ("keywords_text", .null), ("content_hash", .null),
      ("taxonomy_path", .null), ("embedding", .null), ("created_at", .null)]⟩ := by
    rw [passageRow, Graph.nodeStatement_written]
    rfl
  have hquotation : quotationRow = ⟨[("tenant_id", .text "acme"), ("source_id", .text "c1"),
      ("target_id", .text "c1"), ("relation", .text "cites"), ("weight", .float8 1.0),
      ("metadata", .jsonb (.obj [])), ("depth", .int4 1)]⟩ := by
    rw [quotationRow, Graph.edgeStatement_written]
    rfl
  rw [quotationPool, quotationReads, hpassage, hquotation]
  rfl

theorem answered_quotationWalk :
    ∀ e ∈ (Graph.search .default quotationWalk).sent quotationPool, e.Answered := by
  rw [sent_quotationWalk]
  exact answered_transcript rfl (List.forall_mem_cons.2 ⟨rfl, List.forall_mem_singleton.2 rfl⟩)

theorem data_quotationWalk :
    data ((Graph.search .default quotationWalk).sent quotationPool) = quotationReads := by
  rw [sent_quotationWalk]
  refine data_transcript (List.forall_mem_cons.2 ⟨?_, List.forall_mem_singleton.2 ?_⟩)
  · exact (@Call.Issued.walk 0 "acme" ["c1"] none 2 10).isData
  · exact (@Call.Issued.nodes 0 "acme" _).isData

/-- When the database took the writes that follow. -/
def instant : Timestamp := ⟨1700000000, 0⟩

/-- What else the tenant writes: a turn, a belief and a trace, and where the settings include the
catalog and the archive, an entry and a fact. -/
def turn : Episode.Draft := .ofContent .nil "acme" "u1" "Rust"

def liking : Belief := ⟨"acme", "u1", "language", .str "Rust", 1.0, none, instant⟩

def visit : Trace.Draft := .ofAgent "acme" "guide"

def shelf : Catalog.Entry := .named "acme" .category "Books" ⟨"books.rust", by decide +kernel⟩

def release : News.Fact := .about "f1" "acme" "news/1" "Rust" "A language"

def withArchives : StoreSettings := { StoreSettings.default with commerce := true, news := true }

/-- Their rows. -/
def turnRow : Row := ⟨(Memory.addStatement turn).written ++ [("created_at", toValue instant)]⟩

def likingRow : Row :=
  ⟨(Memory.beliefStatement "acme" "u1" "language" (.str "Rust") 1.0 none).written ++
    [("updated_at", toValue instant)]⟩

def visitRow : Row :=
  ⟨(Trace.appendStatement .nil visit).written ++ [("created_at", toValue instant)]⟩

def shelfRow : Row :=
  ⟨(Catalog.upsertStatement shelf).written ++ [("updated_at", toValue instant)]⟩

def releaseRow : Row :=
  ⟨(News.factStatement release).written ++ [("created_at", toValue instant)]⟩

theorem turn_stored : (turn.stored instant).Stored .default turnRow := by
  obtain ⟨hrow, hcreated⟩ := Row.holds_and_find?_of_written "created_at" (toValue instant)
    (Memory.addStatement_written turn) (by simp)
  have haccepted : ((Memory.addEpisode .default turn).run (Pool.replying [])).1 = .ok .nil := rfl
  exact .of_accepted haccepted hrow hcreated

theorem liking_stored : liking.Stored likingRow := by
  obtain ⟨hrow, hupdated⟩ := Row.holds_and_find?_of_written "updated_at" (toValue instant)
    (Memory.beliefStatement_written "acme" "u1" "language" (.str "Rust") 1.0 none) (by simp)
  have haccepted : ((Memory.upsertBelief "acme" "u1" "language" (.str "Rust") 1.0 none).run
      (Pool.replying [])).1 = .ok () := rfl
  exact .of_accepted (b := liking) haccepted hrow hupdated

theorem visit_stored : (visit.stored .nil instant).Stored visitRow := by
  obtain ⟨hrow, hcreated⟩ := Row.holds_and_find?_of_written "created_at" (toValue instant)
    (Trace.appendStatement_written .nil visit) (by simp)
  have haccepted : ((Trace.append .nil visit).run (Pool.replying [])).1 = .ok .nil := rfl
  exact .of_accepted haccepted hrow hcreated

theorem shelf_stored : (shelf.stored (some instant)).Stored withArchives shelfRow := by
  obtain ⟨hrow, hupdated⟩ := Row.holds_and_find?_of_written "updated_at" (toValue instant)
    (Catalog.upsertStatement_written shelf) (by simp)
  have haccepted : ((Catalog.upsert withArchives shelf).run (Pool.replying [])).1 = .ok () := rfl
  exact .of_accepted haccepted hrow hupdated

theorem release_stored : (release.stored (some instant)).Stored withArchives releaseRow := by
  obtain ⟨hrow, hcreated⟩ := Row.holds_and_find?_of_written "created_at" (toValue instant)
    (News.factStatement_written release) (by simp)
  have haccepted : ((News.upsertFact withArchives release).run
      (Pool.answering [⟨[("id", .text "f1")]⟩])).1 = .ok "f1" := rfl
  exact .of_accepted haccepted hrow hcreated

/-- The chunk is read back as this user's, and the edge as one that is a hop away.  The other
entities are read back by their listings. -/
theorem Call.reads_back_quotation :
    quotationPool.Reachable .default ∧
      ((Graph.search .default quotationWalk).run quotationPool).1 =
        .ok ⟨[Graph.previewed .default (passage.stored "acme" (some "u1") none)],
          [quotation.reached "acme" 1]⟩ ∧
      (∀ rows, (Pool.answering rows).Reachable withArchives) ∧
      ((Memory.recentEpisodes "acme" "u1" 10).run (Pool.answering [turnRow])).1 =
        .ok [turn.stored instant] ∧
      ((Memory.beliefs "acme" "u1").run (Pool.answering [likingRow])).1 = .ok [liking] ∧
      ((Catalog.entries withArchives "acme" none).run (Pool.answering [shelfRow])).1 =
        .ok [shelf.stored (some instant)] ∧
      ((Trace.list (.ofTenant "acme")).run (Pool.answering [visitRow])).1 =
        .ok [visit.stored .nil instant] ∧
      ((News.recentFacts withArchives "acme" 10 none).run (Pool.answering [releaseRow])).1 =
        .ok [release.stored (some instant)] := by
  obtain ⟨-, hwalks, -⟩ := Call.reads_back .default (p := quotationPool) (.opened _)
  have hwalk := hwalks quotationWalk _ _ _ _ _ _ answered_quotationWalk data_quotationWalk
    (.cons quotation_stored .nil) (.cons passage_stored .nil)
  -- each listing is read on a pool of its own, which answers the row of its entity
  refine ⟨.opened _, hwalk, fun rows => .opened _, ?_, ?_, ?_, ?_, ?_⟩
  · obtain ⟨-, -, hturns, -⟩ := Call.reads_back .default (p := Pool.answering [turnRow]) (.opened _)
    exact (hturns "acme" "u1" 10).run_answering rfl
      (@Call.Issued.recentEpisodes 0 "acme" "u1" 10).isData (.cons turn_stored .nil)
  · obtain ⟨-, -, -, hbeliefs, -⟩ :=
      Call.reads_back .default (p := Pool.answering [likingRow]) (.opened _)
    exact (hbeliefs "acme" "u1").run_answering rfl
      (@Call.Issued.beliefs 0 "acme" "u1").isData (.cons liking_stored .nil)
  · obtain ⟨-, -, -, -, hentries, -⟩ :=
      Call.reads_back withArchives (p := Pool.answering [shelfRow]) (.opened _)
    exact (hentries "acme" none).run_answering rfl
      (@Call.Issued.entries 0 "acme" none).isData (.cons shelf_stored .nil)
  · obtain ⟨-, -, -, -, -, htraces, -⟩ :=
      Call.reads_back .default (p := Pool.answering [visitRow]) (.opened _)
    exact (htraces (.ofTenant "acme")).run_answering rfl
      (@Call.Issued.traces 0 "acme" _ rfl).isData (.cons visit_stored .nil)
  · obtain ⟨-, -, -, -, -, -, hfacts⟩ :=
      Call.reads_back withArchives (p := Pool.answering [releaseRow]) (.opened _)
    exact (hfacts "acme" 10 none).run_answering rfl
      (@Call.Issued.recentFacts 0 "acme" 10 none).isData (.cons release_stored .nil)

end KnowledgeBase
