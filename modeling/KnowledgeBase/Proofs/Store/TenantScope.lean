import KnowledgeBase.Connection.Open
import KnowledgeBase.Connection.Script
import KnowledgeBase.Proofs.Search.Filters
import KnowledgeBase.Proofs.Store.Inventory

/-!
# Statements of one tenant

The row-level policies of the database are a second line of defence.  The first is that every
statement names its tenant: its text compares one placeholder with `tenant_id`, or writes one into
that column, and the tenant of the call is bound there.  The place differs from statement to
statement, so it is read off each text.

## Main definitions

* `Sql.Statement.NamesTenant` — a statement that names its tenant.
* `Sql.Statement.Scoped` — a statement that is bound to a tenant and a user.
* `Call.Foreign` — a call that holds a node or an edge of another tenant.

## Main results

* `Call.Issued.namesTenant` — every statement of the store names its tenant.
* `Call.sent_scoped` — every statement of a run is bound to the tenant and the user of the call, and
  a call with a foreign node or edge sends none.
-/

namespace KnowledgeBase

open Sql

variable {tenant : String} {user : Option String}

/-! ### What a text says of the tenant -/

namespace Sql

/-- A statement with values that names its tenant: the tenant is bound at the one place that the
text compares with `tenant_id` or writes into it. -/
inductive Statement.NamesTenant (tenant : String) : Statement → Prop where
  | intro {sql : String} {binds : List Value} (k : Nat) (htext : Script.setsContext sql = false)
    (hplaces : placesOf "tenant_id" sql = [k + 1]) (hbind : binds[k]? = some (.text tenant)) :
    NamesTenant tenant (.prepared sql binds)

/-- Bound to a tenant and a user: the statement of the context sets both, and every other statement
with values names the tenant. -/
inductive Statement.Scoped (tenant : String) (user : Option String) : Statement → Prop where
  | control (sql : String) : Scoped tenant user (.simple sql)
  | context {sql : String} {binds : List Value} (htext : Script.setsContext sql = true)
    (hsettings : settingsOf (tokens sql) = [("app.current_tenant", 1), ("app.current_user", 2)])
    (hbinds : binds = [.text tenant, .text (user.getD "")]) :
    Scoped tenant user (.prepared sql binds)
  | query {st : Statement} (hnames : st.NamesTenant tenant) : Scoped tenant user st

/-- The places of the tenant in a text that does not set the context, from its characters. -/
def tenantPlaces (text : List Char) : Option (List Nat) :=
  if "SELECT set_config(".toList.isPrefixOf text then none
  else
    let words := tokensFrom [] text
    some (comparedWith "tenant_id" words ++ insertedInto "tenant_id" words).eraseDups

/-- A statement names its tenant when the tenant is bound at the place that the text has. -/
theorem Statement.NamesTenant.of_place {sql : String} {binds : List Value} (k : Nat)
    (hplace : tenantPlaces sql.toList = some [k + 1]) (hbind : binds[k]? = some (.text tenant)) :
    (prepared sql binds).NamesTenant tenant := by
  unfold tenantPlaces at hplace
  split at hplace
  · cases hplace
  · next htext => exact .intro k (Bool.not_eq_true _ ▸ htext) (Option.some.inj hplace) hbind

/-- The context of a tenant and a user is bound to them. -/
theorem Statement.Scoped.of_context (tenant : String) (user : Option String) :
    (contextStatement tenant user).Scoped tenant user := by
  refine .context ?_ ?_ rfl
  · rw [Script.setsContext, String.toList_append]
    repeat rw [String.toList_ofList]
    rfl
  · rw [tokens, String.toList_append]
    repeat rw [String.toList_ofList]
    rfl

end Sql

-- the texts are read character by character
set_option maxRecDepth 1000

/-! ### The knowledge graph -/

namespace Graph

theorem nodeStatement_names (owner : Option String) (n : Node) :
    (nodeStatement tenant owner n).NamesTenant tenant := by
  refine .of_place 1 ?_ rfl
  repeat rw [String.toList_append]
  repeat rw [String.toList_ofList]
  rfl

theorem edgeStatement_names (e : Edge) :
    (edgeStatement tenant e).NamesTenant tenant := by
  refine .of_place 0 ?_ rfl
  repeat rw [String.toList_append]
  repeat rw [String.toList_ofList]
  rfl

theorem walkStatement_names (entrypoints : List String) (relations : Option (List String))
    (hops limit : UInt32) :
    (walkStatement tenant entrypoints relations hops limit).NamesTenant tenant := by
  refine .of_place 0 ?_ rfl
  repeat rw [String.toList_append]
  repeat rw [String.toList_ofList]
  rfl

theorem nodesStatement_names (ids : List String) :
    (nodesStatement tenant ids).NamesTenant tenant := by
  refine .of_place 0 ?_ rfl
  unfold Node.columns
  repeat rw [String.toList_append]
  repeat rw [String.toList_ofList]
  rfl

theorem aliasStatement_names (a : Alias) :
    (aliasStatement tenant a).NamesTenant tenant := by
  refine .of_place 0 ?_ rfl
  repeat rw [String.toList_append]
  repeat rw [String.toList_ofList]
  rfl

theorem resolveStatement_names (names : List String) :
    (resolveStatement tenant names).NamesTenant tenant := by
  refine .of_place 0 ?_ rfl
  rw [String.toList_ofList]
  rfl

end Graph

/-! ### Search -/

namespace Search

theorem vectorStatement_names (r : Request) :
    (vectorStatement r).NamesTenant r.tenant := by
  refine .of_place 0 ?_ rfl
  have hscope := List.mem_map_of_mem (f := Prod.fst) (scopeClause_mem r.scope)
  generalize scopeClause r.scope = text at hscope
  simp only [scopeTexts, List.map_cons, List.map_nil, List.mem_cons, List.not_mem_nil, or_false,
    -String.reduceAppend] at hscope
  rcases hscope with rfl | rfl | rfl | rfl | rfl | rfl | rfl | rfl
  all_goals
    repeat rw [String.toList_append]
    repeat rw [String.toList_ofList]
    rfl

theorem textStatement_names (r : Request) :
    (textStatement r).NamesTenant r.tenant := by
  refine .of_place 0 ?_ rfl
  have hscope := List.mem_map_of_mem (f := Prod.fst) (scopeClause_mem r.scope)
  unfold Schema.lexicalDocument
  generalize scopeClause r.scope = text at hscope
  simp only [scopeTexts, List.map_cons, List.map_nil, List.mem_cons, List.not_mem_nil, or_false,
    -String.reduceAppend] at hscope
  rcases hscope with rfl | rfl | rfl | rfl | rfl | rfl | rfl | rfl
  all_goals
    repeat rw [String.toList_append]
    repeat rw [String.toList_ofList]
    rfl

theorem fetchStatement_names (ids : List String) :
    (fetchStatement tenant ids).NamesTenant tenant := by
  refine .of_place 0 ?_ rfl
  unfold Node.columns
  repeat rw [String.toList_append]
  repeat rw [String.toList_ofList]
  rfl

end Search

/-! ### Episodes and beliefs -/

namespace Memory

theorem addStatement_names (e : Episode.Draft) :
    (addStatement e).NamesTenant e.tenant := by
  refine .of_place 1 ?_ rfl
  repeat rw [String.toList_append]
  repeat rw [String.toList_ofList]
  rfl

theorem recentStatement_names (owner : String) (limit : UInt32) :
    (recentStatement tenant owner limit).NamesTenant tenant := by
  refine .of_place 0 ?_ rfl
  unfold episodeColumns
  repeat rw [String.toList_append]
  repeat rw [String.toList_ofList]
  rfl

theorem oldStatement_names (days limit : UInt32) :
    (oldStatement tenant days limit).NamesTenant tenant := by
  refine .of_place 0 ?_ rfl
  unfold episodeColumns
  repeat rw [String.toList_append]
  repeat rw [String.toList_ofList]
  rfl

theorem deleteStatement_names (days : UInt32) (ids : Option (List Uuid)) :
    (deleteStatement tenant days ids).NamesTenant tenant := by
  cases ids with
  | none =>
    refine .of_place 0 ?_ rfl
    repeat rw [String.toList_append]
    repeat rw [String.toList_ofList]
    rfl
  | some _ =>
    refine .of_place 0 ?_ rfl
    rw [String.toList_ofList]
    rfl

theorem countStatement_names :
    (countStatement tenant).NamesTenant tenant := by
  refine .of_place 0 ?_ rfl
  repeat rw [String.toList_append]
  repeat rw [String.toList_ofList]
  rfl

theorem beliefStatement_names (owner key : String) (value : Json) (confidence : Float)
    (source : Option Uuid) :
    (beliefStatement tenant owner key value confidence source).NamesTenant tenant := by
  refine .of_place 0 ?_ rfl
  repeat rw [String.toList_append]
  repeat rw [String.toList_ofList]
  rfl

theorem beliefsStatement_names (owner : String) :
    (beliefsStatement tenant owner).NamesTenant tenant := by
  refine .of_place 0 ?_ rfl
  unfold beliefColumns
  repeat rw [String.toList_append]
  repeat rw [String.toList_ofList]
  rfl

end Memory

/-! ### The catalog -/

namespace Catalog

theorem upsertStatement_names (e : Entry) :
    (upsertStatement e).NamesTenant e.tenant := by
  refine .of_place 0 ?_ rfl
  repeat rw [String.toList_append]
  repeat rw [String.toList_ofList]
  rfl

theorem entriesStatement_names (domain : Option Domain) :
    (entriesStatement tenant domain).NamesTenant tenant := by
  cases domain with
  | none =>
    refine .of_place 0 ?_ rfl
    unfold columns
    repeat rw [String.toList_append]
    repeat rw [String.toList_ofList]
    rfl
  | some _ =>
    refine .of_place 0 ?_ rfl
    unfold columns
    repeat rw [String.toList_append]
    repeat rw [String.toList_ofList]
    rfl

end Catalog

/-! ### Traces -/

namespace Trace

theorem appendStatement_names (id : Uuid) (t : Draft) :
    (appendStatement id t).NamesTenant t.tenant := by
  refine .of_place 1 ?_ rfl
  repeat rw [String.toList_append]
  repeat rw [String.toList_ofList]
  rfl

theorem listStatement_names (q : Query) :
    (listStatement q).NamesTenant q.tenant := by
  refine .of_place 0 ?_ rfl
  unfold columns
  repeat rw [String.toList_append]
  repeat rw [String.toList_ofList]
  rfl

end Trace

/-! ### News -/

namespace News

theorem rawStatement_names (i : RawItem) :
    (rawStatement i).NamesTenant i.tenant := by
  refine .of_place 1 ?_ rfl
  repeat rw [String.toList_append]
  repeat rw [String.toList_ofList]
  rfl

theorem factStatement_names (f : Fact) :
    (factStatement f).NamesTenant f.tenant := by
  refine .of_place 1 ?_ rfl
  repeat rw [String.toList_append]
  repeat rw [String.toList_ofList]
  rfl

theorem postStatement_names (p : Post) :
    (postStatement p).NamesTenant p.tenant := by
  refine .of_place 1 ?_ rfl
  unfold conflictClause
  split
  all_goals
    repeat rw [String.toList_append]
    repeat rw [String.toList_ofList]
    rfl

theorem publishStatement_names (id : String) (message : Int64) :
    (publishStatement tenant id message).NamesTenant tenant := by
  refine .of_place 0 ?_ rfl
  rw [String.toList_ofList]
  rfl

theorem recentStatement_names (limit : UInt32) (since : Option Timestamp) :
    (recentStatement tenant limit since).NamesTenant tenant := by
  refine .of_place 0 ?_ rfl
  unfold factColumns
  repeat rw [String.toList_append]
  repeat rw [String.toList_ofList]
  rfl

theorem searchFactsStatement_names (v : List Float32) (limit : UInt32) (least : Float) :
    (searchFactsStatement tenant v limit least).NamesTenant tenant := by
  refine .of_place 0 ?_ rfl
  repeat rw [String.toList_append]
  repeat rw [String.toList_ofList]
  rfl

theorem searchPostsStatement_names (v : List Float32) (limit : UInt32) :
    (searchPostsStatement tenant v limit).NamesTenant tenant := by
  refine .of_place 0 ?_ rfl
  repeat rw [String.toList_append]
  repeat rw [String.toList_ofList]
  rfl

end News

/-! ### Every statement -/

/-- **Every statement of the store names its tenant.** -/
theorem Call.Issued.namesTenant {dim : Nat} {st : Statement} (h : Issued dim tenant st) :
    st.NamesTenant tenant := by
  cases h with
  | node owner n _ => exact Graph.nodeStatement_names owner n
  | edge e => exact Graph.edgeStatement_names e
  | walk entrypoints relations hops limit =>
    exact Graph.walkStatement_names entrypoints relations hops limit
  | nodes ids => exact Graph.nodesStatement_names ids
  | aliasOf a => exact Graph.aliasStatement_names a
  | resolve names => exact Graph.resolveStatement_names names
  | vectorRanking r htenant _ => exact htenant ▸ Search.vectorStatement_names r
  | textRanking r htenant => exact htenant ▸ Search.textStatement_names r
  | fetch ids => exact Search.fetchStatement_names ids
  | episode e htenant _ => exact htenant ▸ Memory.addStatement_names e
  | recentEpisodes owner limit => exact Memory.recentStatement_names owner limit
  | oldEpisodes days limit => exact Memory.oldStatement_names days limit
  | deletion days ids => exact Memory.deleteStatement_names days ids
  | episodeCount => exact Memory.countStatement_names
  | belief owner key value confidence source =>
    exact Memory.beliefStatement_names owner key value confidence source
  | beliefs owner => exact Memory.beliefsStatement_names owner
  | entry e htenant _ => exact htenant ▸ Catalog.upsertStatement_names e
  | entries domain => exact Catalog.entriesStatement_names domain
  | trace id t htenant => exact htenant ▸ Trace.appendStatement_names id t
  | traces q htenant => exact htenant ▸ Trace.listStatement_names q
  | raw i htenant => exact htenant ▸ News.rawStatement_names i
  | fact f htenant _ => exact htenant ▸ News.factStatement_names f
  | post p htenant _ => exact htenant ▸ News.postStatement_names p
  | publication id message => exact News.publishStatement_names id message
  | recentFacts limit since => exact News.recentStatement_names limit since
  | similarFacts v limit least _ => exact News.searchFactsStatement_names v limit least
  | similarPosts v limit _ => exact News.searchPostsStatement_names v limit

/-- A call that writes a node or an edge of another tenant. -/
def Call.Foreign : Call → Prop
  | .upsertGraph id _ nodes edges =>
    (∃ n ∈ nodes, ∃ owner ∈ n.tenant, owner ≠ id) ∨ ∃ e ∈ edges, ∃ owner ∈ e.tenant, owner ≠ id
  | _ => False

/-- A write that fails its checks sends nothing. -/
theorem Graph.upsert_sent_nil {σ : Type} [Server σ] {s : StoreSettings} {nodes : List Node}
    {edges : List Edge} (h : Graph.validate s.dimension tenant nodes edges ≠ .ok ()) (p : Pool σ) :
    (Graph.upsert s tenant user nodes edges).sent p = [] := by
  refine Operation.sent_eq ?_
  rw [Graph.upsert, List.append_nil]
  cases hvalid : Graph.validate s.dimension tenant nodes edges with
  | ok u => exact absurd hvalid h
  | error e => rfl

/-- A write with a node or an edge of another tenant fails its checks. -/
theorem Call.Foreign.sent_nil {σ : Type} [Server σ] {s : StoreSettings} {c : Call}
    (h : c.Foreign) (p : Pool σ) : (c.operation s).sent p = [] := by
  cases c with
  | upsertGraph id owner nodes edges =>
    refine Graph.upsert_sent_nil ?_ p
    intro hvalid
    obtain ⟨-, hnodes, hedges⟩ := Graph.validate_eq_ok.1 hvalid
    rcases h with ⟨n, hn, other, hother, hne⟩ | ⟨e, he, other, hother, hne⟩
    · exact hne ((Node.validate_eq_ok.1 (hnodes n hn)).2.2.1 other hother)
    · exact hne ((Edge.validate_eq_ok.1 (hedges e he)).2.2.2.1 other hother)
  | _ => exact h.elim

/-- **Tenant scoping.**  Whatever the server answers and whatever was done before, each statement of
a run sets the tenant and the user of the call or is bound to the tenant; with a node or an edge of
another tenant in the call, none is sent. -/
theorem Call.sent_scoped {σ : Type} [Server σ] (s : StoreSettings) {c : Call}
    (h : c.tenant? = some tenant) (p : Pool σ) :
    (∀ e ∈ (c.operation s).sent p, e.statement.Scoped tenant c.user?) ∧
      (c.Foreign → (c.operation s).sent p = []) := by
  refine ⟨?_, fun hforeign => hforeign.sent_nil p⟩
  have hsends : (c.operation s).Sends (Frame.IsFor tenant c.user?)
      fun st => st.Scoped tenant c.user? :=
    (Call.sends_issued s h).mono fun _ hissued => .query hissued.namesTenant
  -- what remains are the contexts of the frames, which are all of this tenant and user
  refine hsends.sent .control ?_ p
  rintro id user ending ⟨rfl, rfl⟩
  exact .of_context id c.user?

/-- Reading the beliefs about a user over a fresh pool. -/
theorem Call.sent_scoped_beliefs :
    (Call.beliefs "acme" "ann").tenant? = some "acme" ∧
      ∀ e ∈ ((Call.beliefs "acme" "ann").operation .default).sent
        (Pool.ofSettings Script.empty .default), e.statement.Scoped "acme" (some "ann") :=
  ⟨rfl, (Call.sent_scoped .default rfl _).1⟩

end KnowledgeBase
