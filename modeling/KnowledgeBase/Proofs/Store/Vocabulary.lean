import KnowledgeBase.Proofs.Connection.Control
import KnowledgeBase.Proofs.Store.TenantScope
import KnowledgeBase.Proofs.Schema.Plan
import KnowledgeBase.Proofs.Text.ByteOrder

/-!
# The texts of a deployment

What callers hand over reaches the database as values of placeholders only.  The texts themselves
are few: they are listed here from the settings alone, and whatever is called with whatever
arguments, every statement that is sent has one of these texts.  Of the settings only the name of
the schema and the dimension of embeddings stand in a text, and the name is a plain one.

## Main definitions

* `Call.samples` — one statement of each kind that operations for a tenant send.
* `Schema.texts`, `Schema.resizeTexts` — the texts of the operations on the schema.
* `vocabulary` — every text, given the schema, the dimension and the optional groups of tables.
* `Schema.PlainName` — names that may stand in a text as they are.
* `Call.session` — calls one after the other.

## Main results

* `Call.Issued.sampled` — the text of a statement does not depend on the values in it.
* `Call.texts_sent` — the texts that an operation sends.
* `Call.session_texts` — **every text sent in a session belongs to the vocabulary.**
-/

namespace KnowledgeBase

open Sql

variable {σ α : Type} {s : StoreSettings} {dim : Nat} {tenant : String}

/-! ### Texts of operations for a tenant -/

/-- Which parts of a scope are set, with nothing in particular in them. -/
def Scope.shape (scope : Scope) : Scope :=
  ⟨scope.user.map fun _ => "", scope.path.map fun _ => ⟨"a", by decide⟩,
    if scope.sourceTypes.isEmpty then [] else [""]⟩

/-- Every shape of a scope. -/
def Scope.shapes : List Scope :=
  [none, some ""].flatMap fun user => [none, some "a"].flatMap fun path =>
    [[], [""]].map fun types => Scope.shape ⟨user, path.map fun _ => ⟨"a", by decide⟩, types⟩

theorem Scope.shape_mem (scope : Scope) : scope.shape ∈ shapes := by
  obtain ⟨user, path, types⟩ := scope
  cases user <;> cases path <;> cases types <;> simp [shapes, shape]

namespace Search

/-- A search for nothing, of some scope. -/
def Request.blank (scope : Scope) : Request :=
  { Request.ofSettings "" "" [] .default with scope }

/-- What a scope adds to a text depends on its shape only. -/
theorem scopeClause_shape (scope : Scope) : scopeClause scope.shape = scopeClause scope := by
  obtain ⟨user, path, types⟩ := scope
  cases user <;> cases path <;> cases types <;> rfl

end Search

namespace Call

/-- One statement of each kind that operations for a tenant send, about nothing in particular. -/
def samples : List Statement :=
  [Graph.nodeStatement "" none (.ofContent "" .chunk ""),
    Graph.edgeStatement "" (.between "" "" ""),
    Graph.walkStatement "" [] none 0 0,
    Graph.nodesStatement "" [],
    Graph.aliasStatement "" ⟨"", "", ""⟩,
    Graph.resolveStatement "" [],
    Search.fetchStatement "" [],
    Memory.addStatement (.ofContent .nil "" "" ""),
    Memory.recentStatement "" "" 0,
    Memory.oldStatement "" 0 0,
    Memory.deleteStatement "" 0 none,
    Memory.deleteStatement "" 0 (some []),
    Memory.countStatement "",
    Memory.beliefStatement "" "" "" .null 0 none,
    Memory.beliefsStatement "" "",
    Catalog.upsertStatement (.named "" .category "" ⟨"a", by decide⟩),
    Catalog.entriesStatement "" none,
    Catalog.entriesStatement "" (some .category),
    Trace.appendStatement .nil (.ofAgent "" ""),
    Trace.listStatement (.ofTenant ""),
    News.rawStatement ⟨"", "", "", "", "", none, "", .empty⟩,
    News.factStatement (.about "" "" "" "" ""),
    News.postStatement ⟨"", "", none, "", "", "", "", none, none, none⟩,
    News.postStatement ⟨"", "", none, "", "", "", "", some "a", none, none⟩,
    News.publishStatement "" "" 0,
    News.recentStatement "" 0 none,
    News.searchFactsStatement "" [] 0 0,
    News.searchPostsStatement "" [] 0]
  ++ Scope.shapes.map (fun scope => Search.vectorStatement (.blank scope))
  ++ Scope.shapes.map (fun scope => Search.textStatement (.blank scope))

/-- The statement has the text of one of the samples. -/
def Sampled (st : Statement) : Prop := ∃ sample ∈ samples, sample.sql = st.sql

theorem Sampled.of_place {st sample : Statement} (place : Nat) (h : samples[place]? = some sample)
    (htext : sample.sql = st.sql) : Sampled st :=
  ⟨sample, List.mem_of_getElem? h, htext⟩

theorem sampled_vectorRanking (r : Search.Request) : Sampled (Search.vectorStatement r) := by
  refine ⟨Search.vectorStatement (.blank r.scope.shape), ?_, ?_⟩
  · exact List.mem_append_left _ (List.mem_append_right _ (List.mem_map_of_mem r.scope.shape_mem))
  · simp only [Search.vectorStatement, Search.Request.blank, Statement.sql,
      Search.scopeClause_shape]

theorem sampled_textRanking (r : Search.Request) : Sampled (Search.textStatement r) := by
  refine ⟨Search.textStatement (.blank r.scope.shape), ?_, ?_⟩
  · exact List.mem_append_right _ (List.mem_map_of_mem r.scope.shape_mem)
  · simp only [Search.textStatement, Search.Request.blank, Statement.sql, Search.scopeClause_shape]

theorem sampled_post (p : News.Post) : Sampled (News.postStatement p) := by
  cases hsubject : p.subject with
  | none =>
    refine .of_place 22 rfl ?_
    simp only [News.postStatement, Statement.sql, hsubject]
    rfl
  | some url =>
    refine .of_place 23 rfl ?_
    simp only [News.postStatement, Statement.sql, hsubject]
    rfl

/-- **The text of a statement does not depend on the values in it.** -/
theorem Issued.sampled {st : Statement} (h : Issued dim tenant st) : Sampled st := by
  cases h with
  | node => exact .of_place 0 rfl rfl
  | edge => exact .of_place 1 rfl rfl
  | walk => exact .of_place 2 rfl rfl
  | nodes => exact .of_place 3 rfl rfl
  | aliasOf => exact .of_place 4 rfl rfl
  | resolve => exact .of_place 5 rfl rfl
  | vectorRanking r => exact sampled_vectorRanking r
  | textRanking r => exact sampled_textRanking r
  | fetch => exact .of_place 6 rfl rfl
  | episode => exact .of_place 7 rfl rfl
  | recentEpisodes => exact .of_place 8 rfl rfl
  | oldEpisodes => exact .of_place 9 rfl rfl
  | deletion days ids =>
    cases ids with
    | none => exact .of_place 10 rfl rfl
    | some ids => exact .of_place 11 rfl rfl
  | episodeCount => exact .of_place 12 rfl rfl
  | belief => exact .of_place 13 rfl rfl
  | beliefs => exact .of_place 14 rfl rfl
  | entry => exact .of_place 15 rfl rfl
  | entries domain =>
    cases domain with
    | none => exact .of_place 16 rfl rfl
    | some domain => exact .of_place 17 rfl rfl
  | trace => exact .of_place 18 rfl rfl
  | traces => exact .of_place 19 rfl rfl
  | raw => exact .of_place 20 rfl rfl
  | fact => exact .of_place 21 rfl rfl
  | post p => exact sampled_post p
  | publication => exact .of_place 24 rfl rfl
  | recentFacts => exact .of_place 25 rfl rfl
  | similarFacts => exact .of_place 26 rfl rfl
  | similarPosts => exact .of_place 27 rfl rfl

end Call

/-! ### Texts of operations on the schema -/

namespace Schema

/-- The texts about the versions that were applied. -/
def versionTexts : List String :=
  [migrationsTable.create, versionQuery.sql, recordText,
    "SELECT MAX(version) FROM schema_migrations"]

/-- The texts that bring the database to its present shape, and ask for its version. -/
def texts (schema : String) (dim : Nat) (m : Modules) : List String :=
  createSchema schema :: extensions ++ layout dim m ++ versionTexts
    ++ Migration.all.flatMap (fun x => x.statements dim) ++ policies schema m.tenantTables

theorem mem_texts {schema sql : String} {m : Modules} :
    sql ∈ texts schema dim m ↔ sql = createSchema schema ∨ sql ∈ extensions ∨ sql ∈ layout dim m ∨
      sql ∈ versionTexts ∨ (∃ x ∈ Migration.all, sql ∈ x.statements dim) ∨
        sql ∈ policies schema m.tenantTables := by
  simp [texts]

/-- The texts that give embeddings another dimension. -/
def resizeTexts (m : Modules) (dim : Nat) : List String :=
  m.embeddingColumns.flatMap fun c => resize c dim

section Lists

variable {P : Statement → Prop}

theorem runAll_sends {texts : List String} (h : ∀ sql ∈ texts, P (.simple sql)) :
    (runAll texts).Sends P := by
  induction texts with
  | nil => exact .done ()
  | cons sql rest ih =>
    obtain ⟨hfirst, hrest⟩ := List.forall_mem_cons.1 h
    exact (Work.Sends.send hfirst).bind fun _ => ih hrest

theorem tryAll_sends {texts : List String} (h : ∀ sql ∈ texts, P (.simple sql)) :
    (tryAll texts).Sends P := by
  induction texts with
  | nil => exact .done 0
  | cons sql rest ih =>
    obtain ⟨hfirst, hrest⟩ := List.forall_mem_cons.1 h
    exact (Work.Sends.attempt hfirst).bind fun _ => (ih hrest).bind fun _ => .done _

theorem runMigration_sends (x : Migration) {texts : List String}
    (h : ∀ sql ∈ texts, P (.simple sql)) : (runMigration x texts).Sends P := by
  induction texts with
  | nil => exact .done ()
  | cons sql rest ih =>
    obtain ⟨hfirst, hrest⟩ := List.forall_mem_cons.1 h
    refine .step hfirst fun r => ?_
    cases r with
    | ok reply => exact ih hrest
    | error failure => exact .fail _

theorem applyAll_sends {migrations : List Migration}
    (hrecord : ∀ x ∈ migrations, P (recordStatement x))
    (h : ∀ x ∈ migrations, ∀ sql ∈ x.statements dim, P (.simple sql)) :
    (applyAll dim migrations).Sends P := by
  induction migrations with
  | nil => exact .done ()
  | cons x rest ih =>
    obtain ⟨hfirst, hrest⟩ := List.forall_mem_cons.1 h
    obtain ⟨hrecorded, hrecords⟩ := List.forall_mem_cons.1 hrecord
    refine (runMigration_sends x hfirst).bind fun _ => ?_
    exact (Work.Sends.send hrecorded).bind fun _ => ih hrecords hrest

end Lists

end Schema

/-- Every text that a deployment sends, except for changes of its dimension: those of transactions,
of new connections and contexts, of operations for a tenant, and of the schema. -/
def vocabulary (schema : String) (dim : Nat) (m : Modules) : List String :=
  Link.controls ++ [Schema.searchPath schema, (contextStatement "" none).sql]
    ++ Call.samples.map Statement.sql ++ Schema.texts schema dim m

/-- The text of the statement belongs to the vocabulary of the settings. -/
def Sql.Statement.Known (s : StoreSettings) (st : Statement) : Prop :=
  st.sql ∈ vocabulary s.schema s.dimension s.modules

namespace Sql.Statement.Known

theorem control {sql : String} (h : sql ∈ Link.controls) : Known s (.simple sql) :=
  List.mem_append_left _ (List.mem_append_left _ (List.mem_append_left _ h))

theorem searchPath : Known s (.simple (Schema.searchPath s.schema)) :=
  List.mem_append_left _ (List.mem_append_left _ (List.mem_append_right _ List.mem_cons_self))

theorem context (id : String) (user : Option String) : Known s (contextStatement id user) :=
  List.mem_append_left _ (List.mem_append_left _
    (List.mem_append_right _ (List.mem_cons_of_mem _ List.mem_cons_self)))

theorem sampled {st : Statement} (h : Call.Sampled st) : Known s st := by
  obtain ⟨sample, hsample, htext⟩ := h
  exact List.mem_append_left _ (List.mem_append_right _
    (List.mem_map.2 ⟨sample, hsample, htext⟩))

theorem schema {st : Statement} (h : st.sql ∈ Schema.texts s.schema s.dimension s.modules) :
    Known s st :=
  List.mem_append_right _ h

end Sql.Statement.Known

namespace Schema

open Sql.Statement (Known)

/-- The statements that operations on the schema send, unless they change the dimension. -/
inductive Own (s : StoreSettings) : Statement → Prop where
  | path : Own s (.simple (searchPath s.schema))
  | change {sql : String} (h : sql ∈ texts s.schema s.dimension s.modules) : Own s (.simple sql)
  | versions : Own s versionQuery
  | record (x : Migration) : Own s (recordStatement x)
  | latest : Own s (.prepared "SELECT MAX(version) FROM schema_migrations" [])

/-- Their texts are those of the schema, and the search path. -/
theorem Own.sql_mem {st : Statement} (h : Own s st) :
    st = .simple (searchPath s.schema) ∨ st.sql ∈ texts s.schema s.dimension s.modules := by
  have hversion {sql : String} (h : sql ∈ versionTexts) :
      sql ∈ texts s.schema s.dimension s.modules :=
    mem_texts.2 (.inr (.inr (.inr (.inl h))))
  cases h with
  | path => exact .inl rfl
  | change h => exact .inr h
  | versions => exact .inr (hversion (List.mem_of_getElem? (i := 1) rfl))
  | record x => exact .inr (hversion (List.mem_of_getElem? (i := 2) rfl))
  | latest => exact .inr (hversion (List.mem_of_getElem? (i := 3) rfl))

theorem Own.known {st : Statement} (h : Own s st) : Known s st := by
  rcases h.sql_mem with rfl | h
  · exact .searchPath
  · exact .schema h

theorem ensure_sends : (ensure s).Sends (· = .bare) (Own s) := by
  have happly (phase : Migration.Phase) (applied : List Int32) :
      (applyAll s.dimension (dueIn applied s.modules phase)).Sends (Own s) := by
    refine applyAll_sends (fun x _ => .record x) fun x hx sql hsql => .change (mem_texts.2 ?_)
    exact .inr (.inr (.inr (.inr (.inl ⟨x, (mem_dueIn.1 hx).1, hsql⟩))))
  refine .onConnection rfl ?_
  rw [ensureWork_eq]
  refine (runAll_sends fun sql hsql => ?_).bind fun _ => ?_
  · exact .change (mem_texts.2 (.inl (List.mem_singleton.1 hsql)))
  refine (tryAll_sends fun sql hsql => ?_).bind fun _ => ?_
  · exact .change (mem_texts.2 (.inr (.inl hsql)))
  refine (runAll_sends ?_).bind fun _ => ?_
  · simp only [List.forall_mem_append, List.forall_mem_singleton]
    refine ⟨⟨.path, fun sql hsql => .change (mem_texts.2 (.inr (.inr (.inl hsql))))⟩, ?_⟩
    exact .change (mem_texts.2 (.inr (.inr (.inr (.inl List.mem_cons_self)))))
  refine ((Work.Sends.rows .versions).bind fun _ => .ofExcept _).bind fun recorded => ?_
  refine (happly _ _).bind fun _ => (happly _ _).bind fun _ => ?_
  refine (tryAll_sends fun sql hsql => .change (mem_texts.2 ?_)).bind fun _ => .done _
  exact .inr (.inr (.inr (.inr (.inr hsql))))

theorem recordedVersion_sends : recordedVersion.Sends (· = .bare) (Own s) :=
  .onConnection rfl ((Work.Sends.scalar .latest).bind fun _ => .done _)

theorem changeDimension_sends {P : Statement → Prop} {dim : Nat}
    (h : ∀ sql ∈ resizeTexts s.modules dim, P (.simple sql)) :
    (changeDimension s dim).Sends (· = .bare) P := by
  unfold changeDimension
  split
  · exact .fail _
  · exact .onConnection rfl (runAll_sends h)

/-! ### Names of schemas -/

/-- A letter of ASCII. -/
def IsLetter (c : Char) : Prop := 'A' ≤ c ∧ c ≤ 'Z' ∨ 'a' ≤ c ∧ c ≤ 'z'

/-- A letter or an underscore, then letters, digits and underscores, of 63 bytes at most. -/
inductive PlainName : String → Prop where
  | intro {name : String} {c : Char} {cs : List Char} (hname : name.toList = c :: cs)
    (hfirst : IsLetter c ∨ c = '_')
    (hrest : ∀ d ∈ cs, IsLetter d ∨ '0' ≤ d ∧ d ≤ '9' ∨ d = '_')
    (hbytes : name.utf8ByteSize ≤ 63) : PlainName name

theorem isAlpha_iff {c : Char} : c.isAlpha = true ↔ IsLetter c := Text.isAlpha_iff

/-- The characters of a plain name have one byte each. -/
theorem utf8Size_of_plain {c : Char} (h : IsLetter c ∨ '0' ≤ c ∧ c ≤ '9' ∨ c = '_') :
    c.utf8Size = 1 := by
  refine Text.utf8Size_of_le ?_
  rcases h with (⟨-, h⟩ | ⟨-, h⟩) | ⟨-, h⟩ | rfl
  · exact Char.le_trans h (by decide)
  · exact h
  · exact Char.le_trans h (by decide)
  · decide

theorem plainName_of_isSqlIdentifier {name : String} (h : isSqlIdentifier name = true) :
    PlainName name := by
  rw [isSqlIdentifier] at h
  cases hname : name.toList with
  | nil => simp [hname] at h
  | cons c cs =>
    simp only [hname, Bool.and_eq_true, Bool.or_eq_true, beq_iff_eq, decide_eq_true_eq,
      List.all_eq_true, Char.isAlphanum, isAlpha_iff, Text.isDigit_iff, or_assoc] at h
    obtain ⟨⟨hfirst, hlength⟩, hrest⟩ := h
    refine .intro hname hfirst hrest ?_
    have hplain : ∀ d ∈ c :: cs, d.utf8Size = 1 := by
      refine List.forall_mem_cons.2 ⟨utf8Size_of_plain ?_, ?_⟩
      · exact hfirst.imp_right .inr
      · exact fun d hd => utf8Size_of_plain (hrest d hd)
    rw [Text.utf8ByteSize_eq_length (hname ▸ hplain), hname]
    exact hlength

end Schema

/-! ### Sessions -/

namespace Call

theorem plainName_of_validate (h : s.validate = .ok ()) : Schema.PlainName s.schema := by
  refine Schema.plainName_of_isSqlIdentifier ?_
  rw [StoreSettings.validate] at h
  by_cases hname : isSqlIdentifier s.schema = true
  · exact hname
  · simp only [Bool.eq_false_iff.2 hname, Bool.not_false, if_true] at h
    split at h <;> cases h

/-- What an operation sends belongs to the vocabulary, or changes the dimension. -/
theorem texts_sent [Server σ] (c : Call) {p : Pool σ} (hp : p.Reachable s) :
    ∀ e ∈ (c.operation s).sent p, e.statement.Known s ∨
      ∃ dim, c = changeDimension dim ∧ e.statement.sql ∈ Schema.resizeTexts s.modules dim := by
  have hpath : (Statement.simple (Schema.searchPath p.schema)).Known s := by
    rw [hp.schema_eq]
    exact .searchPath
  have hknown {F : Frame → Prop} (h : (c.operation s).Sends F (Statement.Known s)) :
      ∀ e ∈ (c.operation s).sent p, e.statement.Known s :=
    h.all_sent hp.atRest (fun _ => .control) hpath fun id user _ _ => .context id user
  cases htenant : c.tenant? with
  | some id =>
    have hsends := sends_issued s htenant
    exact fun e he => .inl (hknown (hsends.mono fun _ hst => .sampled hst.sampled) e he)
  | none =>
    cases c with
    | ensureSchema =>
      have hsends := Schema.ensure_sends.mono fun _ => Schema.Own.known (s := s)
      exact fun e he => .inl (hknown hsends e he)
    | schemaVersion =>
      have hsends := Schema.recordedVersion_sends.mono fun _ => Schema.Own.known (s := s)
      exact fun e he => .inl (hknown hsends e he)
    | changeDimension dim =>
      have hsends : (Schema.changeDimension s dim).Sends (· = .bare) fun st => st.Known s ∨
          ∃ dim', changeDimension dim = changeDimension dim' ∧
            st.sql ∈ Schema.resizeTexts s.modules dim' :=
        Schema.changeDimension_sends fun sql hsql => .inr ⟨dim, rfl, hsql⟩
      exact hsends.all_sent hp.atRest (fun _ h => .inl (.control h)) (.inl hpath)
        fun id user _ _ => .inl (.context id user)
    | _ => cases htenant

/-- Calls one after the other. -/
def session [Server σ] (s : StoreSettings) (calls : List Call) (p : Pool σ) : Pool σ :=
  calls.foldl (fun p c => ((c.operation s).run p).2) p

/-- **No text holds what a caller handed over.**  Under valid settings, whatever is called with
whatever arguments and whatever the server answers, every statement that is sent has a text of the
vocabulary, which the schema, the dimension and the optional groups of tables determine; a change of
the dimension adds texts that its number determines.  The name of the schema is a plain one. -/
theorem session_texts (h : s.validate = .ok ()) :
    Schema.PlainName s.schema ∧
      ∀ {σ : Type} [Server σ] (server : σ) (calls : List Call),
        ∀ e ∈ (session s calls (Pool.ofSettings server s)).wire.log,
          e.statement.sql ∈ vocabulary s.schema s.dimension s.modules ∨
            ∃ dim, changeDimension dim ∈ calls ∧
              e.statement.sql ∈ Schema.resizeTexts s.modules dim := by
  refine ⟨plainName_of_validate h, ?_⟩
  intro σ _ server calls
  suffices hsuffix : ∀ p : Pool σ, p.Reachable s → ∀ e ∈ (session s calls p).wire.log,
      e ∈ p.wire.log ∨ e.statement.Known s ∨ ∃ dim, changeDimension dim ∈ calls ∧
        e.statement.sql ∈ Schema.resizeTexts s.modules dim by
    intro e he
    exact (hsuffix _ (.opened server) e he).resolve_left nofun
  -- by induction on the calls, from any pool of the deployment
  induction calls with
  | nil => exact fun p _ e he => .inl he
  | cons c rest ih =>
    intro p hp e he
    rcases ih _ (hp.run (c.operation s)) e he with he | he | ⟨dim, hdim, he⟩
    · rw [Operation.log_run, List.mem_append] at he
      rcases he with he | he
      · exact .inl he
      · rcases texts_sent c hp e he with he | ⟨dim, rfl, htext⟩
        · exact .inr (.inl he)
        · exact .inr (.inr ⟨dim, List.mem_cons_self, htext⟩)
    · exact .inr (.inl he)
    · exact .inr (.inr ⟨dim, List.mem_cons_of_mem _ hdim, he⟩)

/-- The default settings with an address. -/
def addressed : StoreSettings := { StoreSettings.default with databaseUrl := "postgres://db/brain" }

/-- A user whose name is meant to end the statement, and a change of the dimension. -/
def quoting : List Call := [beliefs "acme" "u1'; DROP TABLE user_facts; --", changeDimension 3]

/-- What is sent for them. -/
def quoted : List Sent :=
  (session addressed quoting (Pool.ofSettings (⟨[]⟩ : Replies) addressed)).wire.log

theorem session_texts_quoted :
    quoted.length = 13 ∧ Schema.PlainName addressed.schema ∧
      ∀ e ∈ quoted,
        e.statement.sql ∈ vocabulary addressed.schema addressed.dimension addressed.modules ∨
          ∃ dim, changeDimension dim ∈ quoting ∧
            e.statement.sql ∈ Schema.resizeTexts addressed.modules dim :=
  have htexts := session_texts (s := addressed) (by rfl)
  ⟨by decide +kernel, htexts.1, htexts.2 (⟨[]⟩ : Replies) quoting⟩

end Call

end KnowledgeBase
