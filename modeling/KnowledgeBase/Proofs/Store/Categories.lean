import KnowledgeBase.Call
import KnowledgeBase.Proofs.Connection.Stops
import KnowledgeBase.Proofs.Schema.Texts
import KnowledgeBase.Proofs.Store.Writes

/-!
# The category of an error

A failed statement belongs to a category, and callers go by the category of the error that they are
given.  Every operation but one hands on the error that its first failure belongs to.  The exception
is a run of the migrations: a failure within a migration becomes an error of its own, which names
the migration and belongs to the general category, so that neither a missing table nor a lost
connection can be told from it.

## Main definitions

* `StoreError.SameCategory` — what callers can tell of two errors is the same.
* `Work.Faithful`, `Operation.Faithful` — every failure ends the work, with the error that it
  belongs to.
* `Call.PassesOver`, `Call.Migrates` — the statements whose failures a call passes over, and those
  that it sends for a migration.
* `Call.FailsAt` — the first failure of a call.

## Main results

* `Call.stops` — what every call makes of its first failure.
* `Call.category_iff` — the category survives exactly if no migration loses it.
-/

namespace KnowledgeBase

open Sql

variable {σ α β : Type}

/-- The errors have the same code, and the same answer to whether the call may succeed later. -/
def StoreError.SameCategory (e e' : StoreError) : Prop :=
  e.code = e'.code ∧ e.isTransient = e'.isTransient

/-- Every failure ends the program, and its error is the one that the failure belongs to. -/
abbrev Work.Faithful (w : Work α) : Prop :=
  w.Stops (fun _ => False) fun _ f e => e = f.classify

/-- Every failure ends the operation, and its error is the one that the failure belongs to. -/
abbrev Operation.Faithful (o : Operation α) : Prop :=
  o.Stops (fun _ => False) fun _ f e => e = f.classify

namespace Operation.Faithful

theorem forTenant {tenant : String} {user : Option String} {w : Work α} (h : w.Faithful) :
    (Operation.forTenant tenant user w).Faithful := .within (.inr fun _ _ => rfl) h .done

/-- Most readings send one statement in a frame of their own and decode its rows afterwards. -/
theorem reading {tenant : String} {user : Option String} (s : Statement)
    (decode : List Row → Except StoreError β) :
    (Operation.forTenant tenant user (Work.rows s) >>= fun rows =>
      (liftM (decode rows) : Operation β)).Faithful :=
  (forTenant (.rows fun _ => rfl)).bind fun _ => .ofExcept _

end Operation.Faithful

/-! ### Operations for a tenant -/

open Operation.Stops (check)
open Operation.Faithful (forTenant reading)

variable (s : StoreSettings) (tenant : String)

namespace Graph

theorem sendEffective_faithful (st : Statement) (refusal : Refusal) :
    (sendEffective st refusal).Faithful := by
  refine (Work.Stops.affected fun _ => rfl).bind fun n => ?_
  split
  · exact .fail _
  · exact .done _

theorem writeNodes_faithful (user : Option String) (nodes : List Node) :
    (writeNodes tenant user nodes).Faithful := by
  induction nodes with
  | nil => exact .done _
  | cons n rest ih => exact (sendEffective_faithful _ _).bind fun _ => ih

theorem writeEdges_faithful (edges : List Edge) : (writeEdges tenant edges).Faithful := by
  induction edges with
  | nil => exact .done _
  | cons e rest ih => exact (sendEffective_faithful _ _).bind fun _ => ih

theorem writes_faithful (user : Option String) (nodes : List Node) (edges : List Edge) :
    (writeNodes tenant user nodes >>= fun _ => writeEdges tenant edges).Faithful :=
  (writeNodes_faithful tenant user nodes).bind fun _ => writeEdges_faithful tenant edges

theorem upsert_faithful (user : Option String) (nodes : List Node) (edges : List Edge) :
    (upsert s tenant user nodes edges).Faithful := by
  refine check fun _ => ?_
  split
  · exact .done _
  · exact forTenant (writes_faithful tenant user nodes edges)

theorem walk_faithful (w : Walk) : (walk w).Faithful := by
  unfold walk
  split
  · exact .done _
  · exact (Work.Stops.rows fun _ => rfl).bind fun _ => .ofExcept _

theorem search_faithful (w : Walk) : (search s w).Faithful := by
  refine check fun _ => ?_
  split
  · exact .done _
  · refine forTenant ((walk_faithful w).bind fun edges => ?_)
    exact (Work.Stops.rows fun _ => rfl).bind fun _ =>
      (Work.Stops.ofExcept _).bind fun _ => .done _

theorem facts_faithful (w : Walk) : (facts w).Faithful := by
  refine check fun _ => ?_
  split
  · exact .done _
  · exact forTenant ((walk_faithful w).bind fun _ => .done _)

theorem upsertAlias_faithful (a : Alias) : (upsertAlias tenant a).Faithful :=
  check fun _ => check fun _ => check fun _ => forTenant (sendEffective_faithful _ _)

theorem resolveAliases_faithful (names : List String) :
    (resolveAliases tenant names).Faithful := by
  refine check fun _ => ?_
  split
  · exact .done _
  · exact (forTenant (.rows fun _ => rfl)).bind fun _ => check fun _ => .done _

end Graph

namespace Search

theorem ranking_faithful (useful : Bool) (st : Statement) :
    (ranking tenant useful st).Faithful := by
  unfold ranking
  split
  · exact reading _ _
  · exact .done _

theorem hybrid_faithful (r : Request) : (hybrid s r).Faithful := by
  unfold hybrid
  split
  · exact .done _
  · split
    · exact .done _
    · refine check fun _ => (ranking_faithful _ _ _).bind fun _ =>
        (ranking_faithful _ _ _).bind fun _ => ?_
      simp only
      split
      · exact .done _
      · exact (forTenant (.rows fun _ => rfl)).bind fun _ => check fun _ => .done _

end Search

namespace Memory

theorem addEpisode_faithful (e : Episode.Draft) : (addEpisode s e).Faithful :=
  check fun _ => check fun _ => check fun _ => check fun _ =>
    (forTenant (.send fun _ => rfl)).bind fun _ => .done _

theorem recentEpisodes_faithful (user : String) (limit : UInt32) :
    (recentEpisodes tenant user limit).Faithful := by
  refine check fun _ => check fun _ => ?_
  split
  · exact .done _
  · exact reading _ _

theorem oldEpisodes_faithful (days limit : UInt32) :
    (oldEpisodes tenant days limit).Faithful := by
  refine check fun _ => ?_
  split
  · exact .done _
  · exact reading _ _

theorem deleteEpisodes_faithful (days : UInt32) (ids : Option (List Uuid)) :
    (deleteEpisodes tenant days ids).Faithful := by
  refine check fun _ => ?_
  split
  · exact .done _
  · exact forTenant (.affected fun _ => rfl)

theorem countEpisodes_faithful : (countEpisodes tenant).Faithful :=
  check fun _ => (forTenant (.single fun _ => rfl)).bind fun _ => .ofExcept _

theorem upsertBelief_faithful (user key : String) (value : Json) (confidence : Float)
    (source : Option Uuid) :
    (upsertBelief tenant user key value confidence source).Faithful :=
  check fun _ => check fun _ => check fun _ => check fun _ =>
    (forTenant (.send fun _ => rfl)).bind fun _ => .done _

theorem beliefs_faithful (user : String) : (beliefs tenant user).Faithful :=
  check fun _ => check fun _ => reading _ _

end Memory

namespace Catalog

theorem upsert_faithful (e : Entry) : (upsert s e).Faithful :=
  check fun _ => check fun _ => check fun _ => check fun _ =>
    (forTenant (.send fun _ => rfl)).bind fun _ => .done _

theorem entries_faithful (domain : Option Domain) : (entries s tenant domain).Faithful :=
  check fun _ => check fun _ => reading _ _

end Catalog

namespace Trace

theorem append_faithful (id : Uuid) (t : Draft) : (append id t).Faithful :=
  check fun _ => check fun _ => (forTenant (.send fun _ => rfl)).bind fun _ => .done _

theorem list_faithful (q : Query) : (list q).Faithful := by
  refine check fun _ => ?_
  split
  · exact .done _
  · exact reading _ _

end Trace

namespace News

theorem upsertRaw_faithful (i : RawItem) : (upsertRaw s i).Faithful :=
  check fun _ => check fun _ => check fun _ => check fun _ => forTenant (.scalar fun _ => rfl)

theorem upsertFact_faithful (f : Fact) : (upsertFact s f).Faithful :=
  check fun _ => check fun _ => check fun _ => check fun _ => check fun _ =>
    forTenant (.scalar fun _ => rfl)

theorem upsertPost_faithful (p : Post) : (upsertPost s p).Faithful := by
  refine check fun _ => check fun _ => check fun _ => check fun _ => check fun _ => ?_
  refine forTenant ((Work.Stops.scalar? fun _ => rfl).bind fun stored => ?_)
  cases stored with
  | none => exact .fail _
  | some id => exact .done id

theorem markPublished_faithful (id : String) (message : Int64) :
    (markPublished s tenant id message).Faithful :=
  check fun _ => check fun _ => check fun _ =>
    (forTenant (.affected fun _ => rfl)).bind fun _ => .done _

theorem recentFacts_faithful (limit : UInt32) (since : Option Timestamp) :
    (recentFacts s tenant limit since).Faithful := by
  refine check fun _ => check fun _ => ?_
  split
  · exact .done _
  · exact reading _ _

theorem searchFacts_faithful (v : List Float32) (limit : UInt32) (least : Float) :
    (searchFacts s tenant v limit least).Faithful := by
  refine check fun _ => check fun _ => check fun _ => ?_
  split
  · exact .done _
  · exact reading _ _

theorem searchPosts_faithful (v : List Float32) (limit : UInt32) :
    (searchPosts s tenant v limit).Faithful := by
  refine check fun _ => check fun _ => check fun _ => ?_
  split
  · exact .done _
  · exact reading _ _

end News

/-! ### Operations on the schema -/

namespace Schema

section Lists

variable {soft : Statement → Prop} {label : Statement → Failure → StoreError → Prop}

theorem runAll_stops {texts : List String}
    (h : ∀ sql ∈ texts, ∀ f, label (.simple sql) f f.classify) :
    (runAll texts).Stops soft label := by
  induction texts with
  | nil => exact .done ()
  | cons sql rest ih =>
    obtain ⟨hfirst, hrest⟩ := List.forall_mem_cons.1 h
    exact (Work.Stops.send hfirst).bind fun _ => ih hrest

theorem tryAll_stops {texts : List String} (h : ∀ sql ∈ texts, soft (.simple sql)) :
    (tryAll texts).Stops soft label := by
  induction texts with
  | nil => exact .done 0
  | cons sql rest ih =>
    obtain ⟨hfirst, hrest⟩ := List.forall_mem_cons.1 h
    exact (Work.Stops.attempt hfirst).bind fun _ => (ih hrest).bind fun _ => .done _

end Lists

theorem recordedVersion_faithful : recordedVersion.Faithful :=
  .onConnection ((Work.Stops.scalar fun _ => rfl).bind fun _ => .done _)

theorem changeDimension_faithful (dim : Nat) : (changeDimension s dim).Faithful := by
  unfold changeDimension
  split
  · exact .fail _
  · exact .onConnection (runAll_stops fun _ _ _ => rfl)

/-- The statements that may fail without ending a run: those for extensions and for policies. -/
def Optional (s : StoreSettings) (st : Statement) : Prop :=
  ∃ sql ∈ extensions ++ policies s.schema s.modules.tenantTables, st = .simple sql

/-- The statements of migrations. -/
def Migrates (s : StoreSettings) (st : Statement) : Prop :=
  ∃ x ∈ Migration.all, ∃ sql ∈ x.statements s.dimension, st = .simple sql

/-- The errors of a run.  A failure within a migration becomes the error of the migration. -/
def RunError (s : StoreSettings) (st : Statement) (f : Failure) (e : StoreError) : Prop :=
  ¬ Migrates s st ∧ e = f.classify ∨ Migrates s st ∧ ∃ x, e = migrationError x f

variable {s}

theorem RunError.of_prepared (sql : String) (values : List Value) (f : Failure) :
    RunError s (.prepared sql values) f f.classify := by
  refine .inl ⟨?_, rfl⟩
  rintro ⟨_, _, _, _, hsame⟩
  cases hsame

theorem RunError.of_isFrame {sql : String} (h : IsFrame sql) (f : Failure) :
    RunError s (.simple sql) f f.classify := by
  refine .inl ⟨?_, rfl⟩
  rintro ⟨x, hx, _, hsql, hsame⟩
  cases hsame
  exact (isChange_of_mem hx hsql).not_isFrame h

theorem runMigration_stops {soft : Statement → Prop} {x : Migration} (hx : x ∈ Migration.all)
    {texts : List String} (h : texts ⊆ x.statements s.dimension) :
    (runMigration x texts).Stops soft (RunError s) := by
  induction texts with
  | nil => exact .done ()
  | cons sql rest ih =>
    obtain ⟨hfirst, hrest⟩ := List.cons_subset.1 h
    have hmigrates : Migrates s (.simple sql) := ⟨x, hx, sql, hfirst, rfl⟩
    exact .hard (fun f => ⟨migrationError x f, rfl, .inr ⟨hmigrates, x, rfl⟩⟩) fun _ => ih hrest

theorem applyAll_stops {soft : Statement → Prop} {migrations : List Migration}
    (h : ∀ x ∈ migrations, x ∈ Migration.all) :
    (applyAll s.dimension migrations).Stops soft (RunError s) := by
  induction migrations with
  | nil => exact .done ()
  | cons x rest ih =>
    obtain ⟨hx, hrest⟩ := List.forall_mem_cons.1 h
    refine (runMigration_stops hx (List.Subset.refl _)).bind fun _ => ?_
    exact (Work.Stops.send fun f => .of_prepared _ _ f).bind fun _ => ih hrest

theorem ensure_stops : (ensure s).Stops (Optional s) (RunError s) := by
  -- whatever the settings, these texts open otherwise than those of migrations
  have hframe : ∀ sql ∈ [searchPath s.schema] ++ layout s.dimension s.modules
      ++ [migrationsTable.create], IsFrame sql := by
    simp only [List.forall_mem_append, List.forall_mem_singleton]
    exact ⟨⟨isFrame_searchPath _, isFrame_layout _ _⟩, isFrame_create _⟩
  refine .onConnection ?_
  rw [ensureWork_eq]
  refine (runAll_stops fun sql hsql f => ?_).bind fun _ => ?_
  · cases List.mem_singleton.1 hsql
    exact .of_isFrame (isFrame_createSchema _) f
  refine (tryAll_stops fun sql hsql => ?_).bind fun _ => ?_
  · exact ⟨sql, List.mem_append_left _ hsql, rfl⟩
  refine (runAll_stops fun sql hsql f => .of_isFrame (hframe sql hsql) f).bind fun _ => ?_
  refine Work.Stops.bind ?_ fun recorded => ?_
  · exact (Work.Stops.rows fun f => .of_prepared _ _ f).bind fun _ => .ofExcept _
  refine (applyAll_stops fun x hx => (mem_dueIn.1 hx).1).bind fun _ => ?_
  refine (applyAll_stops fun x hx => (mem_dueIn.1 hx).1).bind fun _ => ?_
  refine (tryAll_stops fun sql hsql => ?_).bind fun _ => .done _
  exact ⟨sql, List.mem_append_right _ hsql, rfl⟩

end Schema

/-! ### Every call -/

/-- The category of an error tells whether the call may succeed later. -/
theorem StoreError.isTransient_eq (e : StoreError) :
    e.isTransient = (e.code == "DB_CONNECTION_ERROR" || e.code == "POOL_TIMEOUT") := by
  cases e <;> rfl

theorem StoreError.sameCategory_of_code {e e' : StoreError} (h : e.code = e'.code) :
    e.SameCategory e' := ⟨h, by rw [isTransient_eq, isTransient_eq, h]⟩

namespace Call

/-- Every call but one for the schema makes of a failure the error that it belongs to. -/
theorem faithful {c : Call} (h : c ≠ ensureSchema) : (c.operation s).Faithful := by
  cases c with
  | upsertGraph id user nodes edges => exact Graph.upsert_faithful s id user nodes edges
  | searchGraph walk => exact Graph.search_faithful s walk
  | fetchTriples walk => exact Graph.facts_faithful walk
  | upsertAlias id name => exact Graph.upsertAlias_faithful id name
  | resolveAliases id names => exact Graph.resolveAliases_faithful id names
  | searchHybrid request => exact Search.hybrid_faithful s request
  | addEpisode draft => exact Memory.addEpisode_faithful s draft
  | recentEpisodes id user limit => exact Memory.recentEpisodes_faithful id user limit
  | oldEpisodes id days limit => exact Memory.oldEpisodes_faithful id days limit
  | deleteEpisodes id days ids => exact Memory.deleteEpisodes_faithful id days ids
  | countEpisodes id => exact Memory.countEpisodes_faithful id
  | upsertBelief id user key value confidence source =>
    exact Memory.upsertBelief_faithful id user key value confidence source
  | beliefs id user => exact Memory.beliefs_faithful id user
  | upsertEntry entry => exact Catalog.upsert_faithful s entry
  | entries id domain => exact Catalog.entries_faithful s id domain
  | appendTrace id draft => exact Trace.append_faithful id draft
  | listTraces query => exact Trace.list_faithful query
  | upsertRaw item => exact News.upsertRaw_faithful s item
  | upsertNewsFact fact => exact News.upsertFact_faithful s fact
  | recentNewsFacts id limit since => exact News.recentFacts_faithful s id limit since
  | searchNewsFacts id vector limit least =>
    exact News.searchFacts_faithful s id vector limit least
  | upsertPost post => exact News.upsertPost_faithful s post
  | markPublished id post message => exact News.markPublished_faithful s id post message
  | searchPosts id vector limit => exact News.searchPosts_faithful s id vector limit
  | ensureSchema => exact absurd rfl h
  | schemaVersion => exact Schema.recordedVersion_faithful
  | changeDimension dim => exact Schema.changeDimension_faithful s dim
  | tenantSession id user ending =>
    exact check fun _ => .within (.inr fun _ _ => rfl) (.done _) .done

/-- The statements that a call sends and whose failures it passes over. -/
def PassesOver (s : StoreSettings) (c : Call) (st : Statement) : Prop :=
  c = ensureSchema ∧ Schema.Optional s st

/-- The statements that a call sends for a migration. -/
def Migrates (s : StoreSettings) (c : Call) (st : Statement) : Prop :=
  c = ensureSchema ∧ Schema.Migrates s st

/-- The first statement of a call that fails and is not passed over, with the failure. -/
def FailsAt [Server σ] (s : StoreSettings) (c : Call) (p : Pool σ) : Statement → Failure → Prop :=
  FirstFailure (c.PassesOver s) ((c.operation s).attempts p)

theorem stops (c : Call) : (c.operation s).Stops (c.PassesOver s) fun st f e =>
    ¬ c.Migrates s st ∧ e = f.classify ∨ c.Migrates s st ∧ ∃ x, e = Schema.migrationError x f := by
  by_cases h : c = ensureSchema
  · subst h
    refine Schema.ensure_stops.mono (fun _ hsoft => ⟨rfl, hsoft⟩) fun st f e he => ?_
    exact he.imp (.imp_left fun hnot hmigrates => hnot hmigrates.2) (.imp_left (⟨rfl, ·⟩))
  · refine (faithful s h).mono (fun _ => False.elim) fun st f e he => ?_
    exact .inl ⟨fun hmigrates => h hmigrates.1, he⟩

/-- **The category of the first failure survives**, whatever the operation and whatever was done
before, exactly if the statement that failed is not one of a migration, or the failure belongs to no
category of its own.  Any other failure on the record is passed over, or is of a statement that the
connection sent for its own sake. -/
theorem category_iff [Server σ] (c : Call) {p : Pool σ} (hp : p.Reachable s) :
    (∀ e ∈ (c.operation s).sent p, ∀ f, e.reply.failure? = some f →
      e.statement.Overhead ∨ c.PassesOver s e.statement ∨ c.FailsAt s p e.statement f) ∧
    ∀ st f, c.FailsAt s p st f → ∃ e, ((c.operation s).run p).1 = .error e ∧
      (e.SameCategory f.classify ↔
        (c.Migrates s st → f.classify.code = "DB_QUERY_ERROR")) := by
  refine ⟨fun e he f hf => (stops s c).first_of_sent hp.atRest he hf, fun st f hfirst => ?_⟩
  obtain ⟨e, hanswer, hlabel⟩ := (stops s c).error hfirst
  refine ⟨e, hanswer, ?_⟩
  rcases hlabel with ⟨hnot, rfl⟩ | ⟨hmigrates, x, rfl⟩
  · exact ⟨fun _ h => absurd h hnot, fun _ => ⟨rfl, rfl⟩⟩
  · refine ⟨fun hsame _ => hsame.1.symm, fun hcode => ?_⟩
    exact StoreError.sameCategory_of_code (hcode hmigrates).symm

/-- A pool whose server refuses a second row of the same key. -/
def duplicateKey : Pool Replies :=
  .replying [.done 0, .done 0, .done 0, .done 0, .done 0, .error "23505" "duplicate key"]

theorem category_iff_duplicateKey :
    duplicateKey.Reachable .default ∧
      newAlias.FailsAt .default duplicateKey
        (Graph.aliasStatement "acme" ⟨"Bob", "n1", "crm"⟩) (.database "23505" "duplicate key") ∧
      ∃ e, ((newAlias.operation .default).run duplicateKey).1 = .error e ∧
        e.code = "CONSTRAINT_VIOLATION" ∧ e.isTransient = false := by
  have hfails : newAlias.FailsAt .default duplicateKey
      (Graph.aliasStatement "acme" ⟨"Bob", "n1", "crm"⟩)
      (.database "23505" "duplicate key") :=
    ⟨fun h => (nomatch h.1), [⟨.simple "BEGIN", .ok (.done 0)⟩], [], rfl, .answered _ _⟩
  obtain ⟨e, hanswer, hsame⟩ := (category_iff .default newAlias (.opened _)).2 _ _ hfails
  obtain ⟨hcode, htransient⟩ := hsame.2 fun h => nomatch h.1
  exact ⟨.opened _, hfails, e, hanswer, hcode, htransient⟩

/-- A pool whose server has applied one migration and lacks a type that the next one needs. -/
def missingType : Pool Replies :=
  .replying (Schema.telling [1] ++
    [.done 0, .done 0, .done 0, .error "42704" "type \"ltree\" does not exist"])

/-- **A migration loses the category**: the type is missing, but the error does not tell. -/
theorem not_sameCategory_missingType :
    ∃ sql f e, ensureSchema.FailsAt .default missingType (.simple sql) f ∧
      ((ensureSchema.operation .default).run missingType).1 = .error e ∧
      f.classify.code = "SCHEMA_MISMATCH" ∧ e.code = "DB_QUERY_ERROR" ∧
      ¬ e.SameCategory f.classify := by
  have hrefused : ((Schema.ensure .default).attempts missingType).filterMap Attempt.refused? =
      [(some (Schema.addColumn "knowledge_nodes" "taxonomy_path" "LTREE NULL"),
        .database "42704" "type \"ltree\" does not exist")] := by
    rw [Schema.ensure, Schema.ensureWork_eq]
    decide +kernel
  have hhard : ¬ ensureSchema.PassesOver .default
      (.simple (Schema.addColumn "knowledge_nodes" "taxonomy_path" "LTREE NULL")) := by
    rintro ⟨-, sql, hsql, hsame⟩
    cases hsame
    revert hsql
    decide +kernel
  have hfails : ensureSchema.FailsAt .default missingType _ _ :=
    .of_refused hrefused hhard
  obtain ⟨e, hanswer, hlabel⟩ := (stops .default ensureSchema).error hfails
  have hmigrates : ensureSchema.Migrates .default
      (.simple (Schema.addColumn "knowledge_nodes" "taxonomy_path" "LTREE NULL")) :=
    ⟨rfl, _, List.mem_cons_of_mem _ List.mem_cons_self, _, by simp, rfl⟩
  obtain ⟨-, x, rfl⟩ := hlabel.resolve_left fun h => h.1 hmigrates
  have hclass : (Failure.database "42704" "type \"ltree\" does not exist").classify.code =
      "SCHEMA_MISMATCH" := by decide
  refine ⟨_, _, _, hfails, hanswer, hclass, rfl, fun hsame => ?_⟩
  have hcode : "DB_QUERY_ERROR" = "SCHEMA_MISMATCH" := hsame.1.trans hclass
  exact absurd hcode (by decide)

end Call

end KnowledgeBase
