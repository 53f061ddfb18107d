import KnowledgeBase.Proofs.Schema.Texts

/-!
# Resuming migrations

A run of the migrations may stop at any statement, and whatever it has done until then stays done.
What is recorded of a migration is written after its statements, so the next run takes up the work
where it was left: it goes through the recorded migrations without touching them and begins the
first that is not recorded anew.  A deployment is followed here over any number of such runs, each
with settings of its own, on a database that reports what is recorded truthfully.

## Main definitions

* `Schema.recordedAfter` — the versions that a database has recorded after some statements.
* `Schema.Launch` — a run with its settings and its pool.
* `Schema.Launch.Resumes`, `Schema.Launch.Idle` — a run that takes up the work where it was left;
  one that finds nothing to do.
* `Schema.History` — runs one after the other on one database.

## Main results

* `Schema.Launch.course` — what is sent in a run is what is carried of its plan.
* `Schema.Launch.Course.resumption` — every run takes up the work where it was left.
* `Schema.History.resumes` — so does every run in the life of a database, and what is recorded stays
  recorded.
-/

namespace KnowledgeBase.Schema

open Sql

/-! ### What is recorded -/

/-- The version that a statement records, if it records one. -/
def recordedBy? : Statement → Option Int32
  | .prepared sql [.int4 v, _] => if sql = recordText then some v else none
  | _ => none

/-- The words that open statements which take rows or tables away. -/
def erasingWords : List String :=
  ["DELETE", "TRUNCATE", "UPDATE", "MERGE", "DROP TABLE", "DROP SCHEMA", "DROP DATABASE",
    "DROP OWNED"]

/-- A statement takes rows or tables away. -/
def erases (s : Statement) : Bool := erasingWords.any fun words => decide (Opens words s.sql)

/-- The versions recorded after a statement.  One that failed changes nothing, and one that takes
rows or tables away is taken to leave none. -/
def recordedNext (recorded : List Int32) (e : Sent) : List Int32 :=
  if e.reply.failure?.isSome then recorded
  else if erases e.statement then []
  else recorded ++ (recordedBy? e.statement).toList

/-- The versions recorded after some statements. -/
def recordedAfter (recorded : List Int32) (sent : List Sent) : List Int32 :=
  sent.foldl recordedNext recorded

/-- Where nothing is taken away, what is recorded was recorded before, or is the version of a
statement that succeeded. -/
theorem mem_recordedAfter {recorded : List Int32} {sent : List Sent}
    (h : ∀ e ∈ sent, erases e.statement = false) {v : Int32} :
    v ∈ recordedAfter recorded sent ↔
      v ∈ recorded ∨ ∃ e ∈ sent, e.reply.failure? = none ∧ recordedBy? e.statement = some v := by
  induction sent generalizing recorded with
  | nil => simp [recordedAfter]
  | cons e rest ih =>
    obtain ⟨hfirst, hrest⟩ := List.forall_mem_cons.1 h
    have hnext : v ∈ recordedNext recorded e ↔
        v ∈ recorded ∨ e.reply.failure? = none ∧ recordedBy? e.statement = some v := by
      rw [recordedNext, hfirst]
      cases e.reply.failure? <;> simp [eq_comm]
    rw [recordedAfter, List.foldl_cons, ← recordedAfter, ih hrest, hnext]
    simp only [List.mem_cons, exists_eq_or_imp, or_assoc]

@[simp] theorem recordedBy?_recordStatement (x : Migration) :
    recordedBy? (recordStatement x) = some x.version := by
  simp [recordStatement, recordedBy?]

/-! ### The statements of a plan -/

/-- A statement of some migrations, with embeddings of a dimension, or one outside migrations. -/
inductive Planned (dim : Nat) (migrations : List Migration) : Statement → Prop where
  | frame {sql : String} (h : IsFrame sql) : Planned dim migrations (.simple sql)
  | query : Planned dim migrations versionQuery
  | change {x : Migration} (hx : x ∈ migrations) {sql : String} (h : sql ∈ x.statements dim) :
    Planned dim migrations (.simple sql)
  | record {x : Migration} (hx : x ∈ migrations) : Planned dim migrations (recordStatement x)

/-- A statement without values that stands outside migrations. -/
def Framing (st : Statement) : Prop := ∃ sql, st = .simple sql ∧ IsFrame sql

theorem Framing.planned {st : Statement} (h : Framing st) (dim : Nat)
    (migrations : List Migration) : Planned dim migrations st := by
  obtain ⟨sql, rfl, hframe⟩ := h
  exact .frame hframe

theorem framing_groundwork (s : StoreSettings) : ∀ step ∈ groundwork s, Framing step.statement := by
  simp only [groundwork, List.forall_mem_append, List.forall_mem_cons, List.forall_mem_map]
  refine ⟨⟨⟨_, rfl, isFrame_createSchema _⟩, fun sql h => ⟨sql, rfl, isFrame_extensions sql h⟩⟩,
    ⟨⟨⟨_, rfl, isFrame_searchPath _⟩, List.forall_mem_nil _⟩,
      fun sql h => ⟨sql, rfl, isFrame_layout _ _ sql h⟩⟩,
    ⟨_, rfl, isFrame_create _⟩, List.forall_mem_nil _⟩

theorem planned_block (dim : Nat) {migrations : List Migration} {x : Migration}
    (hx : x ∈ migrations) : ∀ step ∈ block dim x, Planned dim migrations step.statement := by
  simp only [block, List.forall_mem_append, List.forall_mem_cons, List.forall_mem_map]
  exact ⟨fun sql h => .change hx h, .record hx, List.forall_mem_nil _⟩

theorem planned_plan (s : StoreSettings) (recorded : List Int32) :
    ∀ step ∈ plan s recorded, Planned s.dimension (due recorded s.modules) step.statement := by
  simp only [plan, upgrade, List.forall_mem_append, List.forall_mem_cons, List.forall_mem_map]
  refine ⟨fun step h => (framing_groundwork s step h).planned _ _, .query, ?_,
    fun sql h => .frame (isFrame_policies _ _ sql h)⟩
  intro step hstep
  obtain ⟨x, hx, hblock⟩ := List.mem_flatMap.1 hstep
  exact planned_block _ hx step hblock

theorem mem_all_of_mem_due {m : Modules} {x : Migration} (h : x ∈ due recorded m) :
    x ∈ Migration.all := (mem_due.1 h).1

/-- Of the planned texts, only those of migrations may open with these words. -/
def OnlyChanges (words : String) : Prop :=
  (∀ words' ∈ frameOpenings, ¬ Clash words words') ∧ ¬ Clash words versionQuery.sql ∧
    ¬ Clash words recordText

instance (words : String) : Decidable (OnlyChanges words) :=
  inferInstanceAs (Decidable (_ ∧ _ ∧ _))

/-- No opening of a planned text takes anything away. -/
theorem erasingWords_apart :
    ∀ words ∈ erasingWords, OnlyChanges words ∧ ∀ a ∈ changeOpenings, ¬ Clash words a.2 := by
  decide +kernel

namespace Planned

variable {dim : Nat} {migrations : List Migration} {st : Statement}

/-- Which migrations a planned text may belong to shows in the words that it opens with. -/
theorem change_of_opens (h : Planned dim migrations st)
    (hall : ∀ x ∈ migrations, x ∈ Migration.all) {words : String} (hwords : OnlyChanges words)
    (hopens : Opens words st.sql) :
    ∃ x ∈ migrations, ∃ words', (x.version, words') ∈ changeOpenings ∧ Clash words words' := by
  obtain ⟨hframe, hquery, hrecord⟩ := hwords
  cases h with
  | frame h =>
    obtain ⟨words', hwords', hopens'⟩ := h
    exact absurd (clash_of_opens hopens hopens') (hframe words' hwords')
  | query => exact absurd (clash_of_opens hopens (.refl _)) hquery
  | change hx h =>
    obtain ⟨words', hwords', hopens'⟩ := isChange_of_mem (hall _ hx) h
    exact ⟨_, hx, words', hwords', clash_of_opens hopens hopens'⟩
  | record hx => exact absurd (clash_of_opens hopens (.refl _)) hrecord

theorem erases_eq_false (h : Planned dim migrations st)
    (hall : ∀ x ∈ migrations, x ∈ Migration.all) : erases st = false := by
  rw [erases, List.any_eq_false]
  intro words hwords hopens
  obtain ⟨honly, hapart⟩ := erasingWords_apart words hwords
  obtain ⟨x, -, words', hwords', hclash⟩ :=
    h.change_of_opens hall honly (of_decide_eq_true hopens)
  exact hapart _ hwords' hclash

/-- A version is recorded by the statement for its migration only. -/
theorem of_recordedBy? (h : Planned dim migrations st) {v : Int32}
    (hv : recordedBy? st = some v) : ∃ x ∈ migrations, x.version = v ∧ st = recordStatement x := by
  cases h with
  | frame h => cases hv
  | query => cases hv
  | change hx h => cases hv
  | @record x hx =>
    rw [recordedBy?_recordStatement] at hv
    exact ⟨x, hx, Option.some.inj hv, rfl⟩

end Planned

/-- Whether a statement is one of those of a migration. -/
def isChangeOf (dim : Nat) (x : Migration) : Statement → Bool
  | .simple sql => (x.statements dim).contains sql
  | .prepared _ _ => false

theorem isChangeOf_simple {dim : Nat} {x : Migration} {sql : String} :
    isChangeOf dim x (.simple sql) = true ↔ sql ∈ x.statements dim := by
  simp [isChangeOf]

/-- The statements of a migration are planned only with it. -/
theorem Planned.mem_of_isChangeOf {dim : Nat} {migrations : List Migration} {st : Statement}
    (h : Planned dim migrations st) (hall : ∀ x ∈ migrations, x ∈ Migration.all) {x : Migration}
    (hx : x ∈ Migration.all) (hchange : isChangeOf dim x st = true) : x ∈ migrations := by
  cases h with
  | frame h => exact absurd h (isChange_of_mem hx (isChangeOf_simple.1 hchange)).not_isFrame
  | query => cases hchange
  | @change y hy sql h =>
    have hsame := (isChange_of_mem hx (isChangeOf_simple.1 hchange)).version_unique
      (isChange_of_mem (hall y hy) h)
    rwa [eq_of_version hx (hall y hy) hsame]
  | record hx => cases hchange

/-! ### Places in a plan -/

section Places

variable {α β : Type}

/-- A place in two lists is in the first or in the second. -/
theorem append_eq_append_cons {l₁ l₂ before after : List α} {a : α}
    (h : l₁ ++ l₂ = before ++ a :: after) :
    (∃ rest, l₁ = before ++ a :: rest) ∨
      ∃ middle, before = l₁ ++ middle ∧ l₂ = middle ++ a :: after := by
  rcases List.append_eq_append_iff.1 h with ⟨l, rfl, hl⟩ | ⟨l, rfl, hl⟩
  · exact .inr ⟨l, rfl, hl⟩
  · cases l with
    | nil => exact .inr ⟨[], by simp, hl.symm⟩
    | cons b l =>
      obtain ⟨rfl, -⟩ := List.cons.inj hl
      exact .inl ⟨l, rfl⟩

/-- A place in joined lists is in one of them. -/
theorem flatMap_eq_append_cons {f : α → List β} {l : List α} {before after : List β} {b : β}
    (h : l.flatMap f = before ++ b :: after) :
    ∃ l₁ a l₂ middle rest, l = l₁ ++ a :: l₂ ∧ before = l₁.flatMap f ++ middle ∧
      f a = middle ++ b :: rest := by
  induction l generalizing before with
  | nil => simp at h
  | cons a l ih =>
    rw [List.flatMap_cons] at h
    rcases append_eq_append_cons h with ⟨rest, hrest⟩ | ⟨middle, rfl, hmiddle⟩
    · exact ⟨[], a, l, before, rest, rfl, rfl, hrest⟩
    · obtain ⟨l₁, a', l₂, middle', rest, rfl, rfl, hplace⟩ := ih hmiddle
      exact ⟨a :: l₁, a', l₂, middle', rest, rfl, (List.append_assoc ..).symm, hplace⟩

end Places

/-- In a block, the record stands behind the statements. -/
theorem block_eq_append_cons {dim : Nat} {x : Migration} {before after : List Step} {step : Step}
    (h : block dim x = before ++ step :: after) :
    (∃ sql ∈ x.statements dim, step.statement = .simple sql) ∨
      before = (x.statements dim).map (Step.change x) ∧ step = .hard (recordStatement x) ∧
        after = [] := by
  rw [block] at h
  rcases append_eq_append_cons h with ⟨rest, hrest⟩ | ⟨middle, rfl, hmiddle⟩
  · left
    have hmem : step ∈ (x.statements dim).map (Step.change x) := by simp [hrest]
    obtain ⟨sql, hsql, rfl⟩ := List.mem_map.1 hmem
    exact ⟨sql, hsql, rfl⟩
  · right
    cases middle with
    | nil =>
      obtain ⟨hstep, hafter⟩ := List.cons.inj hmiddle
      exact ⟨List.append_nil _, hstep.symm, hafter.symm⟩
    | cons other middle =>
      have hnil := (List.cons.inj hmiddle).2
      simp at hnil

/-- A step that records a version stands behind the statements of its migration. -/
theorem plan_eq_append_cons {s : StoreSettings} {recorded : List Int32} {before after : List Step}
    {step : Step} (h : plan s recorded = before ++ step :: after) {v : Int32}
    (hv : recordedBy? step.statement = some v) :
    ∃ x ∈ due recorded s.modules, x.version = v ∧
      ∃ before', before = before' ++ (x.statements s.dimension).map (Step.change x) := by
  have hnone : ¬ Planned s.dimension [] step.statement := fun hplanned => by
    obtain ⟨x, hx, -⟩ := hplanned.of_recordedBy? hv
    cases hx
  rw [plan] at h
  rcases append_eq_append_cons h with ⟨rest, hrest⟩ | ⟨middle, rfl, hmiddle⟩
  · exact absurd ((framing_groundwork s step (by simp [hrest])).planned _ _) hnone
  · cases middle with
    | nil =>
      cases (List.cons.inj hmiddle).1
      exact absurd .query hnone
    | cons other middle =>
      obtain ⟨rfl, hupgrade⟩ := List.cons.inj hmiddle
      rw [upgrade] at hupgrade
      rcases append_eq_append_cons hupgrade with ⟨rest, hrest⟩ | ⟨last, rfl, hlast⟩
      · obtain ⟨l₁, x, l₂, middle', rest', hdue, rfl, hblock⟩ := flatMap_eq_append_cons hrest
        rcases block_eq_append_cons hblock with ⟨sql, -, hsql⟩ | ⟨rfl, rfl, -⟩
        · rw [hsql] at hv
          cases hv
        · rw [Step.hard, recordedBy?_recordStatement] at hv
          refine ⟨x, by simp [hdue], Option.some.inj hv, groundwork s ++ Step.hard versionQuery ::
            l₁.flatMap (block s.dimension), ?_⟩
          simp
      · have hmem : step ∈ (policies s.schema s.modules.tenantTables).map Step.soft := by
          simp [hlast]
        obtain ⟨sql, hsql, rfl⟩ := List.mem_map.1 hmem
        exact absurd (.frame (isFrame_policies _ _ sql hsql)) hnone

/-- Of two migrations of a run, the versions differ. -/
theorem due_pairwise (recorded : List Int32) (m : Modules) :
    (due recorded m).Pairwise fun a b => a.version ≠ b.version := by
  have hphase (phase : Migration.Phase) :
      (dueIn recorded m phase).Pairwise fun a b => a.version ≠ b.version :=
    (all_sorted.filter _).imp Int32.ne_of_lt
  refine List.pairwise_append.2 ⟨hphase _, hphase _, fun a ha b hb hversion => ?_⟩
  obtain ⟨hall, hbackfill, -, -⟩ := mem_dueIn.1 ha
  obtain ⟨hall', hupgrade, -, -⟩ := mem_dueIn.1 hb
  rw [eq_of_version hall hall' hversion, hupgrade] at hbackfill
  cases hbackfill

/-- Of the steps for other migrations, none is a statement of a migration. -/
theorem filter_isChangeOf_eq_nil {dim : Nat} {migrations : List Migration} {steps : List Step}
    (h : ∀ step ∈ steps, Planned dim migrations step.statement)
    (hall : ∀ x ∈ migrations, x ∈ Migration.all) {x : Migration} (hx : x ∈ Migration.all)
    (hother : x ∉ migrations) : (steps.map Step.statement).filter (isChangeOf dim x) = [] := by
  rw [List.filter_eq_nil_iff, List.forall_mem_map]
  exact fun step hstep hchange => hother ((h step hstep).mem_of_isChangeOf hall hx hchange)

/-- A plan has the statements of a migration in order, each once. -/
theorem filter_isChangeOf_plan (s : StoreSettings) {recorded : List Int32} {x : Migration}
    (hx : x ∈ due recorded s.modules) :
    ((plan s recorded).map Step.statement).filter (isChangeOf s.dimension x) =
      (x.statements s.dimension).map .simple := by
  have hall := (mem_due.1 hx).1
  obtain ⟨earlier, later, hdue⟩ := List.append_of_mem hx
  have hmem : ∀ y ∈ earlier ++ x :: later, y ∈ Migration.all := hdue ▸ fun y hy => (mem_due.1 hy).1
  have hpairwise := hdue ▸ due_pairwise recorded s.modules
  obtain ⟨-, hlater, hearlier⟩ := List.pairwise_append.1 hpairwise
  -- the steps before and after its block belong to others
  have hframe (steps : List Step) (hsteps : ∀ step ∈ steps, Planned s.dimension [] step.statement) :
      (steps.map Step.statement).filter (isChangeOf s.dimension x) = [] :=
    filter_isChangeOf_eq_nil hsteps nofun hall List.not_mem_nil
  have hblocks (others : List Migration) (hothers : ∀ y ∈ others, y ∈ Migration.all)
      (hne : x ∉ others) : ((others.flatMap (block s.dimension)).map Step.statement).filter
        (isChangeOf s.dimension x) = [] := by
    refine filter_isChangeOf_eq_nil (fun step hstep => ?_) hothers hall hne
    obtain ⟨y, hy, hblock⟩ := List.mem_flatMap.1 hstep
    exact planned_block _ hy step hblock
  have hchanges : (((x.statements s.dimension).map (Step.change x)).map Step.statement).filter
      (isChangeOf s.dimension x) = (x.statements s.dimension).map .simple := by
    rw [List.map_map]
    exact List.filter_eq_self.2 (List.forall_mem_map.2 fun sql hsql => isChangeOf_simple.2 hsql)
  have hgroundwork := hframe (groundwork s) fun step hstep =>
    (framing_groundwork s step hstep).planned _ _
  have hpolicies := hframe ((policies s.schema s.modules.tenantTables).map Step.soft)
    (List.forall_mem_map.2 fun sql hsql => .frame (isFrame_policies _ _ sql hsql))
  have hbefore := hblocks earlier (fun y hy => hmem y (List.mem_append_left _ hy))
    fun h => hearlier x h x List.mem_cons_self rfl
  have hafter := hblocks later
    (fun y hy => hmem y (List.mem_append_right _ (List.mem_cons_of_mem _ hy)))
    fun h => (List.pairwise_cons.1 hlater).1 x h rfl
  have hplan : (plan s recorded).map Step.statement = (groundwork s).map Step.statement
      ++ ([versionQuery] ++ ((earlier.flatMap (block s.dimension)).map Step.statement
      ++ (((x.statements s.dimension).map (Step.change x)).map Step.statement
      ++ ([recordStatement x] ++ ((later.flatMap (block s.dimension)).map Step.statement
      ++ ((policies s.schema s.modules.tenantTables).map Step.soft).map Step.statement))))) := by
    simp [plan, upgrade, hdue, block, Step.hard]
  have hquery : [versionQuery].filter (isChangeOf s.dimension x) = [] := rfl
  have hrecord : [recordStatement x].filter (isChangeOf s.dimension x) = [] := rfl
  rw [hplan]
  repeat rw [List.filter_append]
  rw [hgroundwork, hquery, hbefore, hchanges, hrecord, hafter, hpolicies]
  exact List.append_nil _

theorem statements_ne_nil : ∀ x ∈ Migration.all, ∀ dim, x.statements dim ≠ [] := by
  intro x hx dim
  simp only [Migration.all, List.mem_cons, List.not_mem_nil, or_false] at hx
  rcases hx with rfl | rfl | rfl | rfl | rfl | rfl | rfl | rfl | rfl | rfl <;>
    exact List.cons_ne_nil _ _

/-- The steps of a run before the migrations that come after some others. -/
def stepsBefore (s : StoreSettings) (earlier : List Migration) : List Step :=
  groundwork s ++ Step.hard versionQuery :: earlier.flatMap (block s.dimension)

theorem plan_eq_stepsBefore {s : StoreSettings} {recorded : List Int32}
    {earlier later : List Migration} (h : due recorded s.modules = earlier ++ later) :
    plan s recorded = stepsBefore s earlier ++ (later.flatMap (block s.dimension)
      ++ (policies s.schema s.modules.tenantTables).map Step.soft) := by
  simp [plan, upgrade, stepsBefore, h]

/-- The last of these steps is not passed over. -/
theorem stepsBefore_last (s : StoreSettings) (earlier : List Migration) :
    ∃ steps step, stepsBefore s earlier = steps ++ [step] ∧ step.isSoft = false := by
  rcases List.eq_nil_or_concat earlier with rfl | ⟨init, y, rfl⟩
  · exact ⟨groundwork s, .hard versionQuery, rfl, rfl⟩
  · refine ⟨groundwork s ++ Step.hard versionQuery :: (init.flatMap (block s.dimension)
      ++ (y.statements s.dimension).map (Step.change y)), .hard (recordStatement y), ?_, rfl⟩
    simp [stepsBefore, block]

theorem recordedBy?_of_framing {st : Statement} (h : Framing st) : recordedBy? st = none := by
  obtain ⟨sql, rfl, -⟩ := h
  rfl

theorem versionQuery_not_mem_groundwork (s : StoreSettings) :
    ∀ step ∈ groundwork s, step.statement ≠ versionQuery := by
  intro step hstep hquery
  obtain ⟨sql, hsql, -⟩ := framing_groundwork s step hstep
  rw [hquery] at hsql
  cases hsql

/-- In a block, nothing is recorded before the last step. -/
theorem recordedBy?_of_block {dim : Nat} {x : Migration} {before after : List Step} {step : Step}
    (h : block dim x = before ++ step :: after) :
    ∀ step' ∈ before, recordedBy? step'.statement = none := by
  intro step' hstep'
  obtain ⟨before₁, before₂, rfl⟩ := List.append_of_mem hstep'
  rw [List.append_assoc, List.cons_append] at h
  rcases block_eq_append_cons h with ⟨sql, -, hsql⟩ | ⟨-, -, hend⟩
  · rw [hsql]
    rfl
  · simp at hend

/-- The steps before some migrations are not over when the migrations before are not recorded. -/
theorem exists_unrecorded {s : StoreSettings} {earlier : List Migration}
    (hversions : earlier.Pairwise fun a b => a.version ≠ b.version) {steps₁ steps₂ : List Step}
    {step : Step} (h : stepsBefore s earlier = steps₁ ++ step :: steps₂)
    (hquery : ∃ step' ∈ steps₁, step'.statement = versionQuery) :
    ∃ y ∈ earlier, ∀ step' ∈ steps₁, recordedBy? step'.statement ≠ some y.version := by
  obtain ⟨asked, hasked, hstatement⟩ := hquery
  rcases append_eq_append_cons h with ⟨rest, hrest⟩ | ⟨middle, rfl, hmiddle⟩
  · have hmem : asked ∈ groundwork s := hrest ▸ List.mem_append_left _ hasked
    exact absurd hstatement (versionQuery_not_mem_groundwork s asked hmem)
  · cases middle with
    | nil =>
      rw [List.append_nil] at hasked
      exact absurd hstatement (versionQuery_not_mem_groundwork s asked hasked)
    | cons first middle =>
      obtain ⟨rfl, hblocks⟩ := List.cons.inj hmiddle
      obtain ⟨l₁, y, l₂, last, rest, rfl, rfl, hblock⟩ := flatMap_eq_append_cons hblocks
      refine ⟨y, by simp, ?_⟩
      simp only [List.forall_mem_append, List.forall_mem_cons]
      refine ⟨fun step' hstep' hversion => ?_, nofun, fun step' hstep' hversion => ?_,
        fun step' hstep' hversion => ?_⟩
      · rw [recordedBy?_of_framing (framing_groundwork s step' hstep')] at hversion
        cases hversion
      · -- an earlier block records another version
        obtain ⟨z, hz, hzblock⟩ := List.mem_flatMap.1 hstep'
        obtain ⟨z', hz', hsame, -⟩ :=
          (planned_block s.dimension hz step' hzblock).of_recordedBy? hversion
        exact (List.pairwise_append.1 hversions).2.2 z' hz' y List.mem_cons_self hsame
      · rw [recordedBy?_of_block hblock step' hstep'] at hversion
        cases hversion

/-- A run that is told what is recorded, and records some migrations, gets to the next. -/
theorem not_halted_before {s : StoreSettings} {earlier : List Migration}
    (hversions : earlier.Pairwise fun a b => a.version ≠ b.version) {tried : List Attempt}
    {e : StoreError} (hfollows : Follows (stepsBefore s earlier) tried (some e))
    (hasked : ∃ a ∈ tried, a.Succeeded ∧ a.statement = versionQuery)
    (hrecords : ∀ y ∈ earlier, ∃ a ∈ tried, a.Succeeded ∧
      recordedBy? a.statement = some y.version) : False := by
  obtain ⟨steps₁, step, steps₂, hsteps, hgone⟩ := hfollows.of_halted
  obtain ⟨asked, hmem, hsucceeded, hstatement⟩ := hasked
  obtain ⟨step', hstep', heq⟩ := hgone asked hmem hsucceeded
  obtain ⟨y, hy, hnot⟩ := exists_unrecorded hversions hsteps ⟨step', hstep', heq.trans hstatement⟩
  obtain ⟨a, ha, hsucceeded, hversion⟩ := hrecords y hy
  obtain ⟨step', hstep', heq⟩ := hgone a ha hsucceeded
  exact hnot step' hstep' (heq ▸ hversion)

/-! ### One run -/

/-- A run, with its settings and the pool that it is made over. -/
structure Launch (σ : Type) where
  settings : StoreSettings
  pool : Pool σ

namespace Launch

variable {σ : Type} [Server σ]

/-- What a run sends, with the replies. -/
def sent (l : Launch σ) : List Sent := (ensure l.settings).sent l.pool

/-- How a run ends. -/
def answer (l : Launch σ) : Except StoreError Report := ((ensure l.settings).run l.pool).1

/-- When a run asks for the recorded versions, it is told these. -/
def Truthful (l : Launch σ) (recorded : List Int32) : Prop :=
  ∀ e ∈ l.sent, Reports recorded e.attempt

theorem truthful_of_told {l : Launch σ} {recorded : List Int32}
    (h : toldVersions (l.sent.map Sent.attempt) = [some recorded]) : l.Truthful recorded := by
  intro e he
  have htold : ∀ told ∈ toldVersions (l.sent.map Sent.attempt), told = some recorded :=
    fun told ht => List.mem_singleton.1 (h ▸ ht)
  exact reports_of_toldVersions htold _ (List.mem_map_of_mem he)

/-- What a run comes to.  Either no connection is taken, or the statements sent are those of its
plan, after some that opened the connection. -/
inductive Course (l : Launch σ) (recorded : List Int32) : Prop where
  | unopened (hframe : ∀ e ∈ l.sent, Framing e.statement) (e : StoreError)
    (hanswer : l.answer = .error e)
  | opened {opening sent : List Sent} {tried : List Attempt} (hsplit : l.sent = opening ++ sent)
    (hframe : ∀ e ∈ opening, Framing e.statement) (hcarried : Attempt.Carried tried sent)
    (hfollows : Follows (plan l.settings recorded) tried (haltOf l.answer))
    (hsummary : ∀ report, l.answer = .ok report → Summary l.settings recorded tried report)

/-- **What is sent in a run is what is carried of its plan.** -/
theorem course {l : Launch σ} {recorded : List Int32} (hpool : l.pool.Reachable l.settings)
    (htruthful : l.Truthful recorded) : l.Course recorded := by
  rcases Operation.sent_onConnection (w := ensureWork l.settings) (P := Framing) hpool
    ⟨_, rfl, isFrame_searchPath _⟩ with ⟨e, hanswer, hframe⟩ | ⟨c, p', opening, sent, hacquire,
      hsplit, hframe, hcarried⟩
  · exact .unopened hframe e hanswer
  · have hreports : ∀ a ∈ (ensure l.settings).attempts l.pool, Reports recorded a := by
      rintro a ha r rfl
      -- a reply came back, so the question was sent
      obtain ⟨e, he, heq, -⟩ := hcarried.sent_of_succeeded ha ⟨r, rfl⟩
      have hsent : l.sent = opening ++ sent := hsplit
      exact htruthful e (hsent ▸ List.mem_append_right _ he) r heq
    obtain ⟨-, hfollows, hsummary⟩ := ensure_keeps hpool hacquire hreports
    exact .opened hsplit hframe hcarried hfollows hsummary

variable {l : Launch σ} {recorded : List Int32}

/-- Nothing is sent but what is planned. -/
theorem Course.planned (h : l.Course recorded) :
    ∀ e ∈ l.sent,
      Planned l.settings.dimension (due recorded l.settings.modules) e.statement := by
  cases h with
  | unopened hframe e hanswer => exact fun e he => (hframe e he).planned _ _
  | @opened opening sent tried hsplit hframe hcarried hfollows _ =>
    rw [hsplit, List.forall_mem_append]
    refine ⟨fun e he => (hframe e he).planned _ _, fun e he => ?_⟩
    have hsent := hcarried.statements_isPrefix.trans hfollows.statements_prefix
    obtain ⟨step, hstep, heq⟩ := List.mem_map.1 (hsent.mem (List.mem_map_of_mem he))
    exact heq ▸ planned_plan _ _ step hstep

/-- What a run records is added to what was recorded before. -/
theorem Course.mem_recordedAfter (h : l.Course recorded) {v : Int32} :
    v ∈ recordedAfter recorded l.sent ↔
      v ∈ recorded ∨ ∃ e ∈ l.sent, e.reply.failure? = none ∧ recordedBy? e.statement = some v :=
  Schema.mem_recordedAfter fun e he => (h.planned e he).erases_eq_false fun _ => mem_all_of_mem_due

/-- In a run that succeeds, every statement that is not passed over has succeeded. -/
theorem Course.sent_of_hard (h : l.Course recorded) {report : Report} (hok : l.answer = .ok report)
    {step : Step} (hstep : step ∈ plan l.settings recorded) (hhard : step.isSoft = false) :
    ∃ e ∈ l.sent, e.statement = step.statement ∧ e.reply.failure? = none := by
  cases h with
  | unopened hframe e hanswer => cases hanswer.symm.trans hok
  | @opened opening sent tried hsplit hframe hcarried hfollows _ =>
    rw [hok] at hfollows
    obtain ⟨a, ha, hstatement, hsucceeded⟩ := hfollows.succeeded_of_hard _ hstep hhard
    obtain ⟨e, he, rfl, hreply⟩ := hcarried.sent_of_succeeded ha hsucceeded
    exact ⟨e, hsplit ▸ List.mem_append_right _ he, hstatement, hreply⟩

/-- A run that succeeds has recorded every migration that is enabled. -/
theorem Course.complete (h : l.Course recorded) {report : Report} (hok : l.answer = .ok report)
    {x : Migration} (hx : x ∈ Migration.all)
    (henabled : x.group.isEnabled l.settings.modules = true) :
    x.version ∈ recordedAfter recorded l.sent := by
  rw [h.mem_recordedAfter]
  by_cases hrecorded : x.version ∈ recorded
  · exact .inl hrecorded
  · have hdue : x ∈ due recorded l.settings.modules := mem_due.2 ⟨hx, henabled, hrecorded⟩
    have hstep : Step.hard (recordStatement x) ∈ plan l.settings recorded :=
      List.mem_append_right _ (List.mem_cons_of_mem _ (List.mem_append_left _
        (List.mem_flatMap.2 ⟨x, hdue, List.mem_append_right _ (List.mem_singleton_self _)⟩)))
    obtain ⟨e, he, hstatement, hreply⟩ := h.sent_of_hard hok hstep rfl
    refine .inr ⟨e, he, hreply, ?_⟩
    rw [show e.statement = recordStatement x from hstatement, recordedBy?_recordStatement]

/-- A version is recorded only right after the statements of its migration, all of which have
succeeded. -/
theorem Course.inserted (h : l.Course recorded) {before after : List Sent} {e : Sent}
    (hsent : l.sent = before ++ e :: after) {v : Int32} (hv : recordedBy? e.statement = some v) :
    ∃ x ∈ due recorded l.settings.modules, x.version = v ∧ ∃ before' changes,
      before = before' ++ changes ∧
      changes.map Sent.statement = (x.statements l.settings.dimension).map .simple ∧
      ∀ e ∈ changes, e.reply.failure? = none := by
  cases h with
  | unopened hframe _ hanswer =>
    rw [recordedBy?_of_framing (hframe e (by simp [hsent]))] at hv
    cases hv
  | @opened opening sent tried hsplit hframe hcarried hfollows _ =>
    rcases append_eq_append_cons (hsplit.symm.trans hsent) with ⟨rest, hrest⟩ | ⟨middle, rfl, rfl⟩
    · rw [recordedBy?_of_framing (hframe e (by simp [hrest]))] at hv
      cases hv
    · obtain ⟨unsent, rfl, -, -⟩ := hcarried.split
      rw [List.map_append, List.map_cons, List.append_assoc, List.cons_append] at hfollows
      obtain ⟨steps₁, step, steps₂, hplan, hstatement, hgone⟩ := hfollows.of_split
      rw [show e.statement = step.statement from hstatement] at hv
      obtain ⟨x, hx, hversion, before', rfl⟩ := plan_eq_append_cons hplan hv
      rcases hgone.of_append with ⟨_, hnone, -⟩ | ⟨tried₁, tried₂, htried, -, hchanges⟩
      · cases hnone
      · obtain ⟨middle₁, middle₂, rfl, rfl, rfl⟩ := List.map_eq_append_iff.1 htried
        refine ⟨x, hx, hversion, opening ++ middle₁, middle₂, (List.append_assoc ..).symm, ?_, ?_⟩
        · have hstatements := hchanges.map_statement
          rwa [List.map_map, List.map_map] at hstatements
        · intro e' he'
          have hhard : ∀ step ∈ (x.statements l.settings.dimension).map (Step.change x),
              step.isSoft = false := List.forall_mem_map.2 fun _ _ => rfl
          obtain ⟨r, hr⟩ := hchanges.all_succeeded hhard _ (List.mem_map_of_mem he')
          exact (Reply.outcome_eq_ok hr).2

/-- Of the statements of a migration, those that are sent are the first ones, in order. -/
theorem Course.ordered (h : l.Course recorded) {x : Migration} (hx : x ∈ Migration.all) :
    (l.sent.map Sent.statement).filter (isChangeOf l.settings.dimension x) <+:
      (x.statements l.settings.dimension).map .simple := by
  have hnone (sent : List Sent) (hframe : ∀ e ∈ sent, Framing e.statement) :
      (sent.map Sent.statement).filter (isChangeOf l.settings.dimension x) = [] := by
    rw [List.filter_eq_nil_iff, List.forall_mem_map]
    exact fun e he hchange =>
      nomatch ((hframe e he).planned _ []).mem_of_isChangeOf nofun hx hchange
  cases h with
  | unopened hframe e hanswer =>
    rw [hnone _ hframe]
    exact List.nil_prefix
  | @opened opening sent tried hsplit hframe hcarried hfollows _ =>
    have hprefix := (hcarried.statements_isPrefix.trans hfollows.statements_prefix).filter
      (isChangeOf l.settings.dimension x)
    rw [hsplit, List.map_append, List.filter_append, hnone _ hframe, List.nil_append]
    by_cases hdue : x ∈ due recorded l.settings.modules
    · rwa [filter_isChangeOf_plan _ hdue] at hprefix
    · have hnil := filter_isChangeOf_eq_nil (planned_plan _ _) (fun _ => mem_all_of_mem_due) hx hdue
      exact (hnil ▸ hprefix).trans List.nil_prefix

/-- What a run has added to the recorded versions, statements that succeeded have recorded. -/
theorem Course.exists_record (h : l.Course recorded) {v : Int32} (hnew : v ∉ recorded)
    (hv : v ∈ recordedAfter recorded l.sent) :
    ∃ e ∈ l.sent, e.reply.failure? = none ∧ recordedBy? e.statement = some v :=
  (h.mem_recordedAfter.1 hv).resolve_left hnew

/-- A run that was told what is recorded begins a migration when those before it are recorded. -/
theorem Course.retried (h : l.Course recorded) {earlier later : List Migration} {x : Migration}
    (hdue : due recorded l.settings.modules = earlier ++ x :: later)
    (hasked : ∃ e ∈ l.sent, e.reply.failure? = none ∧ e.statement = versionQuery)
    (hearlier : ∀ y ∈ earlier, y.version ∈ recordedAfter recorded l.sent) :
    ∃ e ∈ l.sent, ∃ sql rest, x.statements l.settings.dimension = sql :: rest ∧
      e.statement = .simple sql := by
  have hrecords : ∀ y ∈ earlier, ∃ e ∈ l.sent,
      e.reply.failure? = none ∧ recordedBy? e.statement = some y.version := fun y hy =>
    h.exists_record (mem_due.1 (hdue ▸ List.mem_append_left _ hy)).2.2 (hearlier y hy)
  cases h with
  | unopened hframe _ hanswer =>
    obtain ⟨e, he, -, hquery⟩ := hasked
    obtain ⟨sql, hsql, -⟩ := hframe e he
    rw [hquery] at hsql
    cases hsql
  | @opened opening sent tried hsplit hframe hcarried hfollows _ =>
    have hattempt (P : Statement → Prop) (hP : ∀ st, Framing st → ¬ P st)
        (h : ∃ e ∈ l.sent, e.reply.failure? = none ∧ P e.statement) :
        ∃ a ∈ tried, a.Succeeded ∧ P a.statement := by
      obtain ⟨e, he, hreply, hstatement⟩ := h
      rcases List.mem_append.1 (hsplit ▸ he) with he | he
      · exact absurd hstatement (hP _ (hframe e he))
      · have hsucceeded : e.attempt.Succeeded := ⟨_, Reply.outcome_of_failure? hreply⟩
        exact ⟨e.attempt, hcarried.attempt_mem he, hsucceeded, hstatement⟩
    rw [plan_eq_stepsBefore hdue, List.flatMap_cons] at hfollows
    rcases hfollows.of_append with ⟨e, -, hended⟩ | ⟨tried₁, tried₂, rfl, hgone, hgoing⟩
    · have hversions := hdue ▸ due_pairwise recorded l.settings.modules
      refine (not_halted_before (List.pairwise_append.1 hversions).1 hended ?_ fun y hy => ?_).elim
      · exact hattempt (· = versionQuery) (fun st hframe heq => by
          obtain ⟨sql, rfl, -⟩ := hframe
          cases heq) hasked
      · exact hattempt (recordedBy? · = some y.version) (fun st hframe heq => by
          rw [recordedBy?_of_framing hframe] at heq
          cases heq) (hrecords y hy)
    · -- the step before succeeded, so the connection stands
      obtain ⟨steps, step, hlast, hhard⟩ := stepsBefore_last l.settings earlier
      rw [hlast] at hgone
      rcases hgone.of_append with ⟨_, hnone, -⟩ | ⟨before, ended, rfl, -, hend⟩
      · cases hnone
      · obtain ⟨r, rfl⟩ := hend.singleton hhard
        have hx : x ∈ due recorded l.settings.modules := by simp [hdue]
        obtain ⟨sql, rest, hstatements⟩ := List.exists_cons_of_ne_nil
          (statements_ne_nil x (mem_all_of_mem_due hx) l.settings.dimension)
        rw [block, hstatements] at hgoing
        obtain ⟨b, after, rfl, hb⟩ := hgoing.head
        rw [List.append_assoc, List.singleton_append] at hcarried
        obtain ⟨e, he, rfl⟩ := hcarried.next_sent ⟨r, rfl⟩
        exact ⟨e, hsplit ▸ List.mem_append_right _ he, sql, rest, hstatements, hb⟩

/-- A run that takes up the work where it was left, when some versions were recorded before. -/
structure Resumes (l : Launch σ) (recorded : List Int32) : Prop where
  /-- A version is recorded only right after all statements of its migration have succeeded. -/
  inserted : ∀ {before after : List Sent} {e : Sent}, l.sent = before ++ e :: after →
    ∀ {v : Int32}, recordedBy? e.statement = some v →
      ∃ x ∈ Migration.all, x.version = v ∧ v ∉ recorded ∧ ∃ before' changes,
        before = before' ++ changes ∧
        changes.map Sent.statement = (x.statements l.settings.dimension).map .simple ∧
        ∀ e ∈ changes, e.reply.failure? = none
  /-- No statement of a recorded migration is sent. -/
  kept : ∀ x ∈ Migration.all, x.version ∈ recorded →
    ∀ e ∈ l.sent, isChangeOf l.settings.dimension x e.statement = false
  /-- Of any other, those that are sent are the first ones, in order. -/
  ordered : ∀ x ∈ Migration.all,
    (l.sent.map Sent.statement).filter (isChangeOf l.settings.dimension x) <+:
      (x.statements l.settings.dimension).map .simple
  /-- The first is sent as soon as the run comes to it: when it was told what is recorded and has
  recorded the migrations before. -/
  retried : ∀ {earlier later : List Migration} {x : Migration},
    due recorded l.settings.modules = earlier ++ x :: later →
    (∃ e ∈ l.sent, e.reply.failure? = none ∧ e.statement = versionQuery) →
    (∀ y ∈ earlier, y.version ∈ recordedAfter recorded l.sent) →
    ∃ e ∈ l.sent, ∃ sql rest, x.statements l.settings.dimension = sql :: rest ∧
      e.statement = .simple sql
  /-- What is recorded stays recorded. -/
  grows : recorded ⊆ recordedAfter recorded l.sent
  /-- When the run succeeds, every migration that is enabled is recorded. -/
  complete : ∀ report, l.answer = .ok report → ∀ x ∈ Migration.all,
    x.group.isEnabled l.settings.modules = true → x.version ∈ recordedAfter recorded l.sent

/-- **Every run takes up the work where it was left.** -/
theorem Course.resumption (h : l.Course recorded) : l.Resumes recorded where
  inserted hsent v hv := by
    obtain ⟨x, hx, hversion, hchanges⟩ := h.inserted hsent hv
    obtain ⟨hall, -, hnew⟩ := mem_due.1 hx
    exact ⟨x, hall, hversion, hversion ▸ hnew, hchanges⟩
  kept x hx hrecorded e he := by
    rw [Bool.eq_false_iff]
    intro hchange
    have hdue := (h.planned e he).mem_of_isChangeOf (fun _ => mem_all_of_mem_due) hx hchange
    exact (mem_due.1 hdue).2.2 hrecorded
  ordered x hx := h.ordered hx
  retried hdue hasked hearlier := h.retried hdue hasked hearlier
  grows v hv := h.mem_recordedAfter.2 (.inl hv)
  complete report hok x hx henabled := h.complete hok hx henabled

/-- A run that finds nothing to do. -/
structure Idle (l : Launch σ) : Prop where
  changes : ∀ x ∈ Migration.all, ∀ e ∈ l.sent,
    isChangeOf l.settings.dimension x e.statement = false
  records : ∀ e ∈ l.sent, recordedBy? e.statement = none
  applied : ∀ report, l.answer = .ok report → report.applied = []

/-- Where every migration that is enabled is recorded, a run finds nothing to do. -/
theorem Course.idle (h : l.Course recorded) (hrecorded : ∀ x ∈ Migration.all,
    x.group.isEnabled l.settings.modules = true → x.version ∈ recorded) : l.Idle := by
  have hnone : due recorded l.settings.modules = [] :=
    List.eq_nil_iff_forall_not_mem.2 fun x hx => by
      obtain ⟨hall, henabled, hnew⟩ := mem_due.1 hx
      exact hnew (hrecorded x hall henabled)
  have hplanned := h.planned
  rw [hnone] at hplanned
  refine ⟨fun x hx e he => ?_, fun e he => ?_, fun report hok => ?_⟩
  · rw [Bool.eq_false_iff]
    exact fun hchange => nomatch (hplanned e he).mem_of_isChangeOf nofun hx hchange
  · cases hv : recordedBy? e.statement with
    | none => rfl
    | some v =>
      obtain ⟨x, hx, -⟩ := (hplanned e he).of_recordedBy? hv
      cases hx
  · cases h with
    | unopened _ e hanswer => cases hanswer.symm.trans hok
    | opened _ _ _ _ hsummary => rw [(hsummary report hok).applied, hnone]; rfl

end Launch

/-! ### Runs one after the other -/

variable {σ : Type} [Server σ]

/-- Runs one after the other on one database, which tells each of them what is recorded, with the
versions recorded before the first and after the last. -/
inductive History : List Int32 → List (Launch σ) → List Int32 → Prop where
  | nil (recorded : List Int32) : History recorded [] recorded
  | cons {recorded final : List Int32} {l : Launch σ} {rest : List (Launch σ)}
    (hpool : l.pool.Reachable l.settings) (htruthful : l.Truthful recorded)
    (hrest : History (recordedAfter recorded l.sent) rest final) :
    History recorded (l :: rest) final

namespace History

variable {start final : List Int32} {runs runs' : List (Launch σ)}

theorem of_append (h : History start (runs ++ runs') final) :
    ∃ recorded, History start runs recorded ∧ History recorded runs' final := by
  induction runs generalizing start with
  | nil => exact ⟨start, .nil start, h⟩
  | cons l rest ih =>
    cases h with
    | cons hpool htruthful hrest =>
      obtain ⟨recorded, hfirst, hsecond⟩ := ih hrest
      exact ⟨recorded, .cons hpool htruthful hfirst, hsecond⟩

/-- What is recorded stays recorded. -/
theorem subset (h : History start runs final) : start ⊆ final := by
  induction h with
  | nil recorded => exact List.Subset.refl _
  | cons hpool htruthful _ ih =>
    exact List.Subset.trans (Launch.course hpool htruthful).resumption.grows ih

/-- Each of the runs is made when no less is recorded than at the start. -/
theorem course (h : History start runs final) :
    ∀ l ∈ runs, ∃ recorded, start ⊆ recorded ∧ l.Course recorded := by
  induction h with
  | nil recorded => exact nofun
  | @cons recorded final l rest hpool htruthful _ ih =>
    have hcourse := Launch.course hpool htruthful
    rw [List.forall_mem_cons]
    refine ⟨⟨recorded, List.Subset.refl _, hcourse⟩, ?_⟩
    intro l' hl'
    obtain ⟨recorded', hsubset, hcourse'⟩ := ih l' hl'
    exact ⟨recorded', List.Subset.trans hcourse.resumption.grows hsubset, hcourse'⟩

/-- **Migrations resume after any failure.**  In the life of a database every run takes up the work
where it was left, whatever it stops at and whichever modules it is for.  What it has recorded stays
recorded to the end, and when it succeeds, a run for the same modules right after it finds nothing
to do. -/
theorem resumes {l : Launch σ} (h : History start (runs ++ l :: runs') final) :
    ∃ recorded, History start runs recorded ∧ start ⊆ recorded ∧ l.Resumes recorded ∧
      History (recordedAfter recorded l.sent) runs' final ∧
      recordedAfter recorded l.sent ⊆ final ∧
      ∀ report, l.answer = .ok report → ∀ next rest, runs' = next :: rest →
        next.settings.modules = l.settings.modules → next.Idle := by
  obtain ⟨recorded, hbefore, hrun⟩ := h.of_append
  cases hrun with
  | cons hpool htruthful hafter =>
    have hresumes := (Launch.course hpool htruthful).resumption
    refine ⟨recorded, hbefore, hbefore.subset, hresumes, hafter, hafter.subset, ?_⟩
    rintro report hok next rest rfl hmodules
    cases hafter with
    | cons hpool' htruthful' _ =>
      refine (Launch.course hpool' htruthful').idle fun x hx henabled => ?_
      exact hresumes.complete report hok x hx (hmodules ▸ henabled)

/-- Runs over one database: the eighth migration is left after its first statement, then done, and
nothing remains to do. -/
def interrupted : Launch Replies :=
  ⟨.default, .replying (telling [1, 2, 3, 4, 7, 10] ++ [.done 0, .error "23505" "duplicate key"])⟩

@[inherit_doc interrupted]
def resumed : Launch Replies := ⟨.default, .replying (telling [1, 2, 3, 4, 7, 10])⟩

@[inherit_doc interrupted]
def settled : Launch Replies := ⟨.default, .replying (telling [1, 2, 3, 4, 7, 10, 8])⟩

theorem resumes_interrupted :
    History [1, 2, 3, 4, 7, 10] ([interrupted] ++ resumed :: [settled]) [1, 2, 3, 4, 7, 10, 8] ∧
      interrupted.answer.isOk = false ∧ resumed.Resumes [1, 2, 3, 4, 7, 10] ∧
      recordedAfter [1, 2, 3, 4, 7, 10] resumed.sent = [1, 2, 3, 4, 7, 10, 8] ∧ settled.Idle := by
  have hanswers : interrupted.answer.isOk = false ∧ resumed.answer.isOk = true := by
    rw [Launch.answer, Launch.answer, ensure, ensureWork_eq]
    decide +kernel
  have hrecorded :
      recordedAfter [1, 2, 3, 4, 7, 10] interrupted.sent = [1, 2, 3, 4, 7, 10] ∧
      recordedAfter [1, 2, 3, 4, 7, 10] resumed.sent = [1, 2, 3, 4, 7, 10, 8] ∧
      recordedAfter [1, 2, 3, 4, 7, 10, 8] settled.sent = [1, 2, 3, 4, 7, 10, 8] := by
    rw [Launch.sent, Launch.sent, Launch.sent, ensure, ensureWork_eq]
    decide +kernel
  have htold : toldVersions (interrupted.sent.map Sent.attempt) = [some [1, 2, 3, 4, 7, 10]] ∧
      toldVersions (resumed.sent.map Sent.attempt) = [some [1, 2, 3, 4, 7, 10]] ∧
      toldVersions (settled.sent.map Sent.attempt) = [some [1, 2, 3, 4, 7, 10, 8]] := by
    rw [Launch.sent, Launch.sent, Launch.sent, ensure, ensureWork_eq]
    decide +kernel
  obtain ⟨htold₁, htold₂, htold₃⟩ := htold
  obtain ⟨hrecorded₁, hrecorded₂, hrecorded₃⟩ := hrecorded
  have hhistory : History [1, 2, 3, 4, 7, 10] ([interrupted] ++ resumed :: [settled])
      [1, 2, 3, 4, 7, 10, 8] := by
    refine .cons (.opened _) (Launch.truthful_of_told htold₁) ?_
    rw [hrecorded₁]
    refine .cons (.opened _) (Launch.truthful_of_told htold₂) ?_
    rw [hrecorded₂]
    refine .cons (.opened _) (Launch.truthful_of_told htold₃) ?_
    rw [hrecorded₃]
    exact .nil _
  obtain ⟨recorded, hbefore, -, hresumes, -, -, hidle⟩ := hhistory.resumes
  have hstart : recorded = [1, 2, 3, 4, 7, 10] := by
    cases hbefore with
    | cons _ _ hrest =>
      cases hrest
      exact hrecorded₁
  subst hstart
  refine ⟨hhistory, hanswers.1, hresumes, hrecorded₂, ?_⟩
  cases hanswer : resumed.answer with
  | error e =>
    rw [hanswer] at hanswers
    cases hanswers.2
  | ok report => exact hidle report hanswer settled [] rfl rfl

end History

end KnowledgeBase.Schema
