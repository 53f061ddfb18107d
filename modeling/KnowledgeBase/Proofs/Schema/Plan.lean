import KnowledgeBase.Schema.Upkeep
import KnowledgeBase.Proofs.Connection.Attempts

/-!
# The plan of a schema run

Bringing a database to its present shape is a fixed list of steps, once it is known which migrations
are recorded.  A step either ends the run when its statement fails, or is passed over.  So the
statements of a run are those of its plan, in order, up to the first that fails and is not passed
over.

## Main definitions

* `Schema.Step`, `Schema.plan` — a statement with what becomes of its failure, and the steps of a
  run.
* `Schema.dueIn`, `Schema.due` — the migrations of a run, for some recorded versions.
* `Schema.Follows` — attempts that keep to some steps.
* `Schema.Plays` — a program whose attempts keep to some steps, whatever comes back.

## Main results

* `Schema.Plays.bind` — the steps of one program after another.
* `Schema.ensureWork_plays` — the run keeps to its plan.
* `Schema.ensure_exact` — what a run sends, when it succeeds, and what it then reports.
-/

namespace KnowledgeBase.Schema

open Sql

variable {α β σ : Type}

/-! ### Steps -/

/-- A statement, and what becomes of its failure. -/
structure Step where
  statement : Statement
  /-- The error that a failure ends the run with; none when it is passed over. -/
  halt? : Option (Failure → StoreError)

namespace Step

/-- A statement whose failure ends the run. -/
def hard (s : Statement) : Step := ⟨s, some Failure.classify⟩

/-- A statement whose failure is passed over. -/
def soft (sql : String) : Step := ⟨.simple sql, none⟩

/-- A statement of a migration, whose failure ends the run and names the migration. -/
def change (m : Migration) (sql : String) : Step := ⟨.simple sql, some (migrationError m)⟩

/-- A failure is passed over. -/
def isSoft (step : Step) : Bool := step.halt?.isNone

end Step

/-- The migrations of a phase that are enabled and not recorded, in order of version. -/
def dueIn (recorded : List Int32) (m : Modules) (phase : Migration.Phase) : List Migration :=
  Migration.all.filter (Migration.isPending recorded phase m)

/-- The migrations of a run: the backfills, then the constraint upgrades. -/
def due (recorded : List Int32) (m : Modules) : List Migration :=
  dueIn recorded m .backfill ++ dueIn recorded m .constraintUpgrade

/-- The statements of a migration, followed by its record. -/
def block (dim : Nat) (m : Migration) : List Step :=
  (m.statements dim).map (Step.change m) ++ [.hard (recordStatement m)]

/-- The steps before the recorded versions are asked for. -/
def groundwork (s : StoreSettings) : List Step :=
  .hard (.simple (createSchema s.schema)) :: extensions.map Step.soft
    ++ ([searchPath s.schema] ++ layout s.dimension s.modules ++ [migrationsTable.create]).map
      fun sql => .hard (.simple sql)

/-- The steps once they are known. -/
def upgrade (s : StoreSettings) (recorded : List Int32) : List Step :=
  (due recorded s.modules).flatMap (block s.dimension)
    ++ (policies s.schema s.modules.tenantTables).map Step.soft

/-- The steps of a run on a database with some recorded versions. -/
def plan (s : StoreSettings) (recorded : List Int32) : List Step :=
  groundwork s ++ .hard versionQuery :: upgrade s recorded

/-! ### Attempts that keep to steps -/

/-- Statements handed over in the order of some steps, up to the first that fails and is not passed
over; the error is what it ends the run with. -/
inductive Follows : List Step → List Attempt → Option StoreError → Prop where
  | finished : Follows [] [] none
  | halted {step : Step} {rest : List Step} {report : Failure → StoreError} (f : Failure)
    (hhard : step.halt? = some report) :
    Follows (step :: rest) [⟨step.statement, .error f⟩] (some (report f))
  | passed {step : Step} {rest : List Step} {tried : List Attempt} {halt : Option StoreError}
    (f : Failure) (hsoft : step.halt? = none) (h : Follows rest tried halt) :
    Follows (step :: rest) (⟨step.statement, .error f⟩ :: tried) halt
  | answered {step : Step} {rest : List Step} {tried : List Attempt} {halt : Option StoreError}
    (r : Reply) (h : Follows rest tried halt) :
    Follows (step :: rest) (⟨step.statement, .ok r⟩ :: tried) halt

namespace Follows

variable {steps steps' : List Step} {tried tried' : List Attempt} {halt : Option StoreError}

theorem append (h : Follows steps tried none) (h' : Follows steps' tried' halt) :
    Follows (steps ++ steps') (tried ++ tried') halt := by
  generalize hnone : (none : Option StoreError) = done at h
  induction h with
  | finished => exact h'
  | halted f hhard => cases hnone
  | passed f hsoft _ ih => exact .passed f hsoft (ih hnone)
  | answered r _ ih => exact .answered r (ih hnone)

/-- What ends a run ends it whatever steps would have come after. -/
theorem append_of_halted {e : StoreError} (h : Follows steps tried (some e)) (steps' : List Step) :
    Follows (steps ++ steps') tried (some e) := by
  generalize hsome : some e = halt at h
  induction h with
  | finished => cases hsome
  | halted f hhard => exact .halted f hhard
  | passed f hsoft _ ih => exact .passed f hsoft (ih hsome)
  | answered r _ ih => exact .answered r (ih hsome)

/-- The statements are those of the steps, from the first on. -/
theorem statements_prefix (h : Follows steps tried halt) :
    tried.map Attempt.statement <+: steps.map Step.statement := by
  induction h with
  | finished => exact List.prefix_rfl
  | halted f hhard => exact (List.prefix_cons_inj _).2 (List.nil_prefix)
  | passed f hsoft _ ih => exact (List.prefix_cons_inj _).2 ih
  | answered r _ ih => exact (List.prefix_cons_inj _).2 ih

/-- The first step is always attempted. -/
theorem head {step : Step} (h : Follows (step :: steps) tried halt) :
    ∃ a after, tried = a :: after ∧ a.statement = step.statement := by
  cases h with
  | halted f hhard => exact ⟨_, _, rfl, rfl⟩
  | passed f hsoft _ => exact ⟨_, _, rfl, rfl⟩
  | answered r _ => exact ⟨_, _, rfl, rfl⟩

theorem singleton {step : Step} (h : Follows [step] tried none) (hhard : step.isSoft = false) :
    ∃ r, tried = [⟨step.statement, .ok r⟩] := by
  cases h with
  | passed f hsoft _ =>
    rw [Step.isSoft, hsoft] at hhard
    cases hhard
  | answered r hrest =>
    cases hrest
    exact ⟨r, rfl⟩

/-- Up to any of its attempts a run has gone through the steps before. -/
theorem of_split {before after : List Attempt} {a : Attempt}
    (h : Follows steps (before ++ a :: after) halt) :
    ∃ steps₁ step steps₂, steps = steps₁ ++ step :: steps₂ ∧ a.statement = step.statement ∧
      Follows steps₁ before none := by
  induction before generalizing steps with
  | nil =>
    cases h with
    | halted f hhard => exact ⟨[], _, _, rfl, rfl, .finished⟩
    | passed f hsoft _ => exact ⟨[], _, _, rfl, rfl, .finished⟩
    | answered r _ => exact ⟨[], _, _, rfl, rfl, .finished⟩
  | cons b before ih =>
    generalize htried : b :: before ++ a :: after = tried at h
    cases h with
    | finished => cases htried
    | halted f hhard =>
      have hnil := (List.cons.inj htried).2
      simp at hnil
    | @passed step rest tried _ f hsoft hrest =>
      obtain ⟨rfl, rfl⟩ := List.cons.inj htried
      obtain ⟨steps₁, step', steps₂, rfl, hstatement, hbefore⟩ := ih hrest
      exact ⟨step :: steps₁, step', steps₂, rfl, hstatement, .passed f hsoft hbefore⟩
    | @answered step rest tried _ r hrest =>
      obtain ⟨rfl, rfl⟩ := List.cons.inj htried
      obtain ⟨steps₁, step', steps₂, rfl, hstatement, hbefore⟩ := ih hrest
      exact ⟨step :: steps₁, step', steps₂, rfl, hstatement, .answered r hbefore⟩

/-- Over two lists of steps, a run ends in the first or goes through it to the second. -/
theorem of_append (h : Follows (steps ++ steps') tried halt) :
    (∃ e, halt = some e ∧ Follows steps tried (some e)) ∨
      ∃ tried₁ tried₂, tried = tried₁ ++ tried₂ ∧ Follows steps tried₁ none ∧
        Follows steps' tried₂ halt := by
  induction steps generalizing tried with
  | nil => exact .inr ⟨[], tried, rfl, .finished, h⟩
  | cons step rest ih =>
    cases h with
    | halted f hhard => exact .inl ⟨_, rfl, .halted f hhard⟩
    | passed f hsoft hrest =>
      rcases ih hrest with ⟨e, rfl, hended⟩ | ⟨tried₁, tried₂, rfl, hfirst, hsecond⟩
      · exact .inl ⟨e, rfl, .passed f hsoft hended⟩
      · exact .inr ⟨_, tried₂, rfl, .passed f hsoft hfirst, hsecond⟩
    | answered r hrest =>
      rcases ih hrest with ⟨e, rfl, hended⟩ | ⟨tried₁, tried₂, rfl, hfirst, hsecond⟩
      · exact .inl ⟨e, rfl, .answered r hended⟩
      · exact .inr ⟨_, tried₂, rfl, .answered r hfirst, hsecond⟩

/-- In a run that is ended early, whatever succeeded came before the step that ended it. -/
theorem of_halted {e : StoreError} (h : Follows steps tried (some e)) :
    ∃ steps₁ step steps₂, steps = steps₁ ++ step :: steps₂ ∧
      ∀ a ∈ tried, a.Succeeded → ∃ step' ∈ steps₁, step'.statement = a.statement := by
  have hfailed (s : Statement) (f : Failure) : ¬ (⟨s, .error f⟩ : Attempt).Succeeded :=
    fun ⟨r, hr⟩ => nomatch hr
  generalize hsome : some e = halt at h
  induction h with
  | finished => cases hsome
  | @halted step rest report f hhard =>
    exact ⟨[], step, rest, rfl, List.forall_mem_singleton.2 fun hr => absurd hr (hfailed _ f)⟩
  | @passed step rest tried halt f hsoft _ ih =>
    obtain ⟨steps₁, step', steps₂, rfl, hbefore⟩ := ih hsome
    refine ⟨step :: steps₁, step', steps₂, rfl, List.forall_mem_cons.2 ⟨fun hr => ?_, ?_⟩⟩
    · exact absurd hr (hfailed _ f)
    · intro a ha hr
      obtain ⟨step'', hstep, heq⟩ := hbefore a ha hr
      exact ⟨step'', List.mem_cons_of_mem _ hstep, heq⟩
  | @answered step rest tried halt r _ ih =>
    obtain ⟨steps₁, step', steps₂, rfl, hbefore⟩ := ih hsome
    refine ⟨step :: steps₁, step', steps₂, rfl, List.forall_mem_cons.2 ⟨fun _ => ?_, ?_⟩⟩
    · exact ⟨step, List.mem_cons_self, rfl⟩
    · intro a ha hr
      obtain ⟨step'', hstep, heq⟩ := hbefore a ha hr
      exact ⟨step'', List.mem_cons_of_mem _ hstep, heq⟩

/-- A run that is not ended early makes an attempt for every step. -/
theorem map_statement (h : Follows steps tried none) :
    tried.map Attempt.statement = steps.map Step.statement := by
  generalize hnone : (none : Option StoreError) = halt at h
  induction h with
  | finished => rfl
  | halted f hhard => cases hnone
  | passed f hsoft _ ih => exact congrArg (_ :: ·) (ih hnone)
  | answered r _ ih => exact congrArg (_ :: ·) (ih hnone)

/-- In a run that is not ended early, what is not passed over has succeeded. -/
theorem succeeded_of_hard (h : Follows steps tried none) :
    ∀ step ∈ steps, step.isSoft = false →
      ∃ a ∈ tried, a.statement = step.statement ∧ a.Succeeded := by
  generalize hnone : (none : Option StoreError) = halt at h
  induction h with
  | finished => exact nofun
  | halted f hhard => cases hnone
  | @passed step rest tried halt f hsoft _ ih =>
    rw [List.forall_mem_cons]
    refine ⟨fun hhard => ?_, fun step' hstep hhard => ?_⟩
    · rw [Step.isSoft, hsoft] at hhard
      cases hhard
    · obtain ⟨a, ha, hattempt⟩ := ih hnone step' hstep hhard
      exact ⟨a, List.mem_cons_of_mem _ ha, hattempt⟩
  | @answered step rest tried halt r _ ih =>
    rw [List.forall_mem_cons]
    refine ⟨fun _ => ⟨_, List.mem_cons_self, rfl, r, rfl⟩, fun step' hstep hhard => ?_⟩
    obtain ⟨a, ha, hattempt⟩ := ih hnone step' hstep hhard
    exact ⟨a, List.mem_cons_of_mem _ ha, hattempt⟩

/-- Where nothing is passed over, everything has succeeded. -/
theorem all_succeeded (h : Follows steps tried none) (hhard : ∀ step ∈ steps, step.isSoft = false) :
    ∀ a ∈ tried, a.Succeeded := by
  generalize hnone : (none : Option StoreError) = halt at h
  induction h with
  | finished => exact nofun
  | halted f _ => cases hnone
  | passed f hsoft _ ih =>
    have hfirst := hhard _ List.mem_cons_self
    rw [Step.isSoft, hsoft] at hfirst
    cases hfirst
  | answered r _ ih =>
    refine List.forall_mem_cons.2 ⟨⟨r, rfl⟩, ih (fun step hstep => ?_) hnone⟩
    exact hhard step (List.mem_cons_of_mem _ hstep)

/-- A run ends early exactly when a statement fails that is not passed over. -/
theorem finished_iff (h : Follows steps tried halt) :
    halt = none ↔ ∀ x ∈ steps.zip tried, x.1.isSoft = false → x.2.Succeeded := by
  induction h with
  | finished => exact ⟨fun _ => nofun, fun _ => rfl⟩
  | @halted step rest report f hhard =>
    refine ⟨nofun, fun hall => ?_⟩
    obtain ⟨r, hr⟩ := hall (step, ⟨step.statement, .error f⟩) List.mem_cons_self
      (by rw [Step.isSoft, hhard]; rfl)
    cases hr
  | passed f hsoft _ ih =>
    rw [ih, List.zip_cons_cons, List.forall_mem_cons, Step.isSoft, hsoft]
    exact ⟨fun hall => ⟨nofun, hall⟩, fun hall => hall.2⟩
  | answered r _ ih =>
    rw [ih, List.zip_cons_cons, List.forall_mem_cons]
    exact ⟨fun hall => ⟨fun _ => ⟨r, rfl⟩, hall⟩, fun hall => hall.2⟩

/-- In a run that is not ended early, whatever failed was passed over. -/
theorem countP_failed (h : Follows steps tried none) :
    (steps.zip tried).countP (fun x => x.1.isSoft && x.2.failed) = tried.countP Attempt.failed := by
  generalize hnone : (none : Option StoreError) = done at h
  induction h with
  | finished => rfl
  | halted f hhard => cases hnone
  | passed f hsoft _ ih =>
    rw [List.zip_cons_cons, List.countP_cons, List.countP_cons, ih hnone, Step.isSoft, hsoft]
    rfl
  | answered r _ ih =>
    rw [List.zip_cons_cons, List.countP_cons, List.countP_cons, ih hnone]
    simp [Attempt.failed]

end Follows

/-! ### Programs that keep to steps -/

/-- A program whose attempts keep to some steps, whatever comes back, as long as it is of a certain
kind; with its error the run ends early, and its value has to do with the attempts. -/
def Plays (R : Attempt → Prop) (steps : List Step) (Q : List Attempt → α → Prop) (w : Work α) :
    Prop :=
  ∀ tried answer, w.Tries tried answer → (∀ a ∈ tried, R a) →
    match answer with
    | .ok a => Follows steps tried none ∧ Q tried a
    | .error e => Follows steps tried (some e)

namespace Plays

variable {R : Attempt → Prop} {steps steps' : List Step} {Q Q' : List Attempt → α → Prop}

theorem done {a : α} (h : Q [] a) : Plays R [] Q (.done a) := by
  intro tried answer htried _
  cases htried
  exact ⟨.finished, h⟩

theorem mono {w : Work α} (hw : Plays R steps Q w) (h : ∀ tried a, Q tried a → Q' tried a) :
    Plays R steps Q' w := by
  intro tried answer htried hkind
  have hplayed := hw tried answer htried hkind
  cases answer with
  | ok a => exact ⟨hplayed.1, h tried a hplayed.2⟩
  | error e => exact hplayed

/-- **The steps of one program come after those of another.** -/
theorem bind {w : Work α} {f : α → Work β} {T : List Attempt → β → Prop} (hw : Plays R steps Q w)
    (hf : ∀ tried a, Q tried a → Plays R steps' (fun tried' b => T (tried ++ tried') b) (f a)) :
    Plays R (steps ++ steps') T (w >>= f) := by
  intro tried answer htried hkind
  rcases htried.of_bind with ⟨e, rfl, hfailed⟩ | ⟨a, tried₁, tried₂, rfl, hfirst, hsecond⟩
  · exact (hw tried (.error e) hfailed hkind).append_of_halted steps'
  · obtain ⟨hkind₁, hkind₂⟩ := List.forall_mem_append.1 hkind
    obtain ⟨hfollows, hvalue⟩ := hw tried₁ (.ok a) hfirst hkind₁
    have hrest := hf tried₁ a hvalue tried₂ answer hsecond hkind₂
    cases answer with
    | ok b => exact ⟨hfollows.append hrest.1, hrest.2⟩
    | error e => exact hfollows.append hrest

/-- A statement whose failure ends the program. -/
theorem send (s : Statement) :
    Plays R [.hard s] (fun tried r => tried = [⟨s, .ok r⟩]) (Work.send s) := by
  intro tried answer htried _
  cases htried with
  | step r rest =>
    cases r with
    | ok r =>
      cases rest
      exact ⟨.answered r .finished, rfl⟩
    | error f =>
      cases rest
      exact .halted f rfl

end Plays

/-! ### The parts of a run -/

/-- Nothing failed. -/
def Clean (tried : List Attempt) : Prop := tried.countP Attempt.failed = 0

theorem Clean.append {tried tried' : List Attempt} (h : Clean tried) (h' : Clean tried') :
    Clean (tried ++ tried') := by
  rw [Clean, List.countP_append, h, h']

section Parts

variable {R : Attempt → Prop}

theorem send_plays (s : Statement) : Plays R [.hard s] (fun tried _ => Clean tried) (Work.send s) :=
  (Plays.send s).mono fun tried r h => by rw [h]; rfl

theorem runAll_plays (texts : List String) :
    Plays R (texts.map fun sql => .hard (.simple sql)) (fun tried _ => Clean tried)
      (runAll texts) := by
  induction texts with
  | nil => exact .done rfl
  | cons sql rest ih =>
    exact (send_plays (.simple sql)).bind fun _ _ hsent => ih.mono fun _ _ => hsent.append

theorem attempt_plays (sql : String) :
    Plays R [.soft sql]
      (fun tried succeeded => tried.countP Attempt.failed = if succeeded then 0 else 1)
      (Work.attempt (.simple sql)) := by
  intro tried answer htried _
  cases htried with
  | step r hrest =>
    cases r with
    | ok r =>
      cases hrest
      exact ⟨.answered r .finished, rfl⟩
    | error f =>
      cases hrest
      exact ⟨.passed f rfl .finished, rfl⟩

theorem tryAll_plays (texts : List String) :
    Plays R (texts.map Step.soft) (fun tried failures => failures = tried.countP Attempt.failed)
      (tryAll texts) := by
  induction texts with
  | nil => exact .done rfl
  | cons sql rest ih =>
    rw [List.map_cons, ← List.append_nil (rest.map _), ← List.singleton_append]
    refine (attempt_plays sql).bind fun _ succeeded hfirst => ih.bind fun _ failures hrest => ?_
    refine .done ?_
    rw [List.append_nil, List.countP_append, hfirst, ← hrest]
    cases succeeded with
    | true => exact (Nat.zero_add _).symm
    | false => exact Nat.add_comm _ _

theorem runMigration_plays (m : Migration) (texts : List String) :
    Plays R (texts.map (Step.change m)) (fun tried _ => Clean tried) (runMigration m texts) := by
  induction texts with
  | nil => exact .done rfl
  | cons sql rest ih =>
    intro tried answer htried hkind
    cases htried with
    | step r hrest =>
      cases r with
      | error f =>
        cases hrest
        exact .halted f rfl
      | ok r =>
        have hplayed := ih _ _ hrest (List.forall_mem_cons.1 hkind).2
        cases answer with
        | error e => exact .answered r hplayed
        | ok a => exact ⟨.answered r hplayed.1, hplayed.2⟩

theorem applyAll_plays (dim : Nat) (migrations : List Migration) :
    Plays R (migrations.flatMap (block dim)) (fun tried _ => Clean tried)
      (applyAll dim migrations) := by
  induction migrations with
  | nil => exact .done rfl
  | cons m rest ih =>
    rw [List.flatMap_cons, block, List.append_assoc]
    refine (runMigration_plays m _).bind fun _ _ hchanged => ?_
    refine (send_plays (recordStatement m)).bind fun _ _ hrecorded => ?_
    exact ih.mono fun _ _ hrest => hchanged.append (hrecorded.append hrest)

end Parts

/-- When the recorded versions are asked for, the reply holds some versions and no others. -/
def Reports (recorded : List Int32) (a : Attempt) : Prop :=
  ∀ r, a = ⟨versionQuery, .ok r⟩ →
    ∃ versions, readVersions r.resultRows = .ok versions ∧ ∀ v, v ∈ versions ↔ v ∈ recorded

/-- The versions told in the replies to questions without values. -/
def toldVersions (tried : List Attempt) : List (Option (List Int32)) :=
  tried.filterMap fun a =>
    match a with
    | ⟨.prepared _ [], .ok r⟩ => some (readVersions r.resultRows).toOption
    | _ => none

theorem reports_of_toldVersions {tried : List Attempt} {recorded : List Int32}
    (h : ∀ told ∈ toldVersions tried, told = some recorded) : ∀ a ∈ tried, Reports recorded a := by
  rintro a ha r rfl
  have htold := h _ (List.mem_filterMap.2 ⟨_, ha, rfl⟩)
  refine ⟨recorded, ?_, fun _ => Iff.rfl⟩
  cases hread : readVersions r.resultRows with
  | error e =>
    rw [hread] at htold
    cases htold
  | ok versions =>
    rw [hread] at htold
    exact congrArg _ (Option.some.inj htold)

theorem appliedVersions_plays (recorded : List Int32) :
    Plays (Reports recorded) [.hard versionQuery]
      (fun tried versions => Clean tried ∧ ∀ v, v ∈ versions ↔ v ∈ recorded) appliedVersions := by
  intro tried answer htried hkind
  cases htried with
  | step r hrest =>
    cases r with
    | error f =>
      cases hrest
      exact .halted f rfl
    | ok r =>
      obtain ⟨versions, hread, hsame⟩ := hkind _ List.mem_cons_self r rfl
      change (Work.ofExcept (readVersions r.resultRows)).Tries _ _ at hrest
      rw [hread] at hrest
      cases hrest
      exact ⟨.answered r .finished, rfl, hsame⟩

/-! ### The migrations of a run -/

theorem all_sorted : Migration.all.Pairwise fun a b => a.version < b.version := by decide

/-- A version names one migration. -/
theorem eq_of_version {a b : Migration} (ha : a ∈ Migration.all) (hb : b ∈ Migration.all)
    (h : a.version = b.version) : a = b := by
  have hlt := List.pairwise_iff_getElem.1 all_sorted
  obtain ⟨i, hi, rfl⟩ := List.getElem_of_mem ha
  obtain ⟨j, hj, rfl⟩ := List.getElem_of_mem hb
  rcases Nat.lt_trichotomy i j with hij | rfl | hij
  · exact absurd h (Int32.ne_of_lt (hlt i j hi hj hij))
  · rfl
  · exact absurd h.symm (Int32.ne_of_lt (hlt j i hj hi hij))

theorem mem_dueIn {recorded : List Int32} {m : Modules} {phase : Migration.Phase} {x : Migration} :
    x ∈ dueIn recorded m phase ↔ x ∈ Migration.all ∧ x.phase = phase ∧
      x.group.isEnabled m = true ∧ x.version ∉ recorded := by
  simp [dueIn, Migration.isPending, and_assoc]

theorem mem_due {recorded : List Int32} {m : Modules} {x : Migration} :
    x ∈ due recorded m ↔ x ∈ Migration.all ∧ x.group.isEnabled m = true ∧ x.version ∉ recorded := by
  rw [due, List.mem_append, mem_dueIn, mem_dueIn]
  cases x.phase <;> simp

/-- The migrations of a phase are listed in order of version already. -/
theorem pending_eq (recorded : List Int32) (phase : Migration.Phase) (m : Modules) :
    Migration.pending Migration.all recorded phase m = dueIn recorded m phase := by
  refine List.mergeSort_of_pairwise ((all_sorted.imp ?_).filter _)
  intro a b hlt
  exact decide_eq_true (Int32.le_of_lt hlt)

/-- It matters only which versions are recorded. -/
theorem dueIn_congr {recorded recorded' : List Int32} {m : Modules} {phase : Migration.Phase}
    (h : ∀ x ∈ Migration.all, x.phase = phase → (x.version ∈ recorded ↔ x.version ∈ recorded')) :
    dueIn recorded m phase = dueIn recorded' m phase := by
  refine List.filter_congr fun x hx => ?_
  rw [Bool.eq_iff_iff]
  simp only [Migration.isPending, Bool.and_eq_true, decide_eq_true_eq, Bool.not_eq_true',
    List.contains_eq_mem, decide_eq_false_iff_not]
  exact and_congr_right fun hleft => not_congr (h x hx hleft.1)

/-- What the backfills record does not matter to the upgrades. -/
theorem dueIn_append (recorded : List Int32) (m : Modules) :
    dueIn (recorded ++ (dueIn recorded m .backfill).map Migration.version) m .constraintUpgrade
      = dueIn recorded m .constraintUpgrade := by
  refine dueIn_congr fun x hx hphase => ?_
  rw [List.mem_append, or_iff_left]
  intro hfilled
  obtain ⟨y, hy, hversion⟩ := List.mem_map.1 hfilled
  obtain ⟨hall, hbackfill, -, -⟩ := mem_dueIn.1 hy
  rw [eq_of_version hall hx hversion, hphase] at hbackfill
  cases hbackfill

/-! ### The whole run -/

/-- The greater of two versions, over a list of them. -/
theorem foldl_greater (versions : List Int32) (start : Int32) :
    versions.foldl (fun best v => if best ≤ v then v else best) start ∈ start :: versions ∧
      ∀ v ∈ start :: versions,
        v ≤ versions.foldl (fun best v => if best ≤ v then v else best) start := by
  induction versions generalizing start with
  | nil => exact ⟨List.mem_singleton_self _, by simp⟩
  | cons v rest ih =>
    obtain ⟨hmem, hle⟩ := ih (if start ≤ v then v else start)
    rw [List.foldl_cons]
    obtain ⟨hfirst, hrest⟩ := List.forall_mem_cons.1 hle
    by_cases hv : start ≤ v
    · rw [if_pos hv] at hmem hfirst hrest ⊢
      refine ⟨List.mem_cons_of_mem _ hmem, List.forall_mem_cons.2 ⟨?_, ?_⟩⟩
      · exact Int32.le_trans hv hfirst
      · exact List.forall_mem_cons.2 ⟨hfirst, hrest⟩
    · have hv' : v ≤ start := (Int32.le_total start v).resolve_left hv
      rw [if_neg hv] at hmem hfirst hrest ⊢
      refine ⟨?_, List.forall_mem_cons.2 ⟨hfirst, List.forall_mem_cons.2 ⟨?_, hrest⟩⟩⟩
      · rcases List.mem_cons.1 hmem with heq | hmem
        · rw [heq]
          exact List.mem_cons_self
        · exact List.mem_cons_of_mem _ (List.mem_cons_of_mem _ hmem)
      · exact Int32.le_trans hv' hfirst

theorem highest_mem {versions : List Int32} (h : versions ≠ []) : highest versions ∈ versions := by
  cases versions with
  | nil => exact absurd rfl h
  | cons v rest => exact (foldl_greater rest v).1

theorem le_highest {versions : List Int32} {v : Int32} (h : v ∈ versions) :
    v ≤ highest versions := by
  cases versions with
  | nil => cases h
  | cons v rest => exact (foldl_greater rest v).2 _ h

/-- What a run that succeeds reports. -/
structure Summary (s : StoreSettings) (recorded : List Int32) (tried : List Attempt)
    (report : Report) : Prop where
  applied : report.applied = (due recorded s.modules).map Migration.version
  skipped : report.skipped = tried.countP Attempt.failed
  version_mem : report.version ∈ recorded ++ report.applied
  le_version : ∀ v ∈ recorded ++ report.applied, v ≤ report.version

/-- Some version is recorded after a run: the core migrations are always enabled. -/
theorem recorded_append_due_ne_nil (recorded : List Int32) (m : Modules) :
    recorded ++ (due recorded m).map Migration.version ≠ [] := by
  obtain ⟨x, hx, hcore⟩ : ∃ x ∈ Migration.all, x.group = .core := ⟨_, List.mem_cons_self, rfl⟩
  by_cases hrecorded : x.version ∈ recorded
  · exact List.ne_nil_of_mem (List.mem_append_left _ hrecorded)
  · have hdue : x ∈ due recorded m := mem_due.2 ⟨hx, by rw [hcore]; rfl, hrecorded⟩
    exact List.ne_nil_of_mem (List.mem_append_right _ (List.mem_map_of_mem hdue))

/-- The run, with its migrations in order already. -/
theorem ensureWork_eq (s : StoreSettings) : ensureWork s = (do
    runAll [createSchema s.schema]
    let missing ← tryAll extensions
    runAll ([searchPath s.schema] ++ layout s.dimension s.modules ++ [migrationsTable.create])
    let recorded ← appliedVersions
    let backfills := dueIn recorded s.modules .backfill
    applyAll s.dimension backfills
    let upgrades :=
      dueIn (recorded ++ backfills.map Migration.version) s.modules .constraintUpgrade
    applyAll s.dimension upgrades
    let refused ← tryAll (policies s.schema s.modules.tenantTables)
    let applied := (backfills ++ upgrades).map Migration.version
    return ⟨applied, highest (recorded ++ applied), missing + refused⟩) := by
  simp only [ensureWork, pending_eq]

/-- **The run keeps to its plan.** -/
theorem ensureWork_plays (s : StoreSettings) (recorded : List Int32) :
    Plays (Reports recorded) (plan s recorded) (Summary s recorded) (ensureWork s) := by
  -- the plan, cut where one part of the program ends and the next begins
  have hplan : plan s recorded =
      [createSchema s.schema].map (fun sql => Step.hard (.simple sql)) ++
      (extensions.map Step.soft ++
      (([searchPath s.schema] ++ layout s.dimension s.modules ++ [migrationsTable.create]).map
        (fun sql => Step.hard (.simple sql)) ++
      ([Step.hard versionQuery] ++
      ((dueIn recorded s.modules .backfill).flatMap (block s.dimension) ++
      ((dueIn recorded s.modules .constraintUpgrade).flatMap (block s.dimension) ++
      ((policies s.schema s.modules.tenantTables).map Step.soft ++ [])))))) := by
    simp [plan, groundwork, upgrade, due]
  rw [hplan, ensureWork_eq]
  refine (runAll_plays _).bind fun t₁ _ h₁ => ?_
  refine (tryAll_plays _).bind fun t₂ missing h₂ => ?_
  refine (runAll_plays _).bind fun t₃ _ h₃ => ?_
  refine (appliedVersions_plays recorded).bind fun t₄ versions h₄ => ?_
  obtain ⟨h₄, hsame⟩ := h₄
  have hbackfills : dueIn versions s.modules .backfill = dueIn recorded s.modules .backfill :=
    dueIn_congr fun x _ _ => hsame x.version
  have hupgrades : dueIn (versions ++ (dueIn recorded s.modules .backfill).map Migration.version)
      s.modules .constraintUpgrade = dueIn recorded s.modules .constraintUpgrade := by
    refine (dueIn_congr fun x _ _ => ?_).trans (dueIn_append recorded s.modules)
    rw [List.mem_append, List.mem_append, hsame]
  simp only [hbackfills, hupgrades]
  refine (applyAll_plays _ _).bind fun t₅ _ h₅ => ?_
  refine (applyAll_plays _ _).bind fun t₆ _ h₆ => ?_
  refine (tryAll_plays _).bind fun t₇ refused h₇ => .done ?_
  have hmem : ∀ v, v ∈ versions ++ (due recorded s.modules).map Migration.version ↔
      v ∈ recorded ++ (due recorded s.modules).map Migration.version := by
    intro v
    rw [List.mem_append, List.mem_append, hsame]
  refine ⟨rfl, ?_, ?_, ?_⟩
  · simp only [Clean] at h₁ h₃ h₄ h₅ h₆
    simp only [List.countP_append, h₁, h₂, h₃, h₄, h₅, h₆, h₇, List.countP_nil, Nat.add_zero,
      Nat.zero_add]
  · refine (hmem _).1 (highest_mem fun hnil => ?_)
    exact recorded_append_due_ne_nil recorded s.modules
      (List.eq_nil_iff_forall_not_mem.2 fun v hv => by simpa [hnil] using (hmem v).2 hv)
  · exact fun v hv => le_highest ((hmem v).2 hv)

/-- The error that ends a run. -/
def haltOf : Except StoreError α → Option StoreError
  | .ok _ => none
  | .error e => some e

theorem Plays.follows {R : Attempt → Prop} {steps : List Step} {Q : List Attempt → α → Prop}
    {w : Work α} (hw : Plays R steps Q w) {tried : List Attempt} {answer : Except StoreError α}
    (htried : w.Tries tried answer) (hkind : ∀ a ∈ tried, R a) :
    Follows steps tried (haltOf answer) ∧ ∀ a, answer = .ok a → Q tried a := by
  have hplayed := hw tried answer htried hkind
  cases answer with
  | ok a => exact ⟨hplayed.1, fun b hb => Except.ok.inj hb ▸ hplayed.2⟩
  | error e => exact ⟨hplayed, nofun⟩

variable [Server σ]

/-- What is sent once a connection is taken is what is carried of the attempts, which keep to the
plan. -/
theorem ensure_keeps {s : StoreSettings} {p : Pool σ} (hp : p.Reachable s) {c : Channel σ}
    {p' : Pool σ} (hacquire : p.acquire = (.ok c, p')) {recorded : List Int32}
    (hreports : ∀ a ∈ (ensure s).attempts p, Reports recorded a) :
    (∃ sent, ((ensure s).run p).2.wire.log = c.wire.log ++ sent ∧
      Attempt.Carried ((ensure s).attempts p) sent) ∧
    Follows (plan s recorded) ((ensure s).attempts p) (haltOf ((ensure s).run p).1) ∧
    ∀ report, ((ensure s).run p).1 = .ok report →
      Summary s recorded ((ensure s).attempts p) report := by
  have htries := (ensureWork s).tries c
  have hattempts : (ensure s).attempts p = (ensureWork s).attempts c :=
    Operation.attempts_onConnection hacquire
  have hanswer : ((ensure s).run p).1 = ((ensureWork s).run c).1 :=
    congrArg Prod.fst (Operation.run_onConnection hacquire)
  rw [← hattempts, ← hanswer] at htries
  exact ⟨Operation.carried_onConnection hp hacquire,
    (ensureWork_plays s recorded).follows htries hreports⟩

/-- **What a run does.**  Once a connection is taken, the run hands over the statements of its plan
up to the first that fails and is not passed over, and all of them are sent unless the connection
breaks.  It succeeds exactly when no such statement fails, and then tells what it applied, how many
failures it passed over, and the highest version. -/
theorem ensure_exact {s : StoreSettings} {p : Pool σ} (hp : p.Reachable s) {c : Channel σ}
    {p' : Pool σ} (hacquire : p.acquire = (.ok c, p')) {recorded : List Int32}
    (hreports : ∀ a ∈ (ensure s).attempts p, Reports recorded a) :
    (∃ sent, ((ensure s).run p).2.wire.log = c.wire.log ++ sent ∧
      Attempt.Carried ((ensure s).attempts p) sent) ∧
    (∀ phase, (dueIn recorded s.modules phase).Pairwise fun a b => a.version < b.version) ∧
    Follows (plan s recorded) ((ensure s).attempts p) (haltOf ((ensure s).run p).1) ∧
    ((∃ report, ((ensure s).run p).1 = .ok report) ↔
      ∀ x ∈ (plan s recorded).zip ((ensure s).attempts p), x.1.isSoft = false → x.2.Succeeded) ∧
    ∀ report, ((ensure s).run p).1 = .ok report →
      report.applied = (due recorded s.modules).map Migration.version ∧
      report.skipped = ((plan s recorded).zip ((ensure s).attempts p)).countP
        (fun x => x.1.isSoft && x.2.failed) ∧
      report.version ∈ recorded ++ report.applied ∧
      ∀ v ∈ recorded ++ report.applied, v ≤ report.version := by
  obtain ⟨hcarried, hfollows, hsummary⟩ := ensure_keeps hp hacquire hreports
  refine ⟨hcarried, fun phase => all_sorted.filter _, hfollows, ?_, ?_⟩
  · rw [← hfollows.finished_iff]
    cases ((ensure s).run p).1 with
    | ok report => exact ⟨fun _ => rfl, fun _ => ⟨report, rfl⟩⟩
    | error e => exact ⟨nofun, nofun⟩
  · intro report hreport
    have htold := hsummary report hreport
    rw [hreport] at hfollows
    refine ⟨htold.applied, ?_, htold.version_mem, htold.le_version⟩
    rw [htold.skipped]
    exact hfollows.countP_failed.symm

/-- Replies to a run up to its question for the recorded versions: no statement fails, and it is
told these versions. -/
def telling (versions : List Int32) : List Reply :=
  .done 0 :: (groundwork .default).map (fun _ => .done 0)
    ++ [.rows (versions.map fun v => ⟨[("version", .int4 v)]⟩)]

/-- A pool whose server refuses an extension and has recorded all but two of the migrations. -/
def refusedExtension : Pool Replies :=
  Pool.replying ([.done 0, .done 0, .error "42501" "permission denied", .done 0, .done 0]
    ++ (layout 1536 ⟨false, false⟩).map (fun _ => .done 0)
    ++ [.done 0, .rows ([1, 2, 3, 4, 10].map fun v => ⟨[("version", .int4 v)]⟩)])

theorem ensure_exact_refusedExtension :
    refusedExtension.Reachable .default ∧
      (∀ a ∈ (ensure .default).attempts refusedExtension, Reports [1, 2, 3, 4, 10] a) ∧
      ∃ report, ((ensure .default).run refusedExtension).1 = .ok report ∧
        report.applied = [7, 8] ∧ report.skipped = 1 ∧ report.version = 10 := by
  have htold : toldVersions ((ensure .default).attempts refusedExtension) =
      [some [1, 2, 3, 4, 10]] := by
    rw [ensure, ensureWork_eq]
    decide +kernel
  have hreports := reports_of_toldVersions (fun told h => List.mem_singleton.1 (htold ▸ h))
  obtain ⟨c, hacquire⟩ : ∃ c, refusedExtension.acquire.1 = .ok c := ⟨_, rfl⟩
  obtain ⟨-, -, -, -, hreport⟩ := ensure_exact (.opened _) (Prod.ext hacquire rfl) hreports
  have hok : ((ensure .default).run refusedExtension).1.isOk = true := by
    rw [ensure, ensureWork_eq]
    decide +kernel
  have hskipped : ((plan .default [1, 2, 3, 4, 10]).zip
      ((ensure .default).attempts refusedExtension)).countP
        (fun x => x.1.isSoft && x.2.failed) = 1 := by
    rw [ensure, ensureWork_eq]
    decide +kernel
  refine ⟨.opened _, hreports, ?_⟩
  have hdue : (due [1, 2, 3, 4, 10] StoreSettings.default.modules).map Migration.version =
      [7, 8] := by decide
  cases hrun : ((ensure .default).run refusedExtension).1 with
  | error e =>
    rw [hrun] at hok
    cases hok
  | ok report =>
    obtain ⟨happlied, hcount, hmem, hle⟩ := hreport report hrun
    rw [hdue] at happlied
    rw [happlied] at hmem hle
    have hall : ([1, 2, 3, 4, 10] ++ [7, 8] : List Int32).all (fun v => decide (v ≤ 10)) = true :=
      rfl
    have hgreatest : report.version ≤ 10 := of_decide_eq_true (List.all_eq_true.1 hall _ hmem)
    exact ⟨report, rfl, happlied, hcount.trans hskipped,
      Int32.le_antisymm hgreatest (hle 10 (by decide))⟩

end KnowledgeBase.Schema
