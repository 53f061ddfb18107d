import KnowledgeBase.Proofs.Connection.Exchange
import KnowledgeBase.Proofs.Schema.Resumption

/-!
# What the recorded version tells

Migrations are not applied in the order of their versions: the backfills come first, and the
constraint upgrades after them, each by version.  Whatever a run stops at, what is recorded is an
initial part of the order of application.  The greatest recorded version is a summary of it, though
not a complete one: the last backfill has a greater version than the upgrades that come after it.

## Main definitions

* `Schema.order` — the migrations of a deployment in the order of application.
* `Schema.Initial` — what is recorded is an initial part of the order.
* `Schema.Launch.Executes` — a run has executed all statements of a migration.
* `Schema.TellsGreatest` — a database that tells the greatest recorded version.

## Main results

* `Schema.Launch.Course.initial` — a run keeps what is recorded an initial part.
* `Schema.History.version_summary` — what follows from the version that is told.
* `Schema.History.not_recorded_upTo` — an upgrade below that version may be missing.
-/

namespace KnowledgeBase.Schema

open Sql

/-! ### The order of application -/

/-- The migrations of a deployment in the order in which they are applied: the backfills by version,
then the constraint upgrades by version. -/
def order (m : Modules) : List Migration := due [] m

theorem mem_order {m : Modules} {x : Migration} :
    x ∈ order m ↔ x ∈ Migration.all ∧ x.group.isEnabled m = true := by
  rw [order, mem_due]
  simp

/-- What a run applies is what is left of the order. -/
theorem due_eq_filter (recorded : List Int32) (m : Modules) :
    due recorded m = (order m).filter fun x => !recorded.contains x.version := by
  have hphase (phase : Migration.Phase) : dueIn recorded m phase =
      (dueIn [] m phase).filter fun x => !recorded.contains x.version := by
    rw [dueIn, dueIn, List.filter_filter]
    apply List.filter_congr
    intro x _
    simp [Migration.isPending, Bool.and_comm]
  rw [order, due, due, List.filter_append, hphase, hphase]

/-- One migration comes before another: in an earlier phase, or in the same phase with a smaller
version. -/
def Before (a b : Migration) : Prop :=
  a.phase = .backfill ∧ b.phase = .constraintUpgrade ∨ a.phase = b.phase ∧ a.version < b.version

theorem order_pairwise (m : Modules) : (order m).Pairwise Before := by
  have hphase (phase : Migration.Phase) : (dueIn [] m phase).Pairwise Before := by
    have hsorted : (dueIn [] m phase).Pairwise fun a b => a.version < b.version :=
      all_sorted.filter _
    refine hsorted.imp_of_mem ?_
    intro a b ha hb hlt
    have hsame : a.phase = b.phase := (mem_dueIn.1 ha).2.1.trans (mem_dueIn.1 hb).2.1.symm
    exact .inr ⟨hsame, hlt⟩
  refine List.pairwise_append.2 ⟨hphase _, hphase _, ?_⟩
  intro a ha b hb
  exact .inl ⟨(mem_dueIn.1 ha).2.1, (mem_dueIn.1 hb).2.1⟩

/-- What is recorded is an initial part of the order of application. -/
structure Initial (m : Modules) (recorded : List Int32) : Prop where
  known : ∀ v ∈ recorded, ∃ x ∈ order m, x.version = v
  closed : ∀ {earlier later : List Migration} {x : Migration}, order m = earlier ++ x :: later →
    x.version ∈ recorded → ∀ y ∈ earlier, y.version ∈ recorded

namespace Initial

variable {m : Modules} {recorded : List Int32}

theorem nil (m : Modules) : Initial m [] := ⟨nofun, nofun⟩

/-- A migration that does not come after a recorded one is recorded. -/
theorem recorded_of_not_before (h : Initial m recorded) {x w : Migration} (hx : x ∈ order m)
    (hw : w ∈ order m) (hrecorded : w.version ∈ recorded) (hnot : ¬ Before w x) :
    x.version ∈ recorded := by
  obtain ⟨earlier, later, horder⟩ := List.append_of_mem hw
  rw [horder] at hx
  rcases List.mem_append.1 hx with hearlier | hx
  · exact h.closed horder hrecorded x hearlier
  · rcases List.mem_cons.1 hx with rfl | hlater
    · exact hrecorded
    · have hpairwise := order_pairwise m
      rw [horder, List.pairwise_append, List.pairwise_cons] at hpairwise
      exact absurd (hpairwise.2.1.1 x hlater) hnot

/-- The order falls into what is recorded and what is not. -/
theorem exists_split (h : Initial m recorded) :
    ∃ finished rest, order m = finished ++ rest ∧
      ∀ v, v ∈ recorded ↔ v ∈ finished.map Migration.version := by
  -- the first migration that is not recorded, if there is one
  cases hfind : (order m).find? fun x => !recorded.contains x.version with
  | none =>
    refine ⟨order m, [], (List.append_nil _).symm, ?_⟩
    intro v
    constructor
    · intro hv
      obtain ⟨x, hx, rfl⟩ := h.known v hv
      exact List.mem_map_of_mem hx
    · intro hv
      obtain ⟨x, hx, rfl⟩ := List.mem_map.1 hv
      simpa using List.find?_eq_none.1 hfind x hx
  | some first =>
    obtain ⟨hfirst, finished, rest, horder, hfinished⟩ := List.find?_eq_some_iff_append.1 hfind
    have hmissing : first.version ∉ recorded := by simpa using hfirst
    refine ⟨finished, first :: rest, horder, ?_⟩
    intro v
    constructor
    · intro hv
      obtain ⟨x, hx, rfl⟩ := h.known v hv
      rw [horder] at hx
      rcases List.mem_append.1 hx with hx | hx
      · exact List.mem_map_of_mem hx
      · exfalso
        apply hmissing
        rcases List.mem_cons.1 hx with rfl | hlater
        · exact hv
        · obtain ⟨between, later, rfl⟩ := List.append_of_mem hlater
          have hsplit : order m = (finished ++ first :: between) ++ x :: later := by
            rw [horder, List.append_assoc, List.cons_append]
          exact h.closed hsplit hv first (List.mem_append_right _ List.mem_cons_self)
    · intro hv
      obtain ⟨x, hx, rfl⟩ := List.mem_map.1 hv
      simpa using hfinished x hx

end Initial

/-! ### One run -/

namespace Launch

variable {σ : Type} [Server σ] {l : Launch σ} {recorded : List Int32}

/-- Before the step that records a migration stand those that record the migrations before it. -/
theorem record_mem_of_plan {s : StoreSettings} {earlier later : List Migration} {x : Migration}
    (hdue : due recorded s.modules = earlier ++ x :: later) {before after : List Step} {step : Step}
    (hplan : plan s recorded = before ++ step :: after)
    (hstep : recordedBy? step.statement = some x.version) :
    ∀ y ∈ earlier, Step.hard (recordStatement y) ∈ before := by
  intro y hy
  rw [plan_eq_stepsBefore hdue] at hplan
  rcases append_eq_append_cons hplan with ⟨rest, hrest⟩ | ⟨middle, rfl, -⟩
  · -- the steps up to there record other versions
    exfalso
    have hmem : step ∈ stepsBefore s earlier := by simp [hrest]
    rcases List.mem_append.1 hmem with hground | hmem
    · rw [recordedBy?_of_framing (framing_groundwork s step hground)] at hstep
      cases hstep
    · rcases List.mem_cons.1 hmem with rfl | hblock
      · cases hstep
      · obtain ⟨z, hz, hzblock⟩ := List.mem_flatMap.1 hblock
        obtain ⟨z', hz', hsame, -⟩ :=
          (planned_block s.dimension hz step hzblock).of_recordedBy? hstep
        have hversions := hdue ▸ due_pairwise recorded s.modules
        exact (List.pairwise_append.1 hversions).2.2 z' hz' x List.mem_cons_self hsame
  · apply List.mem_append_left
    apply List.mem_append_right
    apply List.mem_cons_of_mem
    refine List.mem_flatMap.2 ⟨y, hy, ?_⟩
    exact List.mem_append_right _ (List.mem_singleton_self _)

/-- A run that records a migration has recorded those that it applies before. -/
theorem Course.recorded_before (h : l.Course recorded) {earlier later : List Migration}
    {x : Migration} (hdue : due recorded l.settings.modules = earlier ++ x :: later) {e : Sent}
    (he : e ∈ l.sent) (hrecords : recordedBy? e.statement = some x.version) :
    ∀ y ∈ earlier, y.version ∈ recordedAfter recorded l.sent := by
  intro y hy
  rw [h.mem_recordedAfter]
  cases h with
  | unopened hframe _ _ =>
    rw [recordedBy?_of_framing (hframe e he)] at hrecords
    cases hrecords
  | @opened opening sent tried hsplit hframe hcarried hfollows _ =>
    rcases List.mem_append.1 (hsplit ▸ he) with he | he
    · rw [recordedBy?_of_framing (hframe e he)] at hrecords
      cases hrecords
    · obtain ⟨before, after, rfl⟩ := List.append_of_mem (hcarried.attempt_mem he)
      obtain ⟨steps, step, steps', hplan, hstatement, hgone⟩ := hfollows.of_split
      have hstep : recordedBy? step.statement = some x.version := by
        rw [← hstatement]
        exact hrecords
      have hrecord := record_mem_of_plan hdue hplan hstep y hy
      -- whatever stands before a step that was reached has succeeded
      obtain ⟨a, ha, hsame, hsucceeded⟩ := hgone.succeeded_of_hard _ hrecord rfl
      obtain ⟨e', he', rfl, hreply'⟩ :=
        hcarried.sent_of_succeeded (List.mem_append_left _ ha) hsucceeded
      refine .inr ⟨e', hsplit ▸ List.mem_append_right _ he', hreply', ?_⟩
      rw [show e'.statement = recordStatement y from hsame, recordedBy?_recordStatement]

/-- **A run keeps what is recorded an initial part of the order**, whatever it stops at. -/
theorem Course.initial (h : l.Course recorded) (hinitial : Initial l.settings.modules recorded) :
    Initial l.settings.modules (recordedAfter recorded l.sent) := by
  constructor
  · intro v hv
    rcases h.mem_recordedAfter.1 hv with hv | ⟨e, he, -, hrecords⟩
    · exact hinitial.known v hv
    · obtain ⟨x, hx, hversion, -⟩ := (h.planned e he).of_recordedBy? hrecords
      obtain ⟨hall, henabled, -⟩ := mem_due.1 hx
      exact ⟨x, mem_order.2 ⟨hall, henabled⟩, hversion⟩
  · intro earlier later x horder hx y hy
    by_cases hold : y.version ∈ recorded
    · exact h.mem_recordedAfter.2 (.inl hold)
    · -- what comes behind a missing migration was missing too
      have hnew : x.version ∉ recorded := fun hrecorded =>
        hold (hinitial.closed horder hrecorded y hy)
      obtain ⟨e, he, -, hrecords⟩ := h.exists_record hnew hx
      have hdue := due_eq_filter recorded l.settings.modules
      rw [horder, List.filter_append, List.filter_cons_of_pos (by simpa using hnew)] at hdue
      apply h.recorded_before hdue he hrecords
      exact List.mem_filter.2 ⟨hy, by simpa using hold⟩

/-- A run has executed all statements of a migration, one after the other. -/
def Executes (l : Launch σ) (x : Migration) : Prop :=
  ∃ before changes after, l.sent = before ++ changes ++ after ∧
    changes.map Sent.statement = (x.statements l.settings.dimension).map .simple ∧
      ∀ e ∈ changes, e.reply.failure? = none

/-- What a run records it has executed. -/
theorem Course.executes (h : l.Course recorded) {x : Migration} (hx : x ∈ Migration.all)
    (hnew : x.version ∉ recorded) (hrecorded : x.version ∈ recordedAfter recorded l.sent) :
    l.Executes x := by
  obtain ⟨e, he, -, hrecords⟩ := h.exists_record hnew hrecorded
  obtain ⟨before, after, hsent⟩ := List.append_of_mem he
  obtain ⟨y, hy, hversion, before', changes, rfl, hchanges, hsucceeded⟩ :=
    h.inserted hsent hrecords
  have hsame : y = x := eq_of_version (mem_all_of_mem_due hy) hx hversion
  rw [hsame] at hchanges
  exact ⟨before', changes, e :: after, hsent, hchanges, hsucceeded⟩

end Launch

/-! ### The version that is told -/

/-- Asks for the greatest recorded version. -/
def greatestQuery : Statement := .prepared "SELECT MAX(version) FROM schema_migrations" []

/-- The greatest of some versions, if there is any. -/
def greatest? : List Int32 → Option Int32
  | [] => none
  | v :: versions => some (highest (v :: versions))

/-- When the greatest recorded version is asked for, it is told, or NULL where nothing is
recorded. -/
def TellsGreatest (recorded : List Int32) (e : Sent) : Prop :=
  e.statement = greatestQuery → e.reply.failure? = none →
    ∃ name, e.reply = .rows [⟨[(name, Cell.toValue (greatest? recorded))]⟩]

variable {σ : Type} [Server σ]

/-- The version that is answered is the greatest, or zero where nothing is recorded. -/
theorem recordedVersion_eq {p : Pool σ} {recorded : List Int32}
    (htold : ∀ e ∈ recordedVersion.sent p, TellsGreatest recorded e) {v : Int32}
    (hv : (recordedVersion.run p).1 = .ok v) : v = (greatest? recorded).getD 0 := by
  have hsends : recordedVersion.Sends (· = .bare) fun s => s.isData = true :=
    .onConnection rfl ((Work.Sends.scalar (by decide +kernel)).bind fun _ => .done _)
  have hexchange := Operation.exchange hsends p
  rw [hv] at hexchange
  generalize hdata : data (recordedVersion.sent p) = sent at hexchange
  cases hexchange with
  | within hwork hnext =>
    cases hnext
    rw [List.append_nil] at hdata
    cases hwork.of_ok with
    | unsent f rest => cases rest
    | sent r rest =>
      have hmem : (⟨greatestQuery, r⟩ : Sent) ∈ recordedVersion.sent p := by
        have hin : (⟨greatestQuery, r⟩ : Sent) ∈ data (recordedVersion.sent p) := by
          rw [hdata]
          exact List.mem_cons_self
        exact (List.mem_filter.1 hin).1
      cases hreply : r.failure? with
      | some f =>
        rw [hreply] at rest
        cases rest
      | none =>
        obtain ⟨name, hrows⟩ := htold _ hmem rfl hreply
        simp only at hrows
        subst hrows
        -- NULL is read as no version at all, and answered as zero
        generalize greatest? recorded = greatest at *
        cases greatest with
        | none =>
          cases rest
          rfl
        | some greatest =>
          cases rest
          rfl

/-! ### Runs one after the other -/

namespace History

variable {m : Modules} {start final : List Int32} {runs : List (Launch σ)}

theorem initial (h : History start runs final) (hmodules : ∀ l ∈ runs, l.settings.modules = m)
    (hstart : Initial m start) : Initial m final := by
  induction h with
  | nil recorded => exact hstart
  | @cons recorded final l rest hpool htruthful _ ih =>
    obtain ⟨hfirst, hrest⟩ := List.forall_mem_cons.1 hmodules
    apply ih hrest
    have hkept := (Launch.course hpool htruthful).initial (by rw [hfirst]; exact hstart)
    rw [hfirst] at hkept
    exact hkept

/-- What is recorded in the end, and was not at the start, some run has executed. -/
theorem executed (h : History start runs final) {x : Migration} (hx : x ∈ Migration.all)
    (hnew : x.version ∉ start) (hrecorded : x.version ∈ final) : ∃ l ∈ runs, l.Executes x := by
  induction h with
  | nil recorded => exact absurd hrecorded hnew
  | @cons recorded final l rest hpool htruthful _ ih =>
    by_cases hfirst : x.version ∈ recordedAfter recorded l.sent
    · exact ⟨l, List.mem_cons_self, (Launch.course hpool htruthful).executes hx hnew hfirst⟩
    · obtain ⟨l', hl', hexecutes⟩ := ih hfirst hrecorded
      exact ⟨l', List.mem_cons_of_mem _ hl', hexecutes⟩

/-- After a run that succeeded, every migration that is enabled is recorded. -/
theorem complete (h : History start runs final) {l : Launch σ} (hl : l ∈ runs) {report : Report}
    (hok : l.answer = .ok report) {x : Migration} (hx : x ∈ order l.settings.modules) :
    x.version ∈ final := by
  obtain ⟨before, after, rfl⟩ := List.append_of_mem hl
  obtain ⟨recorded, -, hrun⟩ := h.of_append
  cases hrun with
  | cons hpool htruthful hafter =>
    have hresumes := (Launch.course hpool htruthful).resumption
    obtain ⟨hall, henabled⟩ := mem_order.1 hx
    exact hafter.subset (hresumes.complete report hok x hall henabled)

end History

/-- Every version is positive. -/
theorem not_version_le_zero : ∀ x ∈ Migration.all, ¬ x.version ≤ 0 := by decide

/-- Only the last backfill has a greater version than an upgrade. -/
theorem version_eq_of_backfill : ∀ w ∈ Migration.all, ∀ x ∈ Migration.all, w.phase = .backfill →
    x.phase = .constraintUpgrade → x.version ≤ w.version → w.version = 10 := by decide

namespace Initial

variable {m : Modules} {recorded : List Int32}

/-- Below the greatest recorded version every backfill is recorded, and every upgrade too unless
that version is the one of the last backfill. -/
theorem recorded_of_le (h : Initial m recorded) {v : Int32}
    (hv : v = (greatest? recorded).getD 0) {x : Migration} (hx : x ∈ order m)
    (hle : x.version ≤ v) (hcovered : x.phase = .backfill ∨ v ≠ 10) : x.version ∈ recorded := by
  obtain ⟨hall, -⟩ := mem_order.1 hx
  cases recorded with
  | nil =>
    rw [hv] at hle
    exact absurd hle (not_version_le_zero x hall)
  | cons first rest =>
    have hgreatest : highest (first :: rest) ∈ first :: rest := highest_mem (List.cons_ne_nil _ _)
    obtain ⟨w, hw, hversion⟩ := h.known _ hgreatest
    have hsame : w.version = v := hversion.trans hv.symm
    obtain ⟨hwall, -⟩ := mem_order.1 hw
    apply h.recorded_of_not_before hx hw (hversion ▸ hgreatest)
    rintro (⟨hbackfill, hupgrade⟩ | ⟨-, hlt⟩)
    · rcases hcovered with hphase | hne
      · rw [hphase] at hupgrade
        cases hupgrade
      · have hten := version_eq_of_backfill w hwall x hall hbackfill hupgrade (hsame ▸ hle)
        exact hne (hsame.symm.trans hten)
    · rw [hsame] at hlt
      exact absurd hle (Int32.not_le.2 hlt)

end Initial

/-- **What the recorded version tells.**  In the life of a database whose runs are all for the same
modules and may stop at any statement, what is recorded is an initial part of the order of
application, and each of these migrations some run has executed in full.  When the greatest recorded
version is asked for and `v` is answered, then every migration of the modules with a version up to
`v` is recorded and executed if it is a backfill, and if it is not, then unless `v` is the version
of the last backfill and no run has succeeded. -/
theorem History.version_summary {m : Modules} {runs : List (Launch σ)} {final : List Int32}
    (h : History [] runs final) (hmodules : ∀ l ∈ runs, l.settings.modules = m) :
    (∃ finished rest, order m = finished ++ rest ∧
      (∀ v, v ∈ final ↔ v ∈ finished.map Migration.version) ∧
        ∀ x ∈ finished, ∃ l ∈ runs, l.Executes x) ∧
    ∀ p : Pool σ,
      (∀ e ∈ recordedVersion.sent p, TellsGreatest final e) →
        ∀ v, (recordedVersion.run p).1 = .ok v →
          ∀ x ∈ Migration.all, x.group.isEnabled m = true → x.version ≤ v →
            (x.phase = .backfill ∨ v ≠ 10 ∨ ∃ l ∈ runs, l.answer.isOk = true) →
              x.version ∈ final ∧ ∃ l ∈ runs, l.Executes x := by
  have hinitial : Initial m final := h.initial hmodules (.nil m)
  constructor
  · obtain ⟨finished, rest, horder, hfinished⟩ := hinitial.exists_split
    refine ⟨finished, rest, horder, hfinished, ?_⟩
    intro x hx
    have hmem : x ∈ order m := by
      rw [horder]
      exact List.mem_append_left _ hx
    have hrecorded : x.version ∈ final := (hfinished _).2 (List.mem_map_of_mem hx)
    exact h.executed (mem_order.1 hmem).1 List.not_mem_nil hrecorded
  · intro p htold v hv x hall henabled hle hcovered
    have hx : x ∈ order m := mem_order.2 ⟨hall, henabled⟩
    have hrecorded : x.version ∈ final := by
      rcases hcovered with hbackfill | hne | ⟨l, hl, hok⟩
      · exact hinitial.recorded_of_le (recordedVersion_eq htold hv) hx hle (.inl hbackfill)
      · exact hinitial.recorded_of_le (recordedVersion_eq htold hv) hx hle (.inr hne)
      · cases hanswer : l.answer with
        | error e =>
          rw [hanswer] at hok
          cases hok
        | ok report => exact h.complete hl hanswer (by rw [hmodules l hl]; exact hx)
    exact ⟨hrecorded, h.executed hall List.not_mem_nil hrecorded⟩

/-! ### A run that stops between the phases -/

namespace History

/-- A run over an empty database: the backfills are done, and the first upgrade fails. -/
def betweenPhases : Launch Replies :=
  ⟨.default, .replying (telling [] ++ List.replicate 19 (.done 1)
    ++ [.error "23505" "could not create unique index"])⟩

/-- A pool whose server tells that the greatest recorded version is the tenth. -/
def askedAfterwards : Pool Replies := .replying [.done 0, .rows [⟨[("max", .int4 10)]⟩]]

theorem betweenPhases_recorded : History [] [betweenPhases] [1, 2, 3, 4, 10] := by
  have htold : toldVersions (betweenPhases.sent.map Sent.attempt) = [some []] := by
    rw [Launch.sent, ensure, ensureWork_eq]
    decide +kernel
  have hrecorded : recordedAfter [] betweenPhases.sent = [1, 2, 3, 4, 10] := by
    rw [Launch.sent, ensure, ensureWork_eq]
    decide +kernel
  refine .cons (.opened _) (Launch.truthful_of_told htold) ?_
  rw [hrecorded]
  exact .nil _

theorem askedAfterwards_told :
    ∀ e ∈ recordedVersion.sent askedAfterwards, TellsGreatest [1, 2, 3, 4, 10] e := by
  have hsent : recordedVersion.sent askedAfterwards =
      [⟨.simple (searchPath StoreSettings.default.schema), .done 0⟩,
        ⟨greatestQuery, .rows [⟨[("max", .int4 10)]⟩]⟩] := rfl
  intro e he hquery _
  rw [hsent] at he
  rcases List.mem_cons.1 he with rfl | he
  · cases hquery
  · cases List.mem_singleton.1 he
    exact ⟨"max", rfl⟩

/-- Between the phases every backfill is done. -/
theorem version_summary_betweenPhases :
    (History [] [betweenPhases] [1, 2, 3, 4, 10] ∧
      ∀ l ∈ [betweenPhases], l.settings.modules = betweenPhases.settings.modules) ∧
    ∀ x ∈ Migration.all, x.group.isEnabled betweenPhases.settings.modules = true →
      x.phase = .backfill → x.version ≤ 10 → ∃ l ∈ [betweenPhases], l.Executes x := by
  have hmodules : ∀ l ∈ [betweenPhases], l.settings.modules = betweenPhases.settings.modules := by
    simp
  refine ⟨⟨betweenPhases_recorded, hmodules⟩, ?_⟩
  intro x hx henabled hbackfill hle
  have htells := (betweenPhases_recorded.version_summary hmodules).2 askedAfterwards
    askedAfterwards_told 10 rfl
  exact (htells x hx henabled hle (.inl hbackfill)).2

/-- **An upgrade below the version that is told may be missing.**  Here the version is the tenth,
and the seventh migration, which is enabled, is not recorded. -/
theorem not_recorded_upTo :
    History [] [betweenPhases] [1, 2, 3, 4, 10] ∧
      (∀ e ∈ recordedVersion.sent askedAfterwards, TellsGreatest [1, 2, 3, 4, 10] e) ∧
      (recordedVersion.run askedAfterwards).1 = .ok 10 ∧
      ∃ x ∈ Migration.all, x.group.isEnabled betweenPhases.settings.modules = true ∧
        x.version ≤ 10 ∧ x.version ∉ ([1, 2, 3, 4, 10] : List Int32) := by
  refine ⟨betweenPhases_recorded, askedAfterwards_told, rfl, ?_⟩
  exact ⟨_, List.getElem_mem (n := 6) (by decide), rfl, by decide, by decide⟩

end History

end KnowledgeBase.Schema
