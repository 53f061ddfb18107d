import KnowledgeBase.Proofs.Connection.Lifetime

/-!
# All or nothing

Framed work for a tenant is meant to take effect as a whole or not at all.  It does, unless the
database refuses the savepoint in which the context is set: the driver then takes the transaction
for lost, rolls it back ahead of the next statement, and lets the work go on without one.

## Main definitions

* `AllOrNothing` — what the record of an operation is to look like.
* `Channel.conclude` — how framed work ends after its statements.
* `Channel.Ended` — what the end of a transaction that was kept leaves in the record.
* `Work.Begins` — work that starts with a statement and ends when that fails.

## Main results

* `Channel.Ended.allOrNothing` — a transaction that was kept takes effect as a whole or not at all.
* `Pool.perform_cases` — framed work does, exactly if the savepoint of its context is not refused.
-/

namespace KnowledgeBase

open Sql

/-- Data is written in a transaction; after success exactly one commit succeeded, behind the last
data statement; after an error none did, and the transaction is rolled back or its connection
closed. -/
structure AllOrNothing (ok : Bool) (sent : List Sent) (kept : Option Link) : Prop where
  within : DataWithin false sent
  committed : ok = true → (∃ e ∈ sent, e.statement.isData = true) →
    ∃ before e rest, sent = before ++ e :: rest ∧ e.Commits ∧ (∀ f ∈ before, ¬ f.Commits) ∧
      ∀ f ∈ rest, ¬ f.Commits ∧ f.statement.isData = false
  undone : ok = false → (∀ e ∈ sent, ¬ e.Commits) ∧ (isOpen false sent = false ∨ kept = none)

variable {σ α β : Type}

/-! ### Entries of the record -/

theorem Sql.Statement.not_mark_of_data {s : Statement} (h : s.isData = true) :
    s.isMark = false := by
  cases s with
  | simple sql => cases h
  | prepared sql binds => rfl

/-- A savepoint neither opens nor ends a transaction. -/
theorem Sql.Statement.not_mark_savepoint : (simple (Link.beginText 1)).isMark = false := by decide

theorem Sql.Statement.ne_savepoint_of_mark {s : Statement} (h : s.isMark = true) :
    s ≠ .simple (Link.beginText 1) := by
  rintro rfl
  rw [not_mark_savepoint] at h
  cases h

theorem Sql.Sent.not_commits_of_unmarked {e : Sent} (h : e.statement.isMark = false) :
    ¬ e.Commits := by
  rintro ⟨hstatement, -⟩
  rw [hstatement] at h
  cases h

theorem Sql.Sent.opens_of_begin {e : Sent} (h : e.statement = .simple "BEGIN")
    (hreply : e.reply.failure? = none) (before : Bool) : e.opens before = true := by
  rw [opens, h, hreply]
  rfl

/-- Neither data, nor a commit that succeeded, nor the savepoint of the context. -/
structure Sql.Sent.Harmless (e : Sent) : Prop where
  not_data : e.statement.isData = false
  not_commits : ¬ e.Commits
  not_savepoint : e.statement ≠ .simple (Link.beginText 1)

theorem Sql.Statement.Aside.harmless {e : Sent} (h : e.statement.Aside) : e.Harmless :=
  ⟨h.not_data, Sent.not_commits_of_unmarked h.not_mark, h.not_savepoint⟩

theorem Sql.Sent.harmless_rollback {e : Sent} (h : e.statement = .simple "ROLLBACK") :
    e.Harmless := by
  refine ⟨by rw [h]; rfl, ?_, Statement.ne_savepoint_of_mark (by rw [h]; rfl)⟩
  intro hcommits
  have heq := h.symm.trans hcommits.1
  simp at heq

theorem Sql.Sent.harmless_commit {e : Sent} (h : e.statement = .simple "COMMIT")
    (hreply : e.reply.failure? ≠ none) : e.Harmless :=
  ⟨by rw [h]; rfl, fun hcommits => hreply hcommits.2,
    Statement.ne_savepoint_of_mark (by rw [h]; rfl)⟩

namespace Channel

/-- What the end of a transaction leaves in the record: what waited and a commit, or no commit and a
roll-back or a closed connection. -/
inductive Ended : Bool → List Sent → Option Link → Prop where
  | committed {waited : List Sent} {e : Sent} {kept : Option Link}
    (hwaited : ∀ f ∈ waited, f.statement.Aside) (he : e.Commits) : Ended true (waited ++ [e]) kept
  | undone {last : List Sent} {kept : Option Link}
    (hlast : ∀ e ∈ last, e.Harmless)
    (hclosed : kept = none ∨ ∀ before, isOpen before last = false) : Ended false last kept

/-- **A transaction that was kept takes effect as a whole or not at all.** -/
theorem Ended.allOrNothing {ok : Bool} {last : List Sent} {kept : Option Link}
    (h : Ended ok last kept) {before middle : List Sent} {first : Sent}
    (hbefore : ∀ e ∈ before, e.statement.Aside) (hfirst : first.statement = .simple "BEGIN")
    (hreply : first.reply.failure? = none) (hmiddle : ∀ e ∈ middle, e.statement.isMark = false) :
    AllOrNothing ok (before ++ first :: (middle ++ last)) kept := by
  have hopen : isOpen false before = false :=
    isOpen_of_unmarked fun e he => (hbefore e he).not_mark
  have hquiet : DataWithin false before :=
    dataWithin_of_no_data fun e he => (hbefore e he).not_data
  have hwithin : DataWithin true middle := dataWithin_of_unmarked hmiddle
  have hstill : isOpen true middle = true := isOpen_of_unmarked hmiddle
  have hnone : ∀ e ∈ before ++ first :: middle, ¬ e.Commits := by
    intro e he
    rcases List.mem_append.1 he with he | he
    · exact Sent.not_commits_of_unmarked (hbefore e he).not_mark
    · rcases List.mem_cons.1 he with rfl | he
      · rintro ⟨hstatement, -⟩
        rw [hfirst] at hstatement
        simp at hstatement
      · exact Sent.not_commits_of_unmarked (hmiddle e he)
  have hdata : first.statement.isData = true → false = true := by
    intro hdata
    rw [hfirst] at hdata
    cases hdata
  cases h with
  | @committed waited e kept hwaited he =>
    refine ⟨?_, ?_, fun hok => absurd hok.symm Bool.false_ne_true⟩
    · have hcommit : e.statement.isData = false := by rw [he.1]; rfl
      have hwait : isOpen true waited = true :=
        isOpen_of_unmarked fun f hf => (hwaited f hf).not_mark
      simp only [dataWithin_append, hopen, DataWithin, Sent.opens_of_begin hfirst hreply, hstill,
        hwait, hcommit]
      exact ⟨hquiet, hdata, hwithin,
        dataWithin_of_unmarked fun f hf => (hwaited f hf).not_mark,
        fun hdata => absurd hdata Bool.false_ne_true, trivial⟩
    · -- the commit is the last statement of all
      intro _ _
      refine ⟨before ++ first :: (middle ++ waited), e, [], by simp, he, ?_, List.forall_mem_nil _⟩
      intro f hf
      rw [← List.cons_append, ← List.append_assoc] at hf
      rcases List.mem_append.1 hf with hf | hf
      · exact hnone f hf
      · exact Sent.not_commits_of_unmarked (hwaited f hf).not_mark
  | undone hlast hclosed =>
    refine ⟨?_, fun hok => absurd hok Bool.false_ne_true, fun _ => ⟨?_, ?_⟩⟩
    · simp only [dataWithin_append, hopen, DataWithin, Sent.opens_of_begin hfirst hreply, hstill]
      exact ⟨hquiet, hdata, hwithin, dataWithin_of_no_data fun e he => (hlast e he).not_data⟩
    · intro e he
      rw [← List.cons_append, ← List.append_assoc] at he
      rcases List.mem_append.1 he with he | he
      · exact hnone e he
      · exact (hlast e he).not_commits
    · rcases hclosed with hclosed | hclosed
      · exact .inr hclosed
      · left
        rw [← List.cons_append, ← List.append_assoc, isOpen_append]
        exact hclosed _

/-! ### Framed work -/

variable [Server σ]

/-- How framed work ends after its statements. -/
def conclude (ending : Ending) :
    Except StoreError α × Channel σ → Except StoreError α × Channel σ
  | (.error e, c) => (.error e, c.abandon)
  | (.ok a, c) =>
    match c.finish ending with
    | (none, c) => (.ok a, c)
    | (some failure, c) => (.error failure.classify, c.abandon)

theorem perform_tenant (w : Work α) (id : String) (user : Option String) (ending : Ending)
    (c : Channel σ) :
    c.perform w (.tenant id user ending) = match c.enter with
      | (some failure, c) => (.error failure.classify, c)
      | (none, c) => conclude ending (w.run (c.setContext id user)) := by
  rw [perform]
  rcases c.enter with ⟨failure | failure, opened⟩
  · dsimp only
    rcases w.run (opened.setContext id user) with ⟨e | a, worked⟩ <;> rfl
  · rfl

theorem conclude_grows {P : Statement → Prop} (hcontrol : ∀ sql, P (.simple sql)) (ending : Ending)
    (done : Except StoreError α × Channel σ) :
    done.2.wire.Grows P (conclude ending done).2.wire := by
  obtain ⟨e | a, c⟩ := done
  · exact .refl _
  · have hfinish := finish_grows hcontrol ending c
    rw [conclude]
    generalize c.finish ending = finished at *
    obtain ⟨failure | failure, c'⟩ := finished
    · exact hfinish
    · exact hfinish

/-- From a transaction that was kept, work ends as it should, whatever its answer. -/
theorem Prepared.ended {c : Channel σ} (h : c.Prepared) (answer : Except StoreError α)
    (p : Pool σ) :
    ∃ last, (p.release (conclude .commit (answer, c)).2).wire.log = c.wire.log ++ last ∧
      (∀ e ∈ last, e.statement ≠ .simple (Link.beginText 1)) ∧
        Ended (conclude .commit (answer, c)).1.isOk last
          (p.release (conclude .commit (answer, c)).2).idle := by
  cases answer with
  | error e =>
    obtain ⟨last, hlog, hlast, hclosed⟩ := Pool.release_abandoned h p
    have hharmless : ∀ f ∈ last, f.Harmless := by
      intro f hf
      rcases hlast f hf with h | h
      · exact h.harmless
      · exact Sent.harmless_rollback h
    exact ⟨last, hlog, fun f hf => (hharmless f hf).not_savepoint, .undone hharmless hclosed⟩
  | ok a =>
    have hcommit := h.afterCommit
    simp only [conclude, finish]
    generalize c.commit = finished at *
    cases hcommit with
    | committed r hreply hwait hlog =>
      obtain ⟨waited, hlog', hwaited⟩ := hwait
      refine ⟨waited ++ [⟨.simple "COMMIT", r⟩], ?_, ?_, .committed hwaited ⟨rfl, hreply⟩⟩
      · rw [← List.append_assoc, ← hlog', ← hlog]
        rfl
      · intro f hf
        rcases List.mem_append.1 hf with hf | hf
        · exact (hwaited f hf).not_savepoint
        · rw [List.mem_singleton.1 hf]
          exact Statement.ne_savepoint_of_mark rfl
    | failed f hsent hprepared =>
      obtain ⟨tried, hlog, htried⟩ := hsent
      obtain ⟨last, hlog', hlast, hclosed⟩ := Pool.release_abandoned hprepared p
      have hharmless : ∀ e ∈ tried ++ last, e.Harmless := by
        intro e he
        rcases List.mem_append.1 he with he | he
        · rcases htried e he with h | ⟨hcommit, hfailed⟩
          · exact h.harmless
          · exact Sent.harmless_commit hcommit hfailed
        · rcases hlast e he with h | h
          · exact h.harmless
          · exact Sent.harmless_rollback h
      refine ⟨tried ++ last, ?_, fun e he => (hharmless e he).not_savepoint, .undone hharmless ?_⟩
      · rw [← List.append_assoc, ← hlog]
        exact hlog'
      · rcases hclosed with hclosed | hclosed
        · exact .inl hclosed
        · right
          intro before
          rw [isOpen_append]
          exact hclosed _

/-- Where no level is open, nothing is left to end. -/
theorem conclude_of_no_level {c : Channel σ} (h : c.link.depth = 0) (ending : Ending)
    (answer : Except StoreError α) : conclude ending (answer, c) = (answer, c) := by
  obtain ⟨w, depth, queue, alive⟩ := c
  cases h
  cases answer with
  | error e => rfl
  | ok a => cases ending <;> rfl

end Channel

/-! ### Giving back what was not kept -/

variable [Server σ]

/-- A broken connection is closed, and nothing more is sent. -/
theorem Pool.release_of_broken {c : Channel σ} (h : c.link.alive = false) (p : Pool σ) :
    (p.release c).wire = c.wire ∧ (p.release c).idle = none := by
  obtain ⟨w, depth, queue, alive⟩ := c
  have hflush := Channel.flush_of_broken h
  rw [release]
  generalize Channel.flush ⟨w, depth, queue, alive⟩ = flushed at *
  obtain ⟨failure, c'⟩ := flushed
  cases hflush
  simp

/-- Work that starts with a statement and ends when that fails. -/
inductive Work.Begins : Work α → Prop where
  | step {s : Statement} {next : Except Failure Reply → Work α}
    (hfail : ∀ f, ∃ e, next (.error f) = .fail e) : Begins (.step s next)

namespace Work.Begins

theorem bind {w : Work α} (h : w.Begins) (f : α → Work β) : (w >>= f).Begins := by
  cases h with
  | step hfail =>
    refine .step ?_
    intro failure
    obtain ⟨e, he⟩ := hfail failure
    exact ⟨e, by rw [he]; rfl⟩

theorem send (s : Statement) : (Work.send s).Begins := .step fun f => ⟨f.classify, rfl⟩

theorem affected (s : Statement) : (Work.affected s).Begins := (send s).bind _

theorem scalar [Cell α] (s : Statement) : (Work.scalar s : Work α).Begins :=
  ((((send s).bind _).bind _).bind _).bind _

theorem scalar? [Cell α] (s : Statement) : (Work.scalar? s : Work (Option α)).Begins :=
  (((send s).bind _).bind _).bind _

end Work.Begins

/-- Work that goes on after its transaction was taken for lost.  The roll-back that waits is sent
ahead of the first data statement, which then stands outside; or else it fails, and the work with
it, and the connection is kept with its transaction still open. -/
theorem Work.Begins.stray {w : Work α} (h : w.Begins) (hw : w.Sends fun s => s.isData = true)
    (wire : Wire σ) (p : Pool σ) :
    ∃ r tail,
      (p.release (w.run ⟨wire, 0, ["ROLLBACK"], true⟩).2).wire.log =
        wire.log ++ ⟨.simple "ROLLBACK", r⟩ :: tail ∧
      ((r.failure? = none ∧ ∃ e rest, tail = e :: rest ∧ e.statement.isData = true) ∨
        (r.failure? ≠ none ∧ tail = [] ∧ (w.run ⟨wire, 0, ["ROLLBACK"], true⟩).1.isOk = false ∧
          (r.isLost = false →
            (p.release (w.run ⟨wire, 0, ["ROLLBACK"], true⟩).2).idle ≠ none))) := by
  cases h with
  | @step s next hfail =>
    cases hw with
    | step hdata hnext =>
      obtain ⟨r, w₁, hsend, hlog⟩ :=
        Channel.send_of_alive (c := (⟨wire, 0, [], true⟩ : Channel σ)) rfl (.simple "ROLLBACK")
      cases hreply : r.failure? with
      | some f =>
        obtain ⟨e, he⟩ := hfail f
        have hrun : (Work.step s next).run ⟨wire, 0, ["ROLLBACK"], true⟩ =
            (.error e, (⟨w₁, 0, [], !r.isLost⟩ : Channel σ)) := by
          simp only [run, Channel.execute, Channel.flush, Channel.sendAll, hsend, hreply,
            Option.some_or, he]
        -- the roll-back fails, so the statement is not sent
        rw [hrun]
        refine ⟨r, [], ?_, .inr ⟨by simp [hreply], rfl, rfl, ?_⟩⟩
        · rw [Pool.release_of_queue_nil rfl, hlog]
        · intro hlost
          rw [Pool.release_of_queue_nil rfl]
          simp [hlost]
      | none =>
        obtain ⟨r', w₂, hsend', hlog'⟩ :=
          Channel.send_of_alive (c := (⟨w₁, 0, [], true⟩ : Channel σ)) rfl s
        have hrun : (Work.step s next).run ⟨wire, 0, ["ROLLBACK"], true⟩ =
            (next (r'.failure?.elim (.ok r') .error)).run
              (⟨w₂, 0, [], !r'.isLost⟩ : Channel σ) := by
          simp only [run, Channel.execute, Channel.flush, Channel.sendAll, hsend, hreply,
            Option.or_none, Reply.isLost_of_failure? hreply, Bool.not_false, hsend']
        -- the roll-back succeeds, and the statement follows it
        rw [hrun]
        generalize next (r'.failure?.elim (.ok r') .error) = rest
        have hgrows := rest.sends_any.grows (⟨w₂, 0, [], !r'.isLost⟩ : Channel σ)
          (List.forall_mem_nil _)
        obtain ⟨more, hmore, -⟩ :=
          hgrows.trans (Pool.release_grows (P := fun _ => True) (fun _ => trivial) _ p)
        refine ⟨r, ⟨s, r'⟩ :: more, ?_, .inl ⟨hreply, _, _, rfl, hdata⟩⟩
        rw [hmore, hlog', hlog, List.append_assoc, List.append_assoc]
        rfl

/-- Without data and without a commit there is nothing to undo but the transaction itself. -/
theorem AllOrNothing.of_no_data {ok : Bool} {sent : List Sent} {kept : Option Link}
    (h : ∀ e ∈ sent, e.statement.isData = false ∧ ¬ e.Commits)
    (hclosed : isOpen false sent = false ∨ kept = none) : AllOrNothing ok sent kept := by
  refine ⟨dataWithin_of_no_data fun e he => (h e he).1, ?_,
    fun _ => ⟨fun e he => (h e he).2, hclosed⟩⟩
  rintro _ ⟨e, he, hdata⟩
  rw [(h e he).1] at hdata
  cases hdata

/-- What framed work that commits at the end can come to: all or nothing, or a savepoint refused. -/
def Pool.Outcome (w : Work α) (p : Pool σ) (result : Except StoreError α × Pool σ) : Prop :=
  ∃ sent, result.2.wire.log = p.wire.log ++ sent ∧
    ((∀ e ∈ sent, ¬ e.RefusesSavepoint) ∧ AllOrNothing result.1.isOk sent result.2.idle ∨
      (∃ e ∈ sent, e.RefusesSavepoint) ∧
        (w.Begins → (∀ e ∈ sent, e.reply.isLost = false) →
          ¬ AllOrNothing result.1.isOk sent result.2.idle))

section Frame

variable {p p' : Pool σ} {w₀ w₁ : Wire σ} {before : List Sent} {first : Sent} {w : Work α}
  (hlog₀ : w₀.log = p.wire.log ++ before) (hbefore : ∀ e ∈ before, e.statement.Aside)
  (hlog₁ : w₁.log = w₀.log ++ [first]) (hfirst : first.statement = .simple "BEGIN")

include hlog₀ hbefore hlog₁ hfirst

/-- The transaction is not opened. -/
theorem Pool.outcome_of_begin_failed (hreply : first.reply.failure? ≠ none) (alive : Bool)
    (e : StoreError) : p.Outcome w (.error e, p'.release ⟨w₁, 0, [], alive⟩) := by
  have hlast : first.Harmless := by
    refine ⟨by rw [hfirst]; rfl, fun h => hreply h.2, ?_⟩
    exact Statement.ne_savepoint_of_mark (by rw [hfirst]; rfl)
  have hharmless : ∀ f ∈ before ++ [first], f.Harmless := by
    intro f hf
    rcases List.mem_append.1 hf with hf | hf
    · exact (hbefore f hf).harmless
    · exact List.mem_singleton.1 hf ▸ hlast
  have hclosed : isOpen false (before ++ [first]) = false := by
    rw [isOpen_append, isOpen_of_unmarked fun f hf => (hbefore f hf).not_mark, isOpen_cons,
      isOpen_nil, Sent.opens, if_pos]
    simp [Option.isSome_iff_ne_none, hreply]
  refine ⟨before ++ [first], ?_, .inl ⟨fun f hf h => (hharmless f hf).not_savepoint h.1, ?_⟩⟩
  · rw [Pool.release_of_queue_nil rfl, ← List.append_assoc, ← hlog₀, ← hlog₁]
  · exact .of_no_data (fun f hf => ⟨(hharmless f hf).not_data, (hharmless f hf).not_commits⟩)
      (.inl hclosed)

variable (hreply : first.reply.failure? = none)

include hreply

/-- The transaction is opened, and kept while the context is set. -/
theorem Pool.outcome_of_kept (hw : w.Sends fun s => s.isData = true) {w₂ : Wire σ} {c : Channel σ}
    {r : Reply} (hr : r.failure? = none)
    (hlog : w₂.log = w₁.log ++ [⟨.simple (Link.beginText 1), r⟩])
    (hrest : w₂.Grows Statement.Aside c.wire) (hprepared : c.Prepared) :
    p.Outcome w ((Channel.conclude .commit (w.run c)).1,
      p'.release (Channel.conclude .commit (w.run c)).2) := by
  have hrun := (hw.mono fun s hs => Or.inr hs).grows (P := fun s => s.Aside ∨ s.isData = true) c
    fun sql hsql => .inl (hprepared.aside sql hsql)
  have hworked := hprepared.run w
  generalize w.run c = worked at *
  obtain ⟨answer, c'⟩ := worked
  obtain ⟨set, hset, haside⟩ := hrest
  obtain ⟨done, hdone, hmiddle⟩ := hrun
  obtain ⟨last, hlast, hnot, hended⟩ := hworked.ended answer p'
  have hopened : ∀ e ∈ (⟨.simple (Link.beginText 1), r⟩ : Sent) :: (set ++ done),
      e.statement.isMark = false ∧ ¬ e.RefusesSavepoint := by
    intro e he
    rcases List.mem_cons.1 he with rfl | he
    · refine ⟨Statement.not_mark_savepoint, ?_⟩
      rintro ⟨-, code, message, hrefused⟩
      rw [show r = .error code message from hrefused] at hr
      cases hr
    · rcases List.mem_append.1 he with he | he
      · exact ⟨(haside e he).not_mark, fun h => (haside e he).not_savepoint h.1⟩
      · rcases hmiddle e he with h | h
        · exact ⟨h.not_mark, fun hrefused => h.not_savepoint hrefused.1⟩
        · refine ⟨Statement.not_mark_of_data h, ?_⟩
          intro hrefused
          rw [hrefused.1] at h
          cases h
  -- the search path, the start, the context and the work, and the end of the transaction
  refine ⟨before ++ first :: ((⟨.simple (Link.beginText 1), r⟩ :: (set ++ done)) ++ last), ?_,
    .inl ⟨?_, hended.allOrNothing hbefore hfirst hreply fun e he => (hopened e he).1⟩⟩
  · simp only at hdone hlast ⊢
    rw [hlast, hdone, hset, hlog, hlog₁, hlog₀]
    simp
  · intro e he
    rcases List.mem_append.1 he with he | he
    · exact fun h => (hbefore e he).not_savepoint h.1
    · rcases List.mem_cons.1 he with rfl | he
      · exact fun h => Statement.ne_savepoint_of_mark (by rw [hfirst]; rfl) h.1
      · rcases List.mem_append.1 he with he | he
        · exact (hopened e he).2
        · exact fun h => hnot e he h.1

/-- The savepoint of the context is refused.  The driver takes the transaction for lost, though it
is still open, and the work goes on. -/
theorem Pool.outcome_of_refused (hw : w.Sends fun s => s.isData = true) {w₂ : Wire σ}
    {code message : String}
    (hlog : w₂.log = w₁.log ++ [⟨.simple (Link.beginText 1), .error code message⟩]) :
    p.Outcome w ((w.run ⟨w₂, 0, ["ROLLBACK"], true⟩).1,
      p'.release (w.run ⟨w₂, 0, ["ROLLBACK"], true⟩).2) := by
  obtain ⟨lead, hlead⟩ :
      ∃ lead, lead = before ++ [first, ⟨.simple (Link.beginText 1), .error code message⟩] :=
    ⟨_, rfl⟩
  have hlog₂ : w₂.log = p.wire.log ++ lead := by
    rw [hlog, hlog₁, hlog₀, hlead]
    simp
  have hopen : isOpen false lead = true := by
    rw [hlead, isOpen_append, isOpen_of_unmarked fun e he => (hbefore e he).not_mark, isOpen_cons,
      Sent.opens_of_begin hfirst hreply]
    rfl
  have hrefused : ⟨.simple (Link.beginText 1), .error code message⟩ ∈ lead := by simp [hlead]
  have hgrows := w.sends_any.grows (⟨w₂, 0, ["ROLLBACK"], true⟩ : Channel σ) fun _ _ => trivial
  obtain ⟨tail, htail, -⟩ :=
    hgrows.trans (Pool.release_grows (P := fun _ => True) (fun _ => trivial) _ p')
  refine ⟨lead ++ tail, ?_, .inr ⟨?_, ?_⟩⟩
  · rw [← List.append_assoc, ← hlog₂]
    exact htail
  · exact ⟨_, List.mem_append_left _ hrefused, rfl, code, message, rfl⟩
  · intro hbegins hkept hall
    obtain ⟨r, rest, hlog, hstray⟩ := hbegins.stray hw w₂ p'
    cases List.append_cancel_left (htail.symm.trans hlog)
    rcases hstray with ⟨hr, e, rest, rfl, hdata⟩ | ⟨hr, rfl, hok, hidle⟩
    · -- a data statement stands behind the roll-back
      have hwithin := hall.within
      rw [dataWithin_append, hopen] at hwithin
      have houtside := hwithin.2.2.1 hdata
      rw [Sent.opens, hr] at houtside
      cases houtside
    · -- the connection is kept with its transaction open
      rcases (hall.undone hok).2 with hclosed | hclosed
      · rw [isOpen_append, hopen, isOpen_cons, isOpen_nil, Sent.opens, if_pos] at hclosed
        · cases hclosed
        · simp [Option.isSome_iff_ne_none, hr]
      · exact hidle (hkept ⟨.simple "ROLLBACK", r⟩ (by simp)) hclosed

omit hreply in
/-- The connection breaks at the savepoint of the context. -/
theorem Pool.outcome_of_broken {w₂ : Wire σ}
    (hlog : w₂.log = w₁.log ++ [⟨.simple (Link.beginText 1), .lost⟩]) :
    p.Outcome w ((w.run ⟨w₂, 0, ["ROLLBACK"], false⟩).1,
      p'.release (w.run ⟨w₂, 0, ["ROLLBACK"], false⟩).2) := by
  have hentry : ∀ e ∈ before ++ [first, ⟨.simple (Link.beginText 1), .lost⟩],
      e.statement.isData = false ∧ ¬ e.Commits ∧ ¬ e.RefusesSavepoint := by
    intro e he
    rcases List.mem_append.1 he with he | he
    · have hharmless := (hbefore e he).harmless
      exact ⟨hharmless.not_data, hharmless.not_commits, fun h => hharmless.not_savepoint h.1⟩
    · rcases List.mem_cons.1 he with rfl | he
      · refine ⟨by rw [hfirst]; rfl, ?_, ?_⟩
        · intro h
          have heq := hfirst.symm.trans h.1
          simp at heq
        · intro h
          exact Statement.ne_savepoint_of_mark (by rw [hfirst]; rfl) h.1
      · rw [List.mem_singleton.1 he]
        refine ⟨rfl, Sent.not_commits_of_unmarked Statement.not_mark_savepoint, ?_⟩
        rintro ⟨-, code, message, hreply⟩
        cases hreply
  obtain ⟨hwire, halive⟩ :=
    Work.run_of_broken (w := w) (c := (⟨w₂, 0, ["ROLLBACK"], false⟩ : Channel σ)) rfl
  obtain ⟨hsame, hidle⟩ := Pool.release_of_broken halive p'
  refine ⟨_, ?_, .inl ⟨fun e he => (hentry e he).2.2, .of_no_data ?_ (.inr hidle)⟩⟩
  · rw [hsame, hwire, hlog, hlog₁, hlog₀]
    simp
  · intro e he
    exact ⟨(hentry e he).1, (hentry e he).2.1⟩

end Frame

/-- **Framed work takes effect as a whole or not at all**, exactly if the savepoint of its context
is not refused. -/
theorem Pool.outcome {p : Pool σ} (h : p.AtRest) {w : Work α}
    (hw : w.Sends fun s => s.isData = true) (id : String) (user : Option String) :
    p.Outcome w (p.perform (.tenant id user .commit) w) := by
  have hacquired := h.acquired (Statement.aside_searchPath p.schema)
  rw [Pool.perform]
  generalize p.acquire = acquired at *
  cases hacquired with
  | refused f hsent hidle =>
    obtain ⟨sent, hlog, hsent⟩ := hsent
    refine ⟨sent, hlog, .inl ⟨fun e he hrefuses => (hsent e he).not_savepoint hrefuses.1, ?_⟩⟩
    refine .of_no_data ?_ (.inl (isOpen_of_unmarked fun e he => (hsent e he).not_mark))
    intro e he
    exact ⟨(hsent e he).harmless.not_data, (hsent e he).harmless.not_commits⟩
  | @given w₀ p' hsent =>
    obtain ⟨before, hlog₀, hbefore⟩ := hsent
    obtain ⟨r, w₁, hlog₁, ⟨hreply, henter⟩ | ⟨f, hreply, henter⟩⟩ :=
      Channel.enter_cases (c := (⟨w₀, .fresh⟩ : Channel σ)) rfl rfl
    · change _ = (none, (⟨w₁, 1, [], true⟩ : Channel σ)) at henter
      simp only [Channel.perform_tenant, henter]
      have hcontext := Channel.afterContext (c := (⟨w₁, 1, [], true⟩ : Channel σ)) rfl id user
      generalize Channel.setContext id user (⟨w₁, 1, [], true⟩ : Channel σ) = c at *
      cases hcontext with
      | kept r' hr hlog hrest hprepared =>
        exact outcome_of_kept hlog₀ hbefore hlog₁ rfl hreply hw hr hlog hrest hprepared
      | @lost w₂ r' f hr hlog =>
        rw [Channel.conclude_of_no_level (w.depth_run _)]
        cases r' with
        | done n => cases hr
        | rows rows => cases hr
        | error code message => exact outcome_of_refused hlog₀ hbefore hlog₁ rfl hreply hw hlog
        | lost => exact outcome_of_broken hlog₀ hbefore hlog₁ rfl hlog
    · change _ = (some f, (⟨w₁, 0, [], !r.isLost⟩ : Channel σ)) at henter
      simp only [Channel.perform_tenant, henter]
      exact outcome_of_begin_failed hlog₀ hbefore hlog₁ rfl (by simp [hreply]) _ _

end KnowledgeBase
