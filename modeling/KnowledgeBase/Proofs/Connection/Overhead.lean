import KnowledgeBase.Proofs.Connection.Attempts

/-!
# Statements that a connection sends for its own sake

Not everything on the record was asked for by a program.  A connection is opened with a statement,
the context of a tenant is set in a level of its own, and roll-backs of abandoned levels are sent
when the connection is next used.  Everything else on the record is there because it was handed
over, with the reply that came back.

## Main definitions

* `Sql.Statement.Overhead` — the statements of the connection itself.
* `Attempt.Covers` — an entry of overhead, or one that an attempt was sent for.

## Main results

* `Operation.covers` — whatever is sent in an operation is handed over by it, or is overhead.
-/

namespace KnowledgeBase

open Sql

/-- The statements that a connection sends for its own sake: one that opens it, those that set the
context of a tenant in a level of their own, and roll-backs that waited. -/
inductive Sql.Statement.Overhead : Statement → Prop where
  | searchPath (schema : String) : Overhead (.simple (Schema.searchPath schema))
  | context (tenant : String) (user : Option String) : Overhead (contextStatement tenant user)
  | savepoint (depth : Nat) : Overhead (.simple (Link.beginText (depth + 1)))
  | release (depth : Nat) : Overhead (.simple (Link.commitText (depth + 1)))
  | rollback (depth : Nat) : Overhead (.simple (Link.rollbackText depth))

/-- Nothing waits on a connection but roll-backs. -/
def Link.Waits (l : Link) : Prop := ∀ sql ∈ l.queue, ∃ depth, sql = Link.rollbackText depth

variable {σ α : Type}

theorem Link.Waits.of_nil {l : Link} (h : l.queue = []) : l.Waits := by
  rw [Waits, h]
  exact nofun

theorem Link.Waits.abandon {l : Link} (h : l.Waits) : l.abandon.Waits := by
  obtain ⟨depth, queue, alive⟩ := l
  cases depth with
  | zero => exact h
  | succ depth =>
    intro sql hsql
    rcases List.mem_append.1 hsql with hsql | hsql
    · exact h sql hsql
    · exact ⟨depth, List.mem_singleton.1 hsql⟩

/-- An entry of overhead, or one that an attempt was sent for. -/
def Attempt.Covers (tried : List Attempt) (e : Sent) : Prop :=
  e.statement.Overhead ∨ e.attempt ∈ tried

theorem Attempt.Covers.mono {tried tried' : List Attempt} (h : tried ⊆ tried') {e : Sent}
    (he : Covers tried e) : Covers tried' e := he.imp_right fun hmem => h hmem

/-- Entries for attempts of overhead are overhead. -/
theorem Attempt.Covers.overhead {tried : List Attempt} {e : Sent} (he : Covers tried e)
    (h : ∀ a ∈ tried, a.statement.Overhead) : e.statement.Overhead :=
  he.elim id fun hmem => h _ hmem

theorem Link.Waits.overhead {l : Link} (h : l.Waits) :
    ∀ sql ∈ l.queue, (Statement.simple sql).Overhead := by
  intro sql hsql
  obtain ⟨depth, rfl⟩ := h sql hsql
  exact .rollback depth

/-- Abandoning a level leaves a roll-back waiting. -/
theorem Channel.settle_adds {R : Sent → Prop} {w : Wire σ} {x : Option Failure × Channel σ}
    (hadds : w.Adds R x.2.wire) (hwaits : x.2.link.Waits) :
    w.Adds R (settle x).wire ∧ (settle x).link.Waits := by
  obtain ⟨failure | failure, c⟩ := x
  · exact ⟨hadds, hwaits⟩
  · exact ⟨hadds, hwaits.abandon⟩

variable [Server σ]

namespace Channel

/-- A statement handed over adds overhead, and an entry for itself if it is sent. -/
theorem execute_adds {c : Channel σ} (h : c.link.Waits) (s : Statement) :
    c.wire.Adds (Attempt.Covers [⟨s, (c.execute s).1⟩]) (c.execute s).2.wire := by
  have hexecuted := executed h.overhead s
  have hone {w w' : Wire σ} {r : Reply} (hlog : w'.log = w.log ++ [⟨s, r⟩]) :
      w.Adds (Attempt.Covers [⟨s, r.outcome⟩]) w' :=
    ⟨[⟨s, r⟩], hlog, List.forall_mem_singleton.2 (.inr (List.mem_singleton_self _))⟩
  generalize c.execute s = answer at *
  cases hexecuted with
  | unsent f alive hwait _ => exact hwait.mono fun _ => .inl
  | refused r f hwait hlog hreply =>
    have hsent := hone hlog
    rw [Reply.outcome, hreply] at hsent
    exact (hwait.mono fun _ => .inl).trans hsent
  | answered r hwait hlog hreply =>
    have hsent := hone hlog
    rw [Reply.outcome_of_failure? hreply] at hsent
    exact (hwait.mono fun _ => .inl).trans hsent

/-- Opening a level adds overhead, and an entry for the statement that opens it. -/
theorem enter_adds {c : Channel σ} (h : c.link.Waits) :
    c.wire.Adds (Attempt.Covers [c.opening]) c.enter.2.wire ∧ c.enter.2.link.Waits := by
  have hadds := execute_adds h (.simple (Link.beginText c.link.depth))
  have hqueue := queue_execute (.simple (Link.beginText c.link.depth)) c
  rw [enter, opening]
  generalize c.execute (.simple (Link.beginText c.link.depth)) = answer at *
  obtain ⟨failure | reply, after⟩ := answer
  · exact ⟨hadds, (Link.Waits.of_nil hqueue).abandon⟩
  · exact ⟨hadds, .of_nil hqueue⟩

/-- Leaving a level adds overhead, and an entry for the statement that leaves it. -/
theorem leave_adds (text : Nat → String) {c : Channel σ} (h : c.link.Waits) :
    c.wire.Adds (Attempt.Covers (c.leaving text)) (c.leave text).2.wire ∧
      (c.leave text).2.link.Waits := by
  rw [leave, leaving]
  cases c.link.depth with
  | zero => exact ⟨.refl _, h⟩
  | succ depth =>
    have hadds := execute_adds h (.simple (text depth))
    have hqueue := queue_execute (.simple (text depth)) c
    simp only
    generalize c.execute (.simple (text depth)) = answer at *
    obtain ⟨failure | reply, after⟩ := answer
    · exact ⟨hadds, .of_nil hqueue⟩
    · exact ⟨hadds, .of_nil hqueue⟩

theorem finish_adds {c : Channel σ} (h : c.link.Waits) (ending : Ending) :
    c.wire.Adds (Attempt.Covers (c.ending ending)) (c.finish ending).2.wire ∧
      (c.finish ending).2.link.Waits := by
  cases ending with
  | commit => exact leave_adds _ h
  | rollback => exact leave_adds _ h
  | abandon => exact ⟨.refl _, h.abandon⟩

/-- Setting the context of a tenant adds nothing but overhead. -/
theorem setContext_adds {c : Channel σ} (hdepth : c.link.depth = 1) (h : c.link.Waits)
    (tenant : String) (user : Option String) :
    c.wire.Grows Statement.Overhead (c.setContext tenant user).wire ∧
      (c.setContext tenant user).link.Waits := by
  obtain ⟨henter, hwaits⟩ := enter_adds h
  have hsavepoint := henter.mono fun e he =>
    he.overhead (List.forall_mem_singleton.2 (by rw [opening, hdepth]; exact .savepoint 0))
  have hopened := depth_enter c
  rw [setContext]
  generalize c.enter = entered at *
  obtain ⟨failure | failure, opened⟩ := entered
  · -- the level of the context is the second, so what leaves it is not the end of the transaction
    have htwo : opened.link.depth = 2 := by simpa [hdepth] using hopened
    have hset := (execute_adds hwaits (contextStatement tenant user)).mono fun e he =>
      he.overhead (List.forall_mem_singleton.2 (.context tenant user))
    have hqueue := queue_execute (contextStatement tenant user) opened
    have hsame := depth_execute (contextStatement tenant user) opened
    simp only at hsavepoint ⊢
    generalize opened.execute (contextStatement tenant user) = answer at *
    have hleave (text : Nat → String) (htext : (Statement.simple (text 1)).Overhead) :
        opened.wire.Grows Statement.Overhead (settle (answer.2.leave text)).wire ∧
          (settle (answer.2.leave text)).link.Waits := by
      obtain ⟨hadds, hwaits⟩ := leave_adds text (Link.Waits.of_nil hqueue)
      refine settle_adds (hset.trans (hadds.mono fun e he => he.overhead ?_)) hwaits
      rw [leaving, hsame, htwo]
      exact List.forall_mem_singleton.2 htext
    obtain ⟨failure | reply, after⟩ := answer
    · exact (hleave _ (.rollback 1)).imp_left hsavepoint.trans
    · exact (hleave _ (.release 0)).imp_left hsavepoint.trans
  · exact ⟨hsavepoint, hwaits⟩

end Channel

/-- A program adds overhead, and entries for its attempts. -/
theorem Work.run_adds (w : Work α) {c : Channel σ} (h : c.link.Waits) :
    c.wire.Adds (Attempt.Covers (w.attempts c)) (w.run c).2.wire ∧ (w.run c).2.link.Waits := by
  induction w generalizing c with
  | done a => exact ⟨.refl _, h⟩
  | fail e => exact ⟨.refl _, h⟩
  | step s next ih =>
    have hfirst := Channel.execute_adds h s
    obtain ⟨hrest, hwaits⟩ := ih (c.execute s).1 (.of_nil (Channel.queue_execute s c))
    refine ⟨.trans (hfirst.mono fun e he => he.mono ?_) (hrest.mono fun e he => he.mono ?_), hwaits⟩
    · exact List.cons_subset_cons _ (List.nil_subset _)
    · exact List.subset_cons_self _ _

/-- So does framed work on a connection without a transaction. -/
theorem Channel.perform_adds {c : Channel σ} (hdepth : c.link.depth = 0) (h : c.link.Waits)
    (w : Work α) (frame : Frame) :
    c.wire.Adds (Attempt.Covers (c.attempts w frame)) (c.perform w frame).2.wire ∧
      (c.perform w frame).2.link.Waits := by
  cases frame with
  | bare => exact w.run_adds h
  | tenant id user ending =>
    obtain ⟨henter, hwaits⟩ := enter_adds h
    have hopened := depth_enter c
    rw [perform, attempts]
    generalize c.opening = opening at *
    generalize c.enter = entered at *
    obtain ⟨failure | failure, opened⟩ := entered
    · have hone : opened.link.depth = 1 := by simpa [hdepth] using hopened
      obtain ⟨hset, hwaits⟩ := setContext_adds hone hwaits id user
      obtain ⟨hrun, hwaits⟩ := w.run_adds hwaits
      simp only at henter ⊢
      generalize w.attempts (opened.setContext id user) = tried at *
      generalize w.run (opened.setContext id user) = done at *
      -- what the context adds in between is overhead
      have hworked : c.wire.Adds (Attempt.Covers (opening :: tried)) done.2.wire := by
        refine .trans (henter.mono fun e he => he.mono ?_)
          (.trans (hset.mono fun e he => .inl he) (hrun.mono fun e he => he.mono ?_))
        · exact List.cons_subset_cons _ (List.nil_subset _)
        · exact List.subset_cons_self _ _
      obtain ⟨e | a, worked⟩ := done
      · simp only [List.append_nil]
        exact ⟨hworked, hwaits.abandon⟩
      · obtain ⟨hfinish, hwaits⟩ := finish_adds hwaits ending
        have hall : c.wire.Adds (Attempt.Covers (opening :: (tried ++ worked.ending ending)))
            (worked.finish ending).2.wire := by
          refine .trans (hworked.mono fun e he => he.mono ?_) (hfinish.mono fun e he => he.mono ?_)
          · exact List.cons_subset_cons _ (List.subset_append_left _ _)
          · exact List.Subset.trans (List.subset_append_right _ _) (List.subset_cons_self _ _)
        simp only
        generalize worked.finish ending = finished at *
        obtain ⟨failure | failure, last⟩ := finished
        · exact ⟨hall, hwaits⟩
        · exact ⟨hall, hwaits.abandon⟩
    · exact ⟨henter, hwaits⟩

/-- **Whatever is sent in an operation is handed over by it**, or is overhead of its connection. -/
theorem Operation.covers (o : Operation α) {p : Pool σ} (h : p.AtRest) :
    ∀ e ∈ o.sent p, Attempt.Covers (o.attempts p) e := by
  suffices hadds : p.wire.Adds (Attempt.Covers (o.attempts p)) (o.run p).2.wire by
    obtain ⟨sent, hlog, hcovers⟩ := hadds
    rwa [sent_eq hlog]
  induction o generalizing p with
  | done a => exact .refl _
  | fail e => exact .refl _
  | within frame work next ih =>
    have hacquired := h.acquired (P := Statement.Overhead) (.searchPath _)
    have hrest := h.perform frame work
    rw [run, attempts]
    simp only [Pool.perform] at hrest ⊢
    generalize p.acquire = acquired at *
    cases hacquired with
    | refused f hsent _ => exact hsent.mono fun _ => .inl
    | @given w p' hsent =>
      obtain ⟨hframed, hwaits⟩ :=
        Channel.perform_adds (c := ⟨w, .fresh⟩) rfl (.of_nil rfl) work frame
      simp only at hrest ⊢
      generalize Channel.attempts work frame ⟨w, .fresh⟩ = tried at *
      generalize Channel.perform work frame ⟨w, .fresh⟩ = performed at *
      have hrelease := Channel.flush_grows hwaits.overhead
      have hused : p.wire.Adds (Attempt.Covers tried) (p'.release performed.2).wire :=
        .trans (hsent.mono fun _ => .inl) (hframed.trans (hrelease.mono fun _ => .inl))
      obtain ⟨e | b, c⟩ := performed
      · simpa only [List.append_nil] using hused
      · refine .trans (hused.mono fun e he => he.mono (List.subset_append_left _ _))
          ((ih b hrest).mono fun e he => he.mono (List.subset_append_right _ _))

end KnowledgeBase
