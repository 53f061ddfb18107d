import KnowledgeBase.Proofs.Connection.Lifetime

/-!
# The control statements of a pool

Transactions of a pool nest at most twice: a tenant's transaction, and the level in which its
context is set.  So only six texts open, leave or undo a level, and what an operation sends besides
its own statements is one of these texts, the search path of the deployment, or the context of a
frame.

## Main definitions

* `Link.controls` — the six texts.
* `Link.Shallow` — at most two levels are open, and only these texts wait to be sent.

## Main results

* `Channel.perform_shallow` — framed work keeps a connection shallow.
* `Operation.Sends.all_sent` — a predicate of everything that an operation sends.
-/

namespace KnowledgeBase

open Sql

variable {σ α : Type} {P : Statement → Prop} {F : Frame → Prop}

namespace Link

/-- The texts that open, commit or roll back a tenant's transaction and the level of its context. -/
def controls : List String :=
  ["BEGIN", "COMMIT", "ROLLBACK", "SAVEPOINT _sqlx_savepoint_1",
    "RELEASE SAVEPOINT _sqlx_savepoint_1", "ROLLBACK TO SAVEPOINT _sqlx_savepoint_1"]

theorem texts_mem_controls {depth : Nat} (h : depth < 2) :
    beginText depth ∈ controls ∧ commitText depth ∈ controls ∧ rollbackText depth ∈ controls := by
  match depth, h with
  | 0, _ => decide
  | 1, _ => decide

/-- At most two levels are open, and what waits opens, leaves or undoes one of them. -/
structure Shallow (l : Link) : Prop where
  depth : l.depth ≤ 2
  queue : l.queue ⊆ controls

theorem shallow_fresh : fresh.Shallow := ⟨Nat.zero_le _, List.nil_subset _⟩

/-- Nothing waits right after a statement was handed over. -/
theorem Shallow.of_nil {l : Link} (hdepth : l.depth ≤ 2) (hqueue : l.queue = []) : l.Shallow :=
  ⟨hdepth, hqueue ▸ List.nil_subset _⟩

theorem Shallow.abandon {l : Link} (h : l.Shallow) : l.abandon.Shallow := by
  obtain ⟨depth, queue, alive⟩ := l
  cases depth with
  | zero => exact h
  | succ depth =>
    obtain ⟨hdepth, hqueue⟩ := h
    have hrollback := (texts_mem_controls (Nat.lt_of_succ_le hdepth)).2.2
    exact ⟨Nat.le_of_succ_le hdepth,
      List.append_subset.2 ⟨hqueue, List.cons_subset.2 ⟨hrollback, List.nil_subset _⟩⟩⟩

end Link

/-- Abandoning the innermost level after a failure sends nothing. -/
theorem Channel.settle_shallow {w : Wire σ} {x : Option Failure × Channel σ}
    (h : w.Grows P x.2.wire ∧ x.2.link.Shallow) :
    w.Grows P (settle x).wire ∧ (settle x).link.Shallow := by
  obtain ⟨failure | failure, c⟩ := x
  · exact h
  · exact ⟨h.1, h.2.abandon⟩

variable [Server σ]

section Controls

variable (hcontrol : ∀ sql ∈ Link.controls, P (.simple sql))

namespace Channel

include hcontrol

/-- A statement handed over on a shallow connection. -/
theorem execute_shallow {c : Channel σ} (h : c.link.Shallow) {s : Statement} (hs : P s) :
    c.wire.Grows P (c.execute s).2.wire ∧ (c.execute s).2.link.Shallow :=
  ⟨execute_grows (fun sql hsql => hcontrol sql (h.queue hsql)) hs,
    .of_nil ((depth_execute s c).symm ▸ h.depth) (queue_execute s c)⟩

theorem enter_shallow {c : Channel σ} (h : c.link.Shallow) (hdepth : c.link.depth < 2) :
    c.wire.Grows P c.enter.2.wire ∧ c.enter.2.link.Shallow := by
  have hbegin := hcontrol _ (Link.texts_mem_controls hdepth).1
  have hexecute := execute_shallow hcontrol h hbegin
  have hqueue := queue_execute (.simple (Link.beginText c.link.depth)) c
  rw [enter]
  generalize c.execute (.simple (Link.beginText c.link.depth)) = answer at *
  obtain ⟨failure | reply, after⟩ := answer
  · exact ⟨hexecute.1, hexecute.2.abandon⟩
  · exact ⟨hexecute.1, .of_nil hdepth hqueue⟩

theorem leave_shallow {text : Nat → String} (htext : ∀ depth < 2, text depth ∈ Link.controls)
    {c : Channel σ} (h : c.link.Shallow) :
    c.wire.Grows P (c.leave text).2.wire ∧ (c.leave text).2.link.Shallow := by
  have hbound := h.depth
  rw [leave]
  split
  · exact ⟨.refl _, h⟩
  · next depth hdepth =>
    have hlevel : depth < 2 := by omega
    have hexecute := execute_shallow hcontrol h (hcontrol _ (htext depth hlevel))
    have hqueue := queue_execute (.simple (text depth)) c
    generalize c.execute (.simple (text depth)) = answer at *
    obtain ⟨failure | reply, after⟩ := answer
    · exact hexecute
    · exact ⟨hexecute.1, .of_nil (Nat.le_of_lt hlevel) hqueue⟩

theorem commit_shallow {c : Channel σ} (h : c.link.Shallow) :
    c.wire.Grows P c.commit.2.wire ∧ c.commit.2.link.Shallow :=
  leave_shallow hcontrol (fun _ hdepth => (Link.texts_mem_controls hdepth).2.1) h

theorem rollback_shallow {c : Channel σ} (h : c.link.Shallow) :
    c.wire.Grows P c.rollback.2.wire ∧ c.rollback.2.link.Shallow :=
  leave_shallow hcontrol (fun _ hdepth => (Link.texts_mem_controls hdepth).2.2) h

theorem setContext_shallow {tenant : String} {user : Option String}
    (hcontext : P (contextStatement tenant user)) {c : Channel σ} (h : c.link.Shallow)
    (hdepth : c.link.depth < 2) :
    c.wire.Grows P (c.setContext tenant user).wire ∧ (c.setContext tenant user).link.Shallow := by
  obtain ⟨henter, hopened⟩ := enter_shallow hcontrol h hdepth
  rw [setContext]
  generalize c.enter = entered at *
  obtain ⟨failure | failure, opened⟩ := entered
  · obtain ⟨hset, hafter⟩ := execute_shallow hcontrol hopened hcontext
    simp only at henter ⊢
    generalize opened.execute (contextStatement tenant user) = answer at *
    obtain ⟨failure | reply, after⟩ := answer
    · obtain ⟨hrollback, hleft⟩ := rollback_shallow hcontrol hafter
      exact settle_shallow ⟨henter.trans (hset.trans hrollback), hleft⟩
    · obtain ⟨hcommit, hleft⟩ := commit_shallow hcontrol hafter
      exact settle_shallow ⟨henter.trans (hset.trans hcommit), hleft⟩
  · exact ⟨henter, hopened⟩

theorem finish_shallow (ending : Ending) {c : Channel σ} (h : c.link.Shallow) :
    c.wire.Grows P (c.finish ending).2.wire ∧ (c.finish ending).2.link.Shallow := by
  cases ending with
  | commit => exact commit_shallow hcontrol h
  | rollback => exact rollback_shallow hcontrol h
  | abandon => exact ⟨.refl _, h.abandon⟩

theorem run_shallow {w : Work α} (hw : w.Sends P) {c : Channel σ} (h : c.link.Shallow) :
    c.wire.Grows P (w.run c).2.wire ∧ (w.run c).2.link.Shallow :=
  ⟨hw.grows c fun sql hsql => hcontrol sql (h.queue hsql),
    (w.depth_run c).symm ▸ h.depth, fun _ hsql => h.queue (Work.mem_queue_run hsql)⟩

/-- Framed work on a connection without a transaction. -/
theorem perform_shallow {frame : Frame} {w : Work α} (hw : w.Sends P)
    (hcontext : ∀ id user ending, frame = .tenant id user ending → P (contextStatement id user))
    {c : Channel σ} (h : c.link.Shallow) (hdepth : c.link.depth = 0) :
    c.wire.Grows P (c.perform w frame).2.wire ∧ (c.perform w frame).2.link.Shallow := by
  cases frame with
  | bare => exact run_shallow hcontrol hw h
  | tenant id user ending =>
    obtain ⟨henter, hopened⟩ := enter_shallow hcontrol h (by omega)
    have hone := depth_enter c
    rw [perform]
    generalize c.enter = entered at *
    obtain ⟨failure | failure, opened⟩ := entered
    · -- one level is open, so that the level of the context is the second
      have hone : opened.link.depth = 1 := by simpa [hdepth] using hone
      have hbound : opened.link.depth < 2 := by omega
      obtain ⟨hset, hprepared⟩ :=
        setContext_shallow hcontrol (hcontext id user ending rfl) hopened hbound
      obtain ⟨hrun, hworked⟩ := run_shallow hcontrol hw hprepared
      have hall := henter.trans (hset.trans hrun)
      simp only
      generalize w.run (opened.setContext id user) = done at *
      obtain ⟨e | a, worked⟩ := done
      · exact ⟨hall, hworked.abandon⟩
      · obtain ⟨hfinish, hlast⟩ := finish_shallow hcontrol ending hworked
        simp only at hall ⊢
        generalize worked.finish ending = finished at *
        obtain ⟨failure | failure, last⟩ := finished
        · exact ⟨hall.trans hfinish, hlast⟩
        · exact ⟨hall.trans hfinish, hlast.abandon⟩
    · exact ⟨henter, hopened⟩

end Channel

end Controls

/-! ### Operations -/

namespace Pool

theorem schema_acquire (p : Pool σ) : p.acquire.2.schema = p.schema := by
  rw [acquire]
  split
  · rfl
  · split
    · rfl
    · split <;> rfl

/-- The schema of a pool is fixed when it is opened. -/
theorem schema_perform (p : Pool σ) (frame : Frame) (w : Work α) :
    (p.perform frame w).2.schema = p.schema := by
  have hacquire := p.schema_acquire
  rw [perform]
  generalize p.acquire = acquired at *
  obtain ⟨failure | c, p'⟩ := acquired
  · exact hacquire
  · exact hacquire

theorem Reachable.schema_eq {s : StoreSettings} {p : Pool σ} (h : p.Reachable s) :
    p.schema = s.schema := by
  induction h with
  | opened server => rfl
  | used frame w _ ih => exact (schema_perform _ frame w).trans ih
  | closed _ ih => exact ih
  | elapsed server _ ih => exact ih

end Pool

/-- **Everything that an operation sends** is one of its own statements, a control text, the search
path of the deployment or the context of a frame. -/
theorem Operation.Sends.all_sent {o : Operation α} (ho : o.Sends F P) {p : Pool σ} (hp : p.AtRest)
    (hcontrol : ∀ sql ∈ Link.controls, P (.simple sql))
    (hpath : P (.simple (Schema.searchPath p.schema)))
    (hcontext : ∀ id user ending, F (.tenant id user ending) → P (contextStatement id user)) :
    ∀ e ∈ o.sent p, P e.statement := by
  suffices hgrows : p.wire.Grows P (o.run p).2.wire by
    obtain ⟨sent, hlog, hsent⟩ := hgrows
    rwa [Operation.sent_eq hlog]
  induction ho generalizing p with
  | done a => exact .refl _
  | fail e => exact .refl _
  | @within β frame work next hframe hwork _ ih =>
    have hacquired := hp.acquired hpath
    have hrest := hp.perform frame work
    have hschema := p.schema_perform frame work
    rw [run]
    rw [Pool.perform] at hrest hschema ⊢
    generalize p.acquire = acquired at *
    cases hacquired with
    | refused f hsent _ => exact hsent
    | @given w p' hsent =>
      obtain ⟨hframed, hshallow⟩ := Channel.perform_shallow (c := ⟨w, .fresh⟩) hcontrol hwork
        (fun id user ending heq => hcontext id user ending (heq ▸ hframe)) Link.shallow_fresh rfl
      simp only at hrest hschema ⊢
      generalize Channel.perform work frame ⟨w, .fresh⟩ = performed at *
      have hrelease : performed.2.wire.Grows P (p'.release performed.2).wire :=
        Channel.flush_grows fun sql hsql => hcontrol sql (hshallow.queue hsql)
      have hused := hsent.trans (hframed.trans hrelease)
      obtain ⟨e | b, c⟩ := performed
      · exact hused
      · exact hused.trans (ih b hrest (hschema ▸ hpath))

end KnowledgeBase
