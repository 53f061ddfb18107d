import KnowledgeBase.Connection.Open
import KnowledgeBase.Proofs.Connection.Transaction

/-!
# The life of a pool

Between operations the driver counts no open level on the connection that is kept, and nothing waits
to be sent over it.  This holds after every operation, however its statements were answered.

## Main definitions

* `Pool.AtRest` — the connection that is kept, if there is one, is as good as new.
* `Pool.Reachable` — the pools that a deployment can come to have.

## Main results

* `Channel.depth_perform` — framed work leaves no level open.
* `Pool.Reachable.atRest` — every pool of a deployment is at rest between operations.
-/

namespace KnowledgeBase

open Sql

variable {σ α : Type}

/-- The connection that is kept, if there is one, is in no transaction and nothing waits on it. -/
def Pool.AtRest (p : Pool σ) : Prop := ∀ link ∈ p.idle, link = Link.fresh

@[simp] theorem Link.depth_abandon (l : Link) : l.abandon.depth = l.depth - 1 := by
  obtain ⟨depth, queue, alive⟩ := l
  cases depth with
  | zero => rfl
  | succ depth => rfl

@[simp] theorem Channel.depth_abandon (c : Channel σ) :
    c.abandon.link.depth = c.link.depth - 1 := Link.depth_abandon _

variable [Server σ]

/-! ### Levels -/

namespace Channel

/-- Opening a level adds one, and takes one away when it fails. -/
theorem depth_enter (c : Channel σ) :
    c.enter.2.link.depth = if c.enter.1 = none then c.link.depth + 1 else c.link.depth - 1 := by
  have hdepth := depth_execute (.simple (Link.beginText c.link.depth)) c
  rw [enter]
  generalize c.execute (.simple (Link.beginText c.link.depth)) = answer at *
  obtain ⟨failure | reply, after⟩ := answer
  · exact (depth_abandon after).trans (congrArg (· - 1) hdepth)
  · rfl

/-- A level that is left by a statement, or abandoned when that fails, is gone. -/
theorem depth_settle_leave (text : Nat → String) (c : Channel σ) :
    (settle (c.leave text)).link.depth = c.link.depth - 1 := by
  rw [leave]
  split
  · next hzero => simp [settle, hzero]
  · next depth hdepth =>
    have hsame := depth_execute (.simple (text depth)) c
    generalize c.execute (.simple (text depth)) = answer at *
    obtain ⟨failure | reply, after⟩ := answer
    · exact (depth_abandon after).trans (congrArg (· - 1) hsame)
    · simp [settle, atDepth, hdepth]

/-- Setting a context leaves no level of its own, and may lose the one around it. -/
theorem depth_setContext_le {c : Channel σ} (h : c.link.depth = 1) (tenant : String)
    (user : Option String) : (c.setContext tenant user).link.depth ≤ 1 := by
  have henter := depth_enter c
  rw [setContext]
  generalize c.enter = entered at *
  obtain ⟨failure | failure, c'⟩ := entered
  · have hsame := depth_execute (contextStatement tenant user) c'
    simp only [if_true, h] at henter
    simp only
    generalize c'.execute (contextStatement tenant user) = answer at *
    obtain ⟨failure | reply, after⟩ := answer
    · have hleave := depth_settle_leave Link.rollbackText after
      simp only [rollback] at hsame hleave ⊢
      omega
    · have hleave := depth_settle_leave Link.commitText after
      simp only [commit] at hsame hleave ⊢
      omega
  · simp only [reduceCtorEq, if_false, h] at henter
    simp only
    omega

/-- Ending a transaction, or abandoning it when that fails, leaves one level less. -/
theorem depth_settle_finish (ending : Ending) (c : Channel σ) :
    (settle (c.finish ending)).link.depth = c.link.depth - 1 := by
  cases ending with
  | commit => exact depth_settle_leave _ c
  | rollback => exact depth_settle_leave _ c
  | abandon => exact depth_abandon c

/-- Framed work leaves no level open. -/
theorem depth_perform {c : Channel σ} (h : c.link.depth = 0) (w : Work α) (frame : Frame) :
    (c.perform w frame).2.link.depth = 0 := by
  cases frame with
  | bare => exact (w.depth_run c).trans h
  | tenant id user ending =>
    have henter := depth_enter c
    rw [perform]
    generalize c.enter = entered at *
    obtain ⟨failure | failure, opened⟩ := entered
    · -- one level is open until the transaction is ended or abandoned
      have hone : opened.link.depth = 1 := by simpa [h] using henter
      have hcontext := depth_setContext_le hone id user
      have hrun := w.depth_run (opened.setContext id user)
      simp only
      generalize w.run (opened.setContext id user) = done at *
      obtain ⟨e | a, worked⟩ := done
      · simp only at hrun ⊢
        rw [depth_abandon]
        omega
      · have hfinish := depth_settle_finish ending worked
        simp only at hrun ⊢
        generalize worked.finish ending = finished at *
        obtain ⟨failure | failure, last⟩ := finished
        · simp only [settle] at hfinish ⊢
          omega
        · simp only [settle] at hfinish ⊢
          omega
    · simpa [h] using henter

end Channel

/-! ### Pools -/

namespace Pool

/-- What taking a connection out of a pool at rest can come to. -/
inductive Acquired (P : Statement → Prop) (p : Pool σ) :
    Except Failure (Channel σ) × Pool σ → Prop where
  | given {w : Wire σ} {p' : Pool σ} (hsent : p.wire.Grows P w) : Acquired P p (.ok ⟨w, .fresh⟩, p')
  | refused {p' : Pool σ} (f : Failure) (hsent : p.wire.Grows P p'.wire)
    (hidle : p'.idle = p.idle) :
    Acquired P p (.error f, p')

/-- A new connection is in no transaction. -/
theorem connect_eq_fresh {schema : String} {attempts : Nat} {w : Wire σ} {link : Link}
    (h : (w.connect schema attempts).1 = .ok link) : link = .fresh := by
  induction attempts generalizing w with
  | zero => cases h
  | succ n ih =>
    rw [Wire.connect] at h
    split at h
    · split at h
      · exact ih h
      · cases h
    · simp only at h
      split at h
      · cases h
        rfl
      · exact ih h

theorem AtRest.acquired {P : Statement → Prop} {p : Pool σ} (h : p.AtRest)
    (hpath : P (.simple (Schema.searchPath p.schema))) : p.Acquired P p.acquire := by
  have hconnect := Wire.connect_grows hpath p.attempts p.wire
  have hfresh := @connect_eq_fresh _ _ p.schema p.attempts p.wire
  rw [acquire]
  split
  · exact .refused _ (.refl _) rfl
  · split
    · next link hidle =>
      rw [h link hidle]
      exact .given (.refl _)
    · generalize p.wire.connect p.schema p.attempts = connected at *
      obtain ⟨failure | link, w⟩ := connected
      · exact .refused _ hconnect rfl
      · cases hfresh rfl
        exact .given hconnect

/-- When nothing waits on a connection, nothing is sent as it is given back. -/
theorem release_of_queue_nil {c : Channel σ} (h : c.link.queue = []) (p : Pool σ) :
    p.release c =
      { p with wire := c.wire, idle := if c.link.alive then some c.link else none } := by
  rw [release, Channel.flush_of_queue_nil h]
  simp

/-- A connection that no level is open on is as good as new when it has been given back. -/
theorem release_atRest {c : Channel σ} (h : c.link.depth = 0) (p : Pool σ) :
    (p.release c).AtRest := by
  intro link hlink
  have hdepth := Channel.depth_flush c
  have hqueue := Channel.queue_flush c
  rw [release] at hlink
  generalize c.flush = flushed at *
  obtain ⟨failure, w, depth, queue, alive⟩ := flushed
  simp only [Option.mem_def, Option.ite_none_right_eq_some, Bool.and_eq_true] at hlink
  obtain ⟨⟨-, halive⟩, hsome⟩ := hlink
  cases hsome
  simp only at hdepth hqueue halive
  rw [hdepth, h, hqueue, halive]
  rfl

theorem AtRest.perform {p : Pool σ} (h : p.AtRest) (frame : Frame) (w : Work α) :
    (p.perform frame w).2.AtRest := by
  have hacquired := h.acquired (P := fun _ => True) trivial
  rw [Pool.perform]
  generalize p.acquire = acquired at *
  cases hacquired with
  | refused f _ hidle => exact fun link hlink => h link (hidle ▸ hlink)
  | given _ => exact release_atRest (Channel.depth_perform rfl w frame) _

theorem AtRest.run {p : Pool σ} (h : p.AtRest) (o : Operation α) : (o.run p).2.AtRest := by
  induction o generalizing p with
  | done a => exact h
  | fail e => exact h
  | within frame work next ih =>
    have hperform := h.perform frame work
    rw [Operation.run]
    generalize p.perform frame work = performed at *
    obtain ⟨e | b, p'⟩ := performed
    · exact hperform
    · exact ih b hperform

/-- The pools that a deployment can come to have, whatever its server answers: opened under some
settings, used any number of times, and perhaps closed. -/
inductive Reachable (s : StoreSettings) : Pool σ → Prop where
  | opened (server : σ) : Reachable s (ofSettings server s)
  | used {β : Type} {p : Pool σ} (frame : Frame) (w : Work β) (h : Reachable s p) :
    Reachable s (p.perform frame w).2
  | closed {p : Pool σ} (h : Reachable s p) : Reachable s p.close
  /-- The server may have changed in the meantime. -/
  | elapsed {p : Pool σ} (server : σ) (h : Reachable s p) :
    Reachable s { p with wire := ⟨server, p.wire.log⟩ }

/-- What an operation leaves is again a pool of the deployment. -/
theorem Reachable.run {s : StoreSettings} {p : Pool σ} (h : p.Reachable s) (o : Operation α) :
    (o.run p).2.Reachable s := by
  induction o generalizing p with
  | done a => exact h
  | fail e => exact h
  | within frame work next ih =>
    have hused := h.used frame work
    rw [Operation.run]
    generalize p.perform frame work = performed at *
    obtain ⟨e | b, p'⟩ := performed
    · exact hused
    · exact ih b hused

/-- **Between operations the driver counts no open level**, and nothing waits to be sent. -/
theorem Reachable.atRest {s : StoreSettings} {p : Pool σ} (h : p.Reachable s) : p.AtRest := by
  induction h with
  | opened server => exact nofun
  | used frame w _ ih => exact ih.perform frame w
  | closed _ _ => exact nofun
  | elapsed server _ ih => exact ih

/-- A pool whose server gives some replies in order: first to the search path, then to the rest. -/
def replying (replies : List Reply) : Pool Replies := ofSettings ⟨replies⟩ .default

end Pool

end KnowledgeBase
