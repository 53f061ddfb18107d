import KnowledgeBase.Proofs.Connection.Atomicity

/-!
# The record is never read

What is sent, and how replies are taken, depends on the server and on the transaction state of the
connection, but not on what was sent before.  So a run from a longer record is the same run with the
longer record behind it.  The pool of some settings at rest has nothing else to remember: what an
operation does there depends on the server and on whether a connection is kept.

## Main definitions

* `Wire.behind`, `Channel.behind`, `Pool.behind` — the same with more statements before.
* `Pool.facing` — a pool whose server has become another one.
* `Pool.opened` — the pool of some settings with a new connection and nothing sent yet.
* `Pool.Kept` — a pool that differs from a new one in its record and its connection only.
* `Operation.Connected` — what becomes of an operation that has to open a connection first.

## Main results

* `Operation.run_behind` — an operation does the same behind any record.
* `Pool.Kept.effect_eq` — at rest, only the server and the presence of a connection matter.
* `Operation.connected` — without a connection one is opened first, and then nothing else differs.
-/

namespace KnowledgeBase

open Sql

variable {σ α β : Type}

/-- The same server with more statements before. -/
def Wire.behind (past : List Sent) (w : Wire σ) : Wire σ := ⟨w.server, past ++ w.log⟩

/-- The same connection with more statements before. -/
def Channel.behind (past : List Sent) (c : Channel σ) : Channel σ := ⟨c.wire.behind past, c.link⟩

/-- The same pool with more statements before. -/
def Pool.behind (past : List Sent) (p : Pool σ) : Pool σ := { p with wire := p.wire.behind past }

/-- The same pool with another server behind it. -/
def Pool.facing (server : σ) (p : Pool σ) : Pool σ := { p with wire := ⟨server, p.wire.log⟩ }

variable [Server σ] (past : List Sent)

/-! ### Connections -/

theorem Wire.send_behind (s : Statement) (w : Wire σ) :
    (w.behind past).send s = (w.send s).map id (behind past) := by
  simp only [send, behind, Prod.map, id_eq, List.append_assoc]

namespace Channel

theorem send_behind (s : Statement) (c : Channel σ) :
    (c.behind past).send s = (c.send s).map id (behind past) := by
  obtain ⟨w, depth, queue, alive⟩ := c
  cases alive with
  | false => rfl
  | true =>
    have hwire := w.send_behind past s
    simp only [send, behind, if_true, hwire]
    rfl

theorem sendAll_behind (texts : List String) (c : Channel σ) :
    sendAll texts (c.behind past) = (sendAll texts c).map id (behind past) := by
  induction texts generalizing c with
  | nil => rfl
  | cons sql rest ih =>
    simp only [sendAll, send_behind, Prod.map, id_eq, ih]

theorem flush_behind (c : Channel σ) :
    (c.behind past).flush = c.flush.map id (behind past) :=
  sendAll_behind past c.link.queue { c with link := { c.link with queue := [] } }

theorem execute_behind (s : Statement) (c : Channel σ) :
    (c.behind past).execute s = (c.execute s).map id (behind past) := by
  rw [execute, execute, flush_behind]
  obtain ⟨failure | failure, after⟩ := c.flush
  · simp only [Prod.map, id_eq, send_behind]
  · rfl

theorem enter_behind (c : Channel σ) :
    (c.behind past).enter = c.enter.map id (behind past) := by
  have hlink : (c.behind past).link = c.link := rfl
  rw [enter, enter, hlink, execute_behind]
  obtain ⟨failure | reply, after⟩ := c.execute (.simple (Link.beginText c.link.depth))
  · rfl
  · rfl

theorem leave_behind (text : Nat → String) (c : Channel σ) :
    (c.behind past).leave text = (c.leave text).map id (behind past) := by
  have hlink : (c.behind past).link = c.link := rfl
  rw [leave, leave, hlink]
  cases c.link.depth with
  | zero => rfl
  | succ depth =>
    simp only [execute_behind]
    obtain ⟨failure | reply, after⟩ := c.execute (.simple (text depth))
    · rfl
    · rfl

omit [Server σ] in
theorem settle_behind (x : Option Failure × Channel σ) :
    settle (x.map id (behind past)) = (settle x).behind past := by
  obtain ⟨failure | failure, c⟩ := x
  · rfl
  · rfl

theorem setContext_behind (tenant : String) (user : Option String) (c : Channel σ) :
    (c.behind past).setContext tenant user = (c.setContext tenant user).behind past := by
  rw [setContext, setContext, enter_behind]
  obtain ⟨failure | failure, opened⟩ := c.enter
  · simp only [Prod.map, id_eq, execute_behind]
    obtain ⟨failure | reply, after⟩ := opened.execute (contextStatement tenant user)
    · simp only [rollback, leave_behind, settle_behind]
    · simp only [commit, leave_behind, settle_behind]
  · rfl

theorem finish_behind (ending : Ending) (c : Channel σ) :
    (c.behind past).finish ending = (c.finish ending).map id (behind past) := by
  cases ending with
  | commit => exact leave_behind past _ c
  | rollback => exact leave_behind past _ c
  | abandon => rfl

end Channel

theorem Work.run_behind (w : Work α) (c : Channel σ) :
    w.run (c.behind past) = (w.run c).map id (Channel.behind past) := by
  induction w generalizing c with
  | done a => rfl
  | fail e => rfl
  | step s next ih =>
    simp only [run, Channel.execute_behind, Prod.map, id_eq, ih]

theorem Channel.conclude_behind (ending : Ending) (done : Except StoreError α × Channel σ) :
    conclude ending (done.map id (behind past)) = (conclude ending done).map id (behind past) := by
  obtain ⟨e | a, c⟩ := done
  · rfl
  · simp only [conclude, Prod.map, id_eq, finish_behind]
    obtain ⟨failure | failure, last⟩ := c.finish ending
    · rfl
    · rfl

theorem Channel.perform_behind (w : Work α) (frame : Frame) (c : Channel σ) :
    (c.behind past).perform w frame = (c.perform w frame).map id (behind past) := by
  cases frame with
  | bare => exact w.run_behind past c
  | tenant id user ending =>
    rw [perform_tenant, perform_tenant, enter_behind]
    obtain ⟨failure | failure, opened⟩ := c.enter
    · simp only [Prod.map_apply, id_eq, setContext_behind, Work.run_behind, conclude_behind]
    · rfl

/-! ### Pools -/

theorem Wire.connect_behind (schema : String) (attempts : Nat) (w : Wire σ) :
    (w.behind past).connect schema attempts =
      (w.connect schema attempts).map id (behind past) := by
  induction attempts generalizing w with
  | zero => rfl
  | succ n ih =>
    have hserver : (w.behind past).server = w.server := rfl
    rw [connect, connect, hserver]
    cases Server.refusal? w.server with
    | some refusal =>
      obtain ⟨code, message⟩ := refusal
      simp only
      split
      · exact ih w
      · rfl
    | none =>
      simp only [send_behind, Prod.map, id_eq]
      split
      · rfl
      · exact ih _

namespace Pool

theorem acquire_behind (p : Pool σ) :
    (p.behind past).acquire =
      p.acquire.map (Except.map (Channel.behind past)) (behind past) := by
  have hclosed : (p.behind past).closed = p.closed := rfl
  have hidle : (p.behind past).idle = p.idle := rfl
  have hwire : (p.behind past).wire = p.wire.behind past := rfl
  have hschema : (p.behind past).schema = p.schema := rfl
  have hattempts : (p.behind past).attempts = p.attempts := rfl
  rw [acquire, acquire, hclosed, hidle, hwire, hschema, hattempts, Wire.connect_behind]
  split
  · rfl
  · cases p.idle with
    | some link => rfl
    | none =>
      obtain ⟨failure | link, w⟩ := p.wire.connect p.schema p.attempts
      · rfl
      · rfl

theorem release_behind (c : Channel σ) (p : Pool σ) :
    (p.behind past).release (c.behind past) = (p.release c).behind past := by
  rw [release, release, Channel.flush_behind]
  rfl

theorem perform_behind (frame : Frame) (w : Work α) (p : Pool σ) :
    (p.behind past).perform frame w = (p.perform frame w).map id (behind past) := by
  rw [perform, perform, acquire_behind]
  obtain ⟨failure | c, p'⟩ := p.acquire
  · rfl
  · simp only [Prod.map, Except.map, Channel.perform_behind, release_behind, id_eq]

end Pool

/-! ### Operations -/

namespace Operation

/-- **An operation does the same behind any record.** -/
theorem run_behind (o : Operation α) (p : Pool σ) :
    o.run (p.behind past) = (o.run p).map id (Pool.behind past) := by
  induction o generalizing p with
  | done a => rfl
  | fail e => rfl
  | within frame work next ih =>
    rw [run, run, Pool.perform_behind]
    obtain ⟨e | b, p'⟩ := p.perform frame work
    · rfl
    · exact ih b p'

theorem sent_behind (o : Operation α) (p : Pool σ) : o.sent (p.behind past) = o.sent p := by
  apply sent_eq
  have hlog := o.log_run p
  rw [run_behind]
  change past ++ (o.run p).2.wire.log = past ++ p.wire.log ++ o.sent p
  rw [hlog, List.append_assoc]

/-- What an operation comes to: its result, and what it sends with the replies. -/
def effect (o : Operation α) (p : Pool σ) : Except StoreError α × List Sent :=
  ((o.run p).1, o.sent p)

theorem effect_done (a : α) (p : Pool σ) : (done a).effect p = (.ok a, []) := by
  have hsent : (done a).sent p = [] := sent_eq (List.append_nil _).symm
  rw [effect, hsent]
  rfl

theorem effect_fail (e : StoreError) (p : Pool σ) :
    (fail e : Operation α).effect p = (.error e, []) := by
  have hsent : (fail e : Operation α).sent p = [] := sent_eq (List.append_nil _).symm
  rw [effect, hsent]
  rfl

theorem effect_behind (o : Operation α) (p : Pool σ) : o.effect (p.behind past) = o.effect p := by
  rw [effect, effect, sent_behind, run_behind]
  rfl

end Operation

/-! ### What a pool remembers -/

namespace Pool

/-- The pool of some settings with a new connection over which nothing was sent yet. -/
def opened (server : σ) (s : StoreSettings) : Pool σ :=
  { ofSettings server s with idle := some .fresh }

/-- Nothing but the record and the connection has changed since the pool was made. -/
def Kept (s : StoreSettings) (p : Pool σ) : Prop :=
  p = { ofSettings p.wire.server s with wire := p.wire, idle := p.idle }

omit [Server σ] in
theorem kept_ofSettings (server : σ) (s : StoreSettings) : (ofSettings server s).Kept s := rfl

/-- Taking a connection changes nothing else. -/
theorem acquire_eq (p : Pool σ) :
    p.acquire.2 = { p with wire := p.acquire.2.wire, idle := p.acquire.2.idle } := by
  rw [acquire]
  split
  · rfl
  · split
    · rfl
    · split <;> rfl

theorem acquire_ofSettings {server : σ} {s : StoreSettings} {w : Wire σ}
    {taken : Except Failure Link}
    (h : (⟨server, []⟩ : Wire σ).connect s.schema (ofSettings server s).attempts = (taken, w)) :
    (ofSettings server s).acquire =
      (taken.map fun link => ⟨w, link⟩, { ofSettings server s with wire := w }) := by
  have hwire : (ofSettings server s).wire = ⟨server, []⟩ := rfl
  have hschema : (ofSettings server s).schema = s.schema := rfl
  have hidle : (ofSettings server s).idle = none := rfl
  have hclosed : (ofSettings server s).closed = none := rfl
  rw [acquire, hwire, hschema, hidle, hclosed, h]
  cases taken with
  | error f => rfl
  | ok link => rfl

theorem Kept.perform {s : StoreSettings} {p : Pool σ} (h : p.Kept s) (frame : Frame) (w : Work α) :
    (p.perform frame w).2.Kept s := by
  have hacquire := p.acquire_eq
  rw [Pool.perform]
  generalize p.acquire = acquired at *
  obtain ⟨failure | c, p'⟩ := acquired
  · simp only at hacquire ⊢
    rw [hacquire, h]
    rfl
  · simp only [release] at hacquire ⊢
    rw [hacquire, h]
    rfl

theorem Kept.run {s : StoreSettings} {p : Pool σ} (h : p.Kept s) (o : Operation α) :
    (o.run p).2.Kept s := by
  induction o generalizing p with
  | done a => exact h
  | fail e => exact h
  | within frame work next ih =>
    have hperform := h.perform frame work
    rw [Operation.run]
    generalize p.perform frame work = performed at *
    obtain ⟨e | b, p'⟩ := performed
    · exact hperform
    · exact ih b hperform

/-- **At rest a pool remembers nothing** but whether a connection is open. -/
theorem Kept.effect_eq {s : StoreSettings} {p : Pool σ} (h : p.Kept s) (hrest : p.AtRest)
    (o : Operation α) : o.effect p =
      o.effect (if p.idle.isSome then opened p.wire.server s else ofSettings p.wire.server s) := by
  -- the pool is a new one behind its own record
  obtain ⟨⟨server, log⟩, schema, attempts, maxSize, idle, closed⟩ := p
  have hsame := h
  simp only [Kept, Pool.mk.injEq] at hsame
  obtain ⟨-, rfl, rfl, rfl, -, rfl⟩ := hsame
  cases idle with
  | none =>
    have hnew := o.effect_behind log (ofSettings server s)
    simp only [behind, Wire.behind, ofSettings, List.append_nil] at hnew
    exact hnew
  | some link =>
    have hfresh : link = .fresh := hrest link rfl
    have hnew := o.effect_behind log (opened server s)
    simp only [behind, Wire.behind, opened, ofSettings, List.append_nil] at hnew
    rw [hfresh]
    exact hnew

end Pool

/-! ### Opening a connection first -/

namespace Operation

/-- What becomes of an operation on a pool without a connection.  It needs none, or one is opened
and told the schema, after which it goes on as it would have with a connection, or none can be
opened. -/
inductive Connected (o : Operation α) (server : σ) (s : StoreSettings) :
    Except StoreError α × List Sent → Prop where
  | unneeded {r : Except StoreError α} (h : ∀ server' : σ, o.effect (.opened server' s) = (r, [])) :
    Connected o server s (r, [])
  | given {w : Wire σ} (hpath : ∀ e ∈ w.log, e.statement = .simple (Schema.searchPath s.schema))
    (h : (⟨server, []⟩ : Wire σ).connect s.schema (Pool.ofSettings server s).attempts =
      (.ok .fresh, w)) :
    Connected o server s
      ((o.effect (.opened w.server s)).1, w.log ++ (o.effect (.opened w.server s)).2)
  | refused {w : Wire σ} {f : Failure}
    (hpath : ∀ e ∈ w.log, e.statement = .simple (Schema.searchPath s.schema))
    (h : (⟨server, []⟩ : Wire σ).connect s.schema (Pool.ofSettings server s).attempts =
      (.error f, w)) :
    Connected o server s (.error f.classify, w.log)

/-- Opening a connection sends nothing but the search path. -/
theorem connect_path {schema : String} {attempts : Nat} {server : σ} {w : Wire σ}
    {taken : Except Failure Link}
    (h : (⟨server, []⟩ : Wire σ).connect schema attempts = (taken, w)) :
    ∀ e ∈ w.log, e.statement = .simple (Schema.searchPath schema) := by
  have hgrows := Wire.connect_grows (P := (· = .simple (Schema.searchPath schema))) rfl attempts
    (⟨server, []⟩ : Wire σ)
  rw [h] at hgrows
  obtain ⟨sent, hlog, hsent⟩ := hgrows
  rw [List.nil_append] at hlog
  rw [hlog]
  exact hsent

section Within

variable {frame : Frame} {work : Work β} {next : β → Operation α} {server : σ} {s : StoreSettings}
  {w : Wire σ}

/-- Where no connection can be opened, framed work fails and nothing more is sent. -/
theorem effect_refused {f : Failure}
    (h : (⟨server, []⟩ : Wire σ).connect s.schema (Pool.ofSettings server s).attempts =
      (.error f, w)) :
    (within frame work next).effect (.ofSettings server s) = (.error f.classify, w.log) := by
  have hrun : (within frame work next).run (Pool.ofSettings server s) =
      (.error f.classify, { Pool.ofSettings server s with wire := w }) := by
    rw [run, Pool.perform, Pool.acquire_ofSettings h]
    rfl
  have hsent : (within frame work next).sent (Pool.ofSettings server s) = w.log := by
    apply sent_eq
    rw [hrun]
    rfl
  rw [effect, hsent, hrun]

/-- Once a connection is open, framed work runs as over any open connection, behind what was sent to
open it. -/
theorem run_given
    (h : (⟨server, []⟩ : Wire σ).connect s.schema (Pool.ofSettings server s).attempts =
      (.ok .fresh, w)) :
    (within frame work next).run (Pool.ofSettings server s) =
      (within frame work next).run ((Pool.opened w.server s).behind w.log) := by
  have hsame : (Pool.opened w.server s).behind w.log =
      { Pool.ofSettings server s with wire := w, idle := some .fresh } := by
    simp only [Pool.behind, Wire.behind, Pool.opened, Pool.ofSettings, List.append_nil]
  rw [run, run, hsame, Pool.perform, Pool.perform, Pool.acquire_ofSettings h]
  rfl

theorem effect_given
    (h : (⟨server, []⟩ : Wire σ).connect s.schema (Pool.ofSettings server s).attempts =
      (.ok .fresh, w)) :
    (within frame work next).effect (.ofSettings server s) =
      (((within frame work next).effect (.opened w.server s)).1,
        w.log ++ ((within frame work next).effect (.opened w.server s)).2) := by
  have hbefore : ((Pool.opened w.server s).behind w.log).wire.log = w.log := List.append_nil _
  have hlog := (within frame work next).log_run ((Pool.opened w.server s).behind w.log)
  rw [sent_behind, ← run_given h, hbefore] at hlog
  have hsent : (within frame work next).sent (Pool.ofSettings server s) =
      w.log ++ (within frame work next).sent (Pool.opened w.server s) := sent_eq hlog
  rw [effect, hsent, run_given h, run_behind]
  rfl

end Within

/-- **A connection that has to be opened makes no other difference.** -/
theorem connected (o : Operation α) (server : σ) (s : StoreSettings) :
    o.Connected server s (o.effect (.ofSettings server s)) := by
  cases o with
  | done a =>
    rw [effect_done]
    exact .unneeded fun server' => effect_done a _
  | fail e =>
    rw [effect_fail]
    exact .unneeded fun server' => effect_fail e _
  | within frame work next =>
    obtain ⟨taken, w, hconnect⟩ : ∃ taken w, (⟨server, []⟩ : Wire σ).connect s.schema
        (Pool.ofSettings server s).attempts = (taken, w) := ⟨_, _, rfl⟩
    have hpath := connect_path hconnect
    cases taken with
    | error f =>
      rw [effect_refused hconnect]
      exact .refused hpath hconnect
    | ok link =>
      have hfresh : link = .fresh := Pool.connect_eq_fresh (congrArg Prod.fst hconnect)
      rw [hfresh] at hconnect
      rw [effect_given hconnect]
      exact .given hpath hconnect

end Operation

end KnowledgeBase
