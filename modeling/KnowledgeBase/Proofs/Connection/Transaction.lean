import KnowledgeBase.Connection.Script
import KnowledgeBase.Proofs.Connection.Traffic

/-!
# Transactions in the record of a connection

The record holds every statement with its reply, so it tells by itself when a transaction was open,
whichever way the driver kept count.  The channel is described beside it: what sending a statement,
opening a level, setting a context and giving the connection back can come to.

## Main definitions

* `Sql.Sent.opens`, `Sql.isOpen` — whether a transaction is open, told from the record.
* `Sql.DataWithin` — every data statement is sent while a transaction is open.
* `Channel.Executed` — what sending a statement can come to.
* `Channel.Prepared` — a transaction is open and the level of the context is left.

## Main results

* `Channel.executed` — one of three things happens to a statement.
* `Channel.setContext_cases` — the level of the context is left, or the transaction with it.
* `Pool.release_abandoned` — an abandoned transaction is rolled back or the connection is closed.
-/

namespace KnowledgeBase

open Sql

/-! ### Reading the record -/

namespace Sql

/-- A statement with values that does not set the context. -/
def Statement.isData : Statement → Bool
  | .simple _ => false
  | .prepared sql _ => !Script.setsContext sql

@[simp] theorem Statement.isData_simple (sql : String) : (Statement.simple sql).isData = false :=
  rfl

/-- The texts that open or end a transaction. -/
def Statement.isMark : Statement → Bool
  | .simple sql => sql == "BEGIN" || sql == "COMMIT" || sql == "ROLLBACK"
  | .prepared _ _ => false

namespace Sent

/-- A transaction is open after a statement that opened it, until one that ended it.  A statement
that failed did neither. -/
def opens (isOpen : Bool) (e : Sent) : Bool :=
  if e.reply.failure?.isSome || !e.statement.isMark then isOpen
  else e.statement.sql == "BEGIN"

/-- A commit of the whole transaction that succeeded. -/
def Commits (e : Sent) : Prop := e.statement = .simple "COMMIT" ∧ e.reply.failure? = none

/-- The database refuses the savepoint of the context. -/
def RefusesSavepoint (e : Sent) : Prop :=
  e.statement = .simple (Link.beginText 1) ∧ ∃ code message, e.reply = .error code message

end Sent

/-- Whether a transaction is open after some statements. -/
def isOpen (before : Bool) (sent : List Sent) : Bool := sent.foldl Sent.opens before

/-- Every data statement is sent while a transaction is open. -/
def DataWithin : Bool → List Sent → Prop
  | _, [] => True
  | before, e :: rest =>
    (e.statement.isData = true → before = true) ∧ DataWithin (e.opens before) rest

@[simp] theorem isOpen_nil (before : Bool) : isOpen before [] = before := rfl

@[simp] theorem isOpen_cons (before : Bool) (e : Sent) (rest : List Sent) :
    isOpen before (e :: rest) = isOpen (e.opens before) rest := rfl

@[simp] theorem isOpen_append (before : Bool) (sent sent' : List Sent) :
    isOpen before (sent ++ sent') = isOpen (isOpen before sent) sent' := List.foldl_append ..

@[simp] theorem dataWithin_nil (before : Bool) : DataWithin before [] := trivial

@[simp] theorem dataWithin_append {before : Bool} {sent sent' : List Sent} :
    DataWithin before (sent ++ sent') ↔
      DataWithin before sent ∧ DataWithin (isOpen before sent) sent' := by
  induction sent generalizing before with
  | nil => simp [DataWithin]
  | cons e rest ih => rw [List.cons_append, DataWithin, ih, DataWithin, isOpen_cons, and_assoc]

/-- Where nothing opens or ends a transaction, it stays as it is. -/
theorem isOpen_of_unmarked {before : Bool} {sent : List Sent}
    (h : ∀ e ∈ sent, e.statement.isMark = false) : isOpen before sent = before := by
  induction sent with
  | nil => rfl
  | cons e rest ih =>
    have hopens : e.opens before = before := by
      simp [Sent.opens, h e List.mem_cons_self]
    rw [isOpen_cons, hopens]
    exact ih fun e he => h e (List.mem_cons_of_mem _ he)

/-- In an open transaction that nothing ends, data statements may stand anywhere. -/
theorem dataWithin_of_unmarked {sent : List Sent}
    (h : ∀ e ∈ sent, e.statement.isMark = false) : DataWithin true sent := by
  induction sent with
  | nil => trivial
  | cons e rest ih =>
    have hopens : e.opens true = true := by
      simp [Sent.opens, h e List.mem_cons_self]
    refine ⟨fun _ => rfl, ?_⟩
    rw [hopens]
    exact ih fun e he => h e (List.mem_cons_of_mem _ he)

/-- Without data statements there is nothing to ask. -/
theorem dataWithin_of_no_data {before : Bool} {sent : List Sent}
    (h : ∀ e ∈ sent, e.statement.isData = false) : DataWithin before sent := by
  induction sent generalizing before with
  | nil => trivial
  | cons e rest ih =>
    refine ⟨?_, ih fun e he => h e (List.mem_cons_of_mem _ he)⟩
    intro hdata
    rw [h e List.mem_cons_self] at hdata
    cases hdata

/-- Neither data, nor the start or the end of a transaction, nor the savepoint of the context. -/
structure Statement.Aside (s : Statement) : Prop where
  not_data : s.isData = false
  not_mark : s.isMark = false
  not_savepoint : s ≠ .simple (Link.beginText 1)

end Sql

/-! ### Control statements -/

namespace Sql.Statement

theorem aside_release : (simple (Link.commitText 1)).Aside :=
  ⟨rfl, by decide, fun h => by injection h; contradiction⟩

theorem aside_rollback : (simple (Link.rollbackText 1)).Aside :=
  ⟨rfl, by decide, fun h => by injection h; contradiction⟩

/-- The texts of transactions begin otherwise than the text that sets the search path. -/
theorem searchPath_ne (schema sql : String) (h : sql.toList.take 2 ≠ ['S', 'E']) :
    Schema.searchPath schema ≠ sql := by
  have hstart : (Schema.searchPath schema).toList.take 2 = ['S', 'E'] := by
    unfold Schema.searchPath
    rw [String.toList_append, String.toList_append, String.toList_ofList]
    rfl
  intro heq
  rw [heq] at hstart
  exact h hstart

theorem aside_searchPath (schema : String) : (simple (Schema.searchPath schema)).Aside := by
  refine ⟨rfl, ?_, ?_⟩
  · have hbegin := searchPath_ne schema "BEGIN" (by decide)
    have hcommit := searchPath_ne schema "COMMIT" (by decide)
    have hrollback := searchPath_ne schema "ROLLBACK" (by decide)
    simp [isMark, hbegin, hcommit, hrollback]
  · intro h
    injection h with h
    exact searchPath_ne schema (Link.beginText 1) (by decide) h

theorem setsContext_context (tenant : String) (user : Option String) :
    Script.setsContext (contextStatement tenant user).sql = true := by
  rw [contextStatement, sql, Script.setsContext, String.toList_append]
  repeat rw [String.toList_ofList]
  rfl

theorem aside_context (tenant : String) (user : Option String) :
    (contextStatement tenant user).Aside := by
  have h := setsContext_context tenant user
  rw [contextStatement, sql] at h
  refine ⟨?_, rfl, nofun⟩
  rw [contextStatement, isData, h]
  rfl

end Sql.Statement

/-! ### What sending a statement can come to -/

variable {σ α : Type} [Server σ] {P : Statement → Prop}

theorem Sql.Reply.isLost_of_failure? {r : Reply} (h : r.failure? = none) : r.isLost = false := by
  cases r with
  | lost => cases h
  | _ => rfl

namespace Channel

/-- A statement is not sent, is refused, or is answered.  What waits is sent before. -/
inductive Executed (P : Statement → Prop) (c : Channel σ) (s : Statement) :
    Except Failure Reply × Channel σ → Prop where
  | unsent {w : Wire σ} (f : Failure) (alive : Bool) (hwait : c.wire.Grows P w)
    (hcause : c.link.queue ≠ [] ∨ c.link.alive = false) :
    Executed P c s (.error f, ⟨w, c.link.depth, [], alive⟩)
  | refused {w w' : Wire σ} (r : Reply) (f : Failure) (hwait : c.wire.Grows P w)
    (hlog : w'.log = w.log ++ [⟨s, r⟩]) (hreply : r.failure? = some f) :
    Executed P c s (.error f, ⟨w', c.link.depth, [], !r.isLost⟩)
  | answered {w w' : Wire σ} (r : Reply) (hwait : c.wire.Grows P w)
    (hlog : w'.log = w.log ++ [⟨s, r⟩]) (hreply : r.failure? = none) :
    Executed P c s (.ok r, ⟨w', c.link.depth, [], true⟩)

theorem send_of_broken {c : Channel σ} (h : c.link.alive = false) (s : Statement) :
    c.send s = (.lost, c) := by
  rw [send, h]
  rfl

theorem send_of_alive {c : Channel σ} (h : c.link.alive = true) (s : Statement) :
    ∃ r w, c.send s = (r, ⟨w, { c.link with alive := !r.isLost }⟩) ∧
      w.log = c.wire.log ++ [⟨s, r⟩] := by
  rw [send, if_pos h]
  exact ⟨_, _, rfl, rfl⟩

theorem flush_of_queue_nil {c : Channel σ} (h : c.link.queue = []) : c.flush = (none, c) := by
  obtain ⟨w, depth, queue, alive⟩ := c
  cases h
  rfl

/-- One of three things happens to a statement. -/
theorem executed {c : Channel σ} (hq : ∀ sql ∈ c.link.queue, P (.simple sql)) (s : Statement) :
    Executed P c s (c.execute s) := by
  have hgrows := flush_grows hq
  have hdepth := depth_flush c
  have hqueue := queue_flush c
  have hempty : c.link.queue = [] → c.flush = (none, c) := flush_of_queue_nil
  rw [execute]
  generalize c.flush = flushed at *
  obtain ⟨failure, w, depth, queue, alive⟩ := flushed
  simp only at hdepth hqueue
  subst hdepth hqueue
  cases failure with
  | some f =>
    refine .unsent f alive hgrows (.inl ?_)
    intro h
    cases hempty h
  | none =>
    cases halive : alive with
    | false =>
      -- nothing failed while nothing could be sent, so the connection was broken before
      simp only [send_of_broken]
      refine .unsent _ false hgrows ?_
      by_cases hqueue : c.link.queue = []
      · have hsame := (Prod.mk.inj (hempty hqueue)).2
        exact .inr (hsame ▸ halive)
      · exact .inl hqueue
    | true =>
      obtain ⟨r, w', hsend, hlog⟩ :=
        send_of_alive (c := ⟨w, c.link.depth, [], true⟩) rfl s
      simp only [hsend]
      cases hreply : r.failure? with
      | some f => exact .refused r f hgrows hlog hreply
      | none =>
        rw [Reply.isLost_of_failure? hreply]
        exact .answered r hgrows hlog hreply

/-- With nothing waiting on a connection that stands, a statement is sent at once. -/
theorem execute_of_ready {c : Channel σ} (hq : c.link.queue = []) (halive : c.link.alive = true)
    (s : Statement) :
    ∃ r w, c.execute s = (r.failure?.elim (.ok r) .error, ⟨w, c.link.depth, [], !r.isLost⟩) ∧
      w.log = c.wire.log ++ [⟨s, r⟩] := by
  obtain ⟨r, w, hsend, hlog⟩ := send_of_alive halive s
  refine ⟨r, w, ?_, hlog⟩
  rw [execute, flush_of_queue_nil hq]
  simp only [hsend, hq]

/-! ### Opening and leaving a level -/

theorem enter_cases {c : Channel σ} (hq : c.link.queue = []) (halive : c.link.alive = true) :
    ∃ r w, w.log = c.wire.log ++ [⟨.simple (Link.beginText c.link.depth), r⟩] ∧
      (r.failure? = none ∧ c.enter = (none, ⟨w, c.link.depth + 1, [], true⟩) ∨
        ∃ f, r.failure? = some f ∧
          c.enter = (some f, ⟨w, Link.abandon ⟨c.link.depth, [], !r.isLost⟩⟩)) := by
  obtain ⟨r, w, hexecute, hlog⟩ :=
    execute_of_ready hq halive (.simple (Link.beginText c.link.depth))
  refine ⟨r, w, hlog, ?_⟩
  rw [enter, hexecute]
  cases hreply : r.failure? with
  | none =>
    rw [Reply.isLost_of_failure? hreply]
    exact .inl ⟨rfl, rfl⟩
  | some f => exact .inr ⟨f, rfl, rfl⟩

/-- A transaction is open, and nothing waits but perhaps the roll-back of the context's level. -/
structure Prepared (c : Channel σ) : Prop where
  depth : c.link.depth = 1
  queue : ∀ sql ∈ c.link.queue, sql = Link.rollbackText 1

omit [Server σ] in
theorem Prepared.aside {c : Channel σ} (h : c.Prepared) :
    ∀ sql ∈ c.link.queue, (Statement.simple sql).Aside := by
  intro sql hsql
  rw [h.queue sql hsql]
  exact Statement.aside_rollback

/-- The level of the context is left one way or the other. -/
theorem settle_leave {c : Channel σ} (hdepth : c.link.depth = 2) (hq : c.link.queue = [])
    {text : Nat → String} (htext : (Statement.simple (text 1)).Aside) :
    c.wire.Grows Statement.Aside (settle (c.leave text)).wire ∧
      (settle (c.leave text)).Prepared := by
  obtain ⟨w, depth, queue, alive⟩ := c
  cases hdepth
  cases hq
  have hexecuted :=
    executed (P := Statement.Aside) (c := ⟨w, 2, [], alive⟩) nofun (.simple (text 1))
  simp only [leave]
  generalize execute (.simple (text 1)) (⟨w, 2, [], alive⟩ : Channel σ) = answer at hexecuted ⊢
  cases hexecuted with
  | unsent f alive hwait _ => exact ⟨hwait, rfl, by simp [settle, abandon, Link.abandon]⟩
  | refused r f hwait hlog _ =>
    exact ⟨hwait.trans ⟨_, hlog, by simpa using htext⟩, rfl,
      by simp [settle, abandon, Link.abandon]⟩
  | answered r hwait hlog _ =>
    exact ⟨hwait.trans ⟨_, hlog, by simpa using htext⟩, rfl, by simp [settle, atDepth]⟩

/-- What setting a context can come to.  When its savepoint fails, the driver takes the transaction
around it for lost. -/
inductive AfterContext (c : Channel σ) : Channel σ → Prop where
  | kept {c' : Channel σ} {w : Wire σ} (r : Reply) (hreply : r.failure? = none)
    (hlog : w.log = c.wire.log ++ [⟨.simple (Link.beginText 1), r⟩])
    (hrest : w.Grows Statement.Aside c'.wire) (hprepared : c'.Prepared) : AfterContext c c'
  | lost {w : Wire σ} (r : Reply) (f : Failure) (hreply : r.failure? = some f)
    (hlog : w.log = c.wire.log ++ [⟨.simple (Link.beginText 1), r⟩]) :
    AfterContext c ⟨w, 0, [Link.rollbackText 0], !r.isLost⟩

theorem afterContext {c : Channel σ} (hlink : c.link = ⟨1, [], true⟩) (tenant : String)
    (user : Option String) : c.AfterContext (c.setContext tenant user) := by
  obtain ⟨w₀, link⟩ := c
  cases hlink
  obtain ⟨r, w, hlog, ⟨hreply, henter⟩ | ⟨f, hreply, henter⟩⟩ :=
    enter_cases (c := ⟨w₀, 1, [], true⟩) rfl rfl
  · rw [setContext, henter]
    obtain ⟨r', w', hexecute, hlog'⟩ :=
      execute_of_ready (c := ⟨w, 2, [], true⟩) rfl rfl (contextStatement tenant user)
    have hset : w.Grows Statement.Aside w' :=
      ⟨_, hlog', by simpa using Statement.aside_context tenant user⟩
    simp only [hexecute]
    cases r'.failure? with
    | none =>
      obtain ⟨hleave, hprepared⟩ := settle_leave (c := ⟨w', 2, [], !r'.isLost⟩) rfl rfl
        Statement.aside_release
      exact .kept r hreply hlog (hset.trans hleave) hprepared
    | some f =>
      obtain ⟨hleave, hprepared⟩ := settle_leave (c := ⟨w', 2, [], !r'.isLost⟩) rfl rfl
        Statement.aside_rollback
      exact .kept r hreply hlog (hset.trans hleave) hprepared
  · rw [setContext, henter]
    exact .lost r f hreply hlog

/-! ### Ending a transaction -/

theorem Prepared.run {c : Channel σ} (h : c.Prepared) (w : Work α) : (w.run c).2.Prepared :=
  ⟨(w.depth_run c).trans h.depth, fun sql hsql => h.queue sql (Work.mem_queue_run hsql)⟩

/-- What committing a transaction can come to. -/
inductive AfterCommit (c : Channel σ) : Option Failure × Channel σ → Prop where
  | committed {w w' : Wire σ} (r : Reply) (hreply : r.failure? = none)
    (hwait : c.wire.Grows Statement.Aside w) (hlog : w'.log = w.log ++ [⟨.simple "COMMIT", r⟩]) :
    AfterCommit c (none, ⟨w', .fresh⟩)
  | failed {c' : Channel σ} (f : Failure)
    (hsent : c.wire.Adds (fun e => e.statement.Aside ∨
      e.statement = .simple "COMMIT" ∧ e.reply.failure? ≠ none) c'.wire)
    (hprepared : c'.Prepared) : AfterCommit c (some f, c')

theorem Prepared.afterCommit {c : Channel σ} (h : c.Prepared) : c.AfterCommit c.commit := by
  have hexecuted := executed h.aside (.simple (Link.commitText 0))
  rw [commit, leave, h.depth]
  simp only
  generalize c.execute (.simple (Link.commitText 0)) = answer at *
  cases hexecuted with
  | unsent f alive hwait _ =>
    exact .failed f (hwait.mono fun _ => .inl) ⟨h.depth, nofun⟩
  | refused r f hwait hlog hreply =>
    refine .failed f ((hwait.mono fun _ => .inl).trans ⟨_, hlog, ?_⟩) ⟨h.depth, nofun⟩
    intro e he
    rw [List.mem_singleton.1 he]
    exact .inr ⟨rfl, by simp [hreply]⟩
  | answered r hwait hlog hreply => exact .committed r hreply hwait hlog

/-- Texts sent one after the other are sent until the connection breaks; when none fails, each was
sent and succeeded. -/
theorem sendAll_log (texts : List String) (c : Channel σ) :
    ∃ sent, (sendAll texts c).2.wire.log = c.wire.log ++ sent ∧
      (∀ e ∈ sent, ∃ sql ∈ texts, e.statement = .simple sql) ∧
        ((sendAll texts c).1 = none →
          sent.map Sent.statement = texts.map .simple ∧ ∀ e ∈ sent, e.reply.failure? = none) := by
  induction texts generalizing c with
  | nil => exact ⟨[], by simp [sendAll], nofun, fun _ => ⟨rfl, nofun⟩⟩
  | cons sql rest ih =>
    cases halive : c.link.alive with
    | false =>
      obtain ⟨sent, hlog, hsent, -⟩ := ih c
      refine ⟨sent, ?_, ?_, ?_⟩
      · simpa only [sendAll, send_of_broken halive] using hlog
      · intro e he
        obtain ⟨q, hq, heq⟩ := hsent e he
        exact ⟨q, List.mem_cons_of_mem _ hq, heq⟩
      · intro hnone
        rw [sendAll, send_of_broken halive] at hnone
        cases hnone
    | true =>
      obtain ⟨r, w, hsend, hlog⟩ := send_of_alive halive (.simple sql)
      obtain ⟨sent, hlog', hsent, hall⟩ := ih ⟨w, { c.link with alive := !r.isLost }⟩
      refine ⟨⟨.simple sql, r⟩ :: sent, ?_, ?_, ?_⟩
      · simp only [sendAll, hsend, hlog', hlog, List.append_assoc, List.singleton_append]
      · rintro e (he | ⟨_, he⟩)
        · exact ⟨sql, List.mem_cons_self, rfl⟩
        · obtain ⟨q, hq, heq⟩ := hsent e he
          exact ⟨q, List.mem_cons_of_mem _ hq, heq⟩
      · intro hnone
        simp only [sendAll, hsend, Option.or_eq_none_iff] at hnone
        obtain ⟨hstatements, hreplies⟩ := hall hnone.2
        refine ⟨by rw [List.map_cons, List.map_cons, hstatements], ?_⟩
        exact List.forall_mem_cons.2 ⟨hnone.1, hreplies⟩

/-- A broken connection sends nothing. -/
theorem sendAll_of_broken {c : Channel σ} (h : c.link.alive = false) (texts : List String) :
    (sendAll texts c).2 = c := by
  induction texts with
  | nil => rfl
  | cons sql rest ih => simpa only [sendAll, send_of_broken h] using ih

theorem flush_of_broken {c : Channel σ} (h : c.link.alive = false) :
    c.flush.2 = ⟨c.wire, c.link.depth, [], false⟩ := by
  obtain ⟨w, depth, queue, alive⟩ := c
  cases h
  exact sendAll_of_broken rfl queue

theorem execute_of_broken {c : Channel σ} (h : c.link.alive = false) (s : Statement) :
    (c.execute s).2 = ⟨c.wire, c.link.depth, [], false⟩ := by
  have hflush := flush_of_broken h
  rw [execute]
  generalize c.flush = flushed at *
  obtain ⟨failure, c'⟩ := flushed
  cases hflush
  cases failure with
  | some f => rfl
  | none => rfl

end Channel

theorem Work.run_of_broken {w : Work α} {c : Channel σ} (h : c.link.alive = false) :
    (w.run c).2.wire = c.wire ∧ (w.run c).2.link.alive = false := by
  induction w generalizing c with
  | done a => exact ⟨rfl, h⟩
  | fail e => exact ⟨rfl, h⟩
  | step s next ih =>
    have hexecute := Channel.execute_of_broken h s
    rw [run]
    generalize c.execute s = answer at *
    obtain ⟨r, c'⟩ := answer
    cases hexecute
    exact ih r rfl

/-! ### Giving the connection back -/

/-- An abandoned transaction is rolled back when the connection is given back, or else the
connection is closed. -/
theorem Pool.release_abandoned {c : Channel σ} (h : c.Prepared) (p : Pool σ) :
    ∃ sent, (p.release c.abandon).wire.log = c.wire.log ++ sent ∧
      (∀ e ∈ sent, e.statement.Aside ∨ e.statement = .simple "ROLLBACK") ∧
        ((p.release c.abandon).idle = none ∨ ∀ before, isOpen before sent = false) := by
  obtain ⟨w, depth, queue, alive⟩ := c
  cases h.depth
  have hrelease : (p.release (Channel.abandon ⟨w, 1, queue, alive⟩)) =
      p.release ⟨w, 0, queue ++ ["ROLLBACK"], alive⟩ := rfl
  obtain ⟨sent, hlog, hsent, hall⟩ :=
    Channel.sendAll_log (queue ++ ["ROLLBACK"]) (⟨w, 0, [], alive⟩ : Channel σ)
  rw [hrelease]
  refine ⟨sent, hlog, ?_, ?_⟩
  · intro e he
    obtain ⟨sql, hsql, heq⟩ := hsent e he
    rcases List.mem_append.1 hsql with hsql | hsql
    · exact .inl (heq ▸ h.aside sql hsql)
    · exact .inr (heq.trans (congrArg _ (List.mem_singleton.1 hsql)))
  · cases hfailure : (Channel.sendAll (queue ++ ["ROLLBACK"]) ⟨w, 0, [], alive⟩).1 with
    | some f =>
      left
      simp only [release, Channel.flush, hfailure]
      rfl
    | none =>
      -- every text was sent, the roll-back last of all
      obtain ⟨hstatements, hreplies⟩ := hall hfailure
      rw [List.map_append, List.map_eq_append_iff] at hstatements
      obtain ⟨first, last, rfl, -, hlast⟩ := hstatements
      obtain ⟨e, rfl, he⟩ := List.map_eq_singleton_iff.1 hlast
      have hreply := hreplies e (List.mem_append_right _ (List.mem_singleton_self e))
      right
      intro before
      rw [isOpen_append, isOpen_cons, isOpen_nil, Sent.opens, he, hreply]
      rfl

end KnowledgeBase
