import KnowledgeBase.Proofs.Connection.Stops
import KnowledgeBase.Proofs.Connection.Unread

/-!
# Losing the context of a tenant

The context of a tenant is set in a savepoint of its own, and a failure there is passed over.  What
such failures change is told by comparison.  A wavering server lets some of the statements about the
context fail and otherwise answers as a server behind it does, which never sees those statements.
An operation over the wavering server then comes to the same as the operation without any framing,
run over the server behind: so the failures are not noticed.

## Main definitions

* `Sql.Statement.role` — what a statement is to a wavering server.
* `Wavering` — a server with failures of the context in front of another server.
* `Wire.plain`, `Channel.plain`, `Pool.plain` — what the server behind sees of a connection.
* `Operation.unframed` — an operation whose transactions are only begun.

## Main results

* `Channel.setContext_plain` — setting the context is not seen, whether it fails or not.
* `Operation.run_plain` — an operation comes to what it comes to without its frames.
* `Operation.sent_plain` — and sends what it sends then.
-/

namespace KnowledgeBase

open Sql

/-! ### A server that wavers -/

namespace Sql.Statement

/-- What a statement is to a wavering server. -/
inductive Role where
  /-- Opens or releases the savepoint of the context, or sets the context. -/
  | context
  /-- Commits or rolls back. -/
  | ending
  /-- Anything else. -/
  | plain
deriving DecidableEq

/-- The texts about the savepoint of the context. -/
def contextTexts : List String := [Link.beginText 1, Link.commitText 1]

/-- The texts that commit or roll back. -/
def endingTexts : List String := [Link.commitText 0, Link.rollbackText 0, Link.rollbackText 1]

def role : Statement → Role
  | simple sql =>
    if sql ∈ contextTexts then .context else if sql ∈ endingTexts then .ending else .plain
  | prepared sql _ => if Script.setsContext sql then .context else .plain

theorem role_of_isData {s : Statement} (h : s.isData = true) : s.role = .plain := by
  cases s with
  | simple sql => cases h
  | prepared sql binds =>
    have hset : Script.setsContext sql = false := by simpa [isData] using h
    rw [role, hset]
    rfl

theorem role_begin : (simple (Link.beginText 0)).role = .plain := by decide

theorem role_context (tenant : String) (user : Option String) :
    (contextStatement tenant user).role = .context := by
  have hset := setsContext_context tenant user
  rw [contextStatement, sql] at hset
  rw [contextStatement, role, if_pos hset]

theorem role_searchPath (schema : String) :
    (simple (Schema.searchPath schema)).role = .plain := by
  have hcontext : Schema.searchPath schema ∉ contextTexts := by
    simp only [contextTexts, List.mem_cons, List.not_mem_nil, or_false, not_or]
    exact ⟨searchPath_ne _ _ (by decide), searchPath_ne _ _ (by decide)⟩
  have hending : Schema.searchPath schema ∉ endingTexts := by
    simp only [endingTexts, List.mem_cons, List.not_mem_nil, or_false, not_or]
    exact ⟨searchPath_ne _ _ (by decide), searchPath_ne _ _ (by decide),
      searchPath_ne _ _ (by decide)⟩
  rw [role, if_neg hcontext, if_neg hending]

end Sql.Statement

/-- A server behind which another one answers.  Statements about the context succeed or fail as
listed, and once the list is used up they succeed; what commits or rolls back always succeeds. -/
structure Wavering (σ : Type) where
  base : σ
  /-- The code and the message with which the coming statements about the context fail. -/
  failures : List (Option (String × String))

/-- The reply to a statement about the context, and the failures that are still to come. -/
def Wavering.turn : List (Option (String × String)) → Reply × List (Option (String × String))
  | [] => (.done 0, [])
  | none :: failures => (.done 0, failures)
  | some (code, message) :: failures => (.error code message, failures)

theorem Wavering.isLost_turn (failures : List (Option (String × String))) :
    (turn failures).1.isLost = false := by
  cases failures with
  | nil => rfl
  | cons failure failures =>
    cases failure with
    | none => rfl
    | some refusal => rfl

variable {σ α β : Type}

instance [Server σ] : Server (Wavering σ) where
  refusal? w := Server.refusal? w.base
  answer s w :=
    match s.role with
    | .plain =>
      let (reply, base) := Server.answer s w.base
      (reply, { w with base })
    | .ending => (.done 0, w)
    | .context =>
      let (reply, failures) := Wavering.turn w.failures
      (reply, { w with failures })

/-! ### What the server behind sees -/

/-- The server behind, with the statements that it answered. -/
def Wire.plain (w : Wire (Wavering σ)) : Wire σ :=
  ⟨w.server.base, w.log.filter fun e => e.statement.role = .plain⟩

/-- A connection as the server behind sees it: without transactions. -/
def Channel.plain (c : Channel (Wavering σ)) : Channel σ :=
  ⟨c.wire.plain, ⟨0, [], c.link.alive⟩⟩

/-- A pool as the server behind sees it. -/
def Pool.plain (p : Pool (Wavering σ)) : Pool σ where
  wire := p.wire.plain
  schema := p.schema
  attempts := p.attempts
  maxSize := p.maxSize
  idle := p.idle.map fun link => ⟨0, [], link.alive⟩
  closed := p.closed

/-- At most two levels are open, and nothing waits but their roll-backs. -/
structure Link.Clean (l : Link) : Prop where
  depth : l.depth ≤ 2
  queue : ∀ sql ∈ l.queue, (Statement.simple sql).role = .ending

namespace Link.Clean

theorem of_nil {l : Link} (hdepth : l.depth ≤ 2) (hqueue : l.queue = []) : l.Clean := by
  refine ⟨hdepth, ?_⟩
  rw [hqueue]
  exact nofun

theorem abandon {l : Link} (h : l.Clean) : l.abandon.Clean := by
  obtain ⟨depth, queue, alive⟩ := l
  have hdepth : depth ≤ 2 := h.depth
  cases depth with
  | zero => exact h
  | succ depth =>
    refine ⟨Nat.le_of_succ_le hdepth, ?_⟩
    intro sql hsql
    rcases List.mem_append.1 hsql with hsql | hsql
    · exact h.queue sql hsql
    · rw [List.mem_singleton.1 hsql]
      match depth, hdepth with
      | 0, _ => decide
      | 1, _ => decide

end Link.Clean

variable [Server σ]

/-! ### Statements -/

theorem Wire.send_plain {s : Statement} (hs : s.role = .plain) (w : Wire (Wavering σ)) :
    w.plain.send s = (w.send s).map id plain := by
  simp only [send, Server.answer, hs, plain, Prod.map, id_eq, List.filter_append]
  simp [hs]

/-- Statements about the context, and what commits or rolls back, do not reach the server behind. -/
theorem Wire.send_aside {s : Statement} (hs : s.role ≠ .plain) (w : Wire (Wavering σ)) :
    (w.send s).2.plain = w.plain ∧ (w.send s).1.isLost = false ∧
      (s.role = .ending → (w.send s).1.failure? = none) := by
  have hnone (r : Reply) : [(⟨s, r⟩ : Sent)].filter (fun e => e.statement.role = .plain) = [] := by
    simp [hs]
  cases hrole : s.role with
  | plain => exact absurd hrole hs
  | ending =>
    simp only [send, Server.answer, hrole, plain, List.filter_append]
    exact ⟨by rw [hnone, List.append_nil], rfl, fun _ => rfl⟩
  | context =>
    simp only [send, Server.answer, hrole, plain, List.filter_append]
    refine ⟨by rw [hnone, List.append_nil], Wavering.isLost_turn _, ?_⟩
    intro hending
    cases hending

namespace Channel

theorem send_plain {s : Statement} (hs : s.role = .plain) (c : Channel (Wavering σ)) :
    c.plain.send s = (c.send s).map id plain := by
  obtain ⟨w, depth, queue, alive⟩ := c
  cases alive with
  | false => rfl
  | true =>
    have hwire := Wire.send_plain hs w
    simp only [send, plain, if_true, hwire]
    rfl

/-- What is aside is not seen, and does not break the connection. -/
theorem send_aside {s : Statement} (hs : s.role ≠ .plain) (c : Channel (Wavering σ)) :
    (c.send s).2.plain = c.plain ∧
      (s.role = .ending → c.link.alive = true → (c.send s).1.failure? = none) := by
  obtain ⟨w, depth, queue, alive⟩ := c
  cases alive with
  | false => exact ⟨rfl, fun _ h => nomatch h⟩
  | true =>
    obtain ⟨hwire, hlost, hending⟩ := Wire.send_aside hs w
    simp only [send, plain, if_true, hwire, hlost]
    exact ⟨rfl, fun hrole _ => hending hrole⟩

theorem sendAll_plain {texts : List String}
    (h : ∀ sql ∈ texts, (Statement.simple sql).role = .ending) (c : Channel (Wavering σ)) :
    (sendAll texts c).2.plain = c.plain ∧
      (c.link.alive = true → (sendAll texts c).1 = none) := by
  induction texts generalizing c with
  | nil => exact ⟨rfl, fun _ => rfl⟩
  | cons sql rest ih =>
    obtain ⟨hsql, hrest⟩ := List.forall_mem_cons.1 h
    obtain ⟨hplain, hreply⟩ := send_aside (s := .simple sql) (by rw [hsql]; nofun) c
    obtain ⟨hplain', hreply'⟩ := ih hrest (c.send (.simple sql)).2
    refine ⟨hplain'.trans hplain, ?_⟩
    intro halive
    have hstands : (c.send (.simple sql)).2.link.alive = true := by
      have hsame := congrArg (fun c : Channel σ => c.link.alive) hplain
      exact hsame.trans halive
    rw [sendAll]
    simp only [hreply hsql halive, hreply' hstands, Option.or_none]

/-- Roll-backs that waited are not seen. -/
theorem flush_plain {c : Channel (Wavering σ)} (h : c.link.Clean) :
    c.flush.2.plain = c.plain ∧ (c.link.alive = true → c.flush.1 = none) :=
  sendAll_plain h.queue { c with link := { c.link with queue := [] } }

omit [Server σ] in
theorem fst_execute_of_broken [Server σ] {c : Channel σ} (h : c.link.alive = false)
    (s : Statement) : (c.execute s).1 = .error (.io "connection lost") := by
  obtain ⟨w, depth, queue, alive⟩ := c
  cases h
  cases queue with
  | nil => rfl
  | cons sql rest => rfl

/-- Handing a statement to the server behind is seen as it is. -/
theorem execute_plain {c : Channel (Wavering σ)} (h : c.link.Clean) {s : Statement}
    (hs : s.role = .plain) : c.plain.execute s = (c.execute s).map id plain := by
  cases halive : c.link.alive with
  | true =>
    have hbehind : c.plain.flush = (none, c.plain) := flush_of_queue_nil rfl
    obtain ⟨hplain, hnone⟩ := flush_plain h
    have hfailure := hnone halive
    rw [execute, execute, hbehind]
    generalize c.flush = flushed at *
    obtain ⟨failure, after⟩ := flushed
    simp only at hplain hfailure
    rw [hfailure, ← hplain]
    simp only [send_plain hs]
    rfl
  | false =>
    -- over a broken connection every statement fails alike, whatever waits there
    have hbehind : c.plain.link.alive = false := halive
    apply Prod.ext
    · exact (fst_execute_of_broken hbehind s).trans (fst_execute_of_broken halive s).symm
    · rw [execute_of_broken hbehind, Prod.map_snd, execute_of_broken halive]
      rw [plain, plain, halive]

/-- A statement that is aside is not seen. -/
theorem execute_aside {c : Channel (Wavering σ)} (h : c.link.Clean) {s : Statement}
    (hs : s.role ≠ .plain) : (c.execute s).2.plain = c.plain ∧
      (s.role = .ending → c.link.alive = true → ∃ r, (c.execute s).1 = .ok r) := by
  obtain ⟨hplain, hnone⟩ := flush_plain h
  rw [execute]
  generalize c.flush = flushed at *
  obtain ⟨failure | failure, after⟩ := flushed
  · obtain ⟨hsend, hreply⟩ := send_aside hs after
    simp only at hplain ⊢
    refine ⟨hsend.trans hplain, ?_⟩
    intro hrole halive
    have hstands : after.link.alive = true :=
      (congrArg (fun c : Channel σ => c.link.alive) hplain).trans halive
    rw [hreply hrole hstands]
    exact ⟨_, rfl⟩
  · refine ⟨hplain, ?_⟩
    intro _ halive
    cases hnone halive

/-! ### Levels -/

/-- Right after a statement was handed over nothing waits. -/
theorem execute_clean {c : Channel (Wavering σ)} (h : c.link.Clean) (s : Statement) :
    (c.execute s).2.link.Clean := by
  apply Link.Clean.of_nil
  · rw [depth_execute]
    exact h.depth
  · exact queue_execute s c

omit [Server σ] in
theorem abandon_plain (c : Channel (Wavering σ)) : c.abandon.plain = c.plain := by
  obtain ⟨w, depth, queue, alive⟩ := c
  cases depth with
  | zero => rfl
  | succ depth => rfl

omit [Server σ] in
theorem settle_plain {c : Channel σ} {x : Option Failure × Channel (Wavering σ)}
    (hplain : x.2.plain = c) (hclean : x.2.link.Clean) :
    (settle x).plain = c ∧ (settle x).link.Clean := by
  obtain ⟨failure | failure, after⟩ := x
  · exact ⟨hplain, hclean⟩
  · exact ⟨(abandon_plain after).trans hplain, hclean.abandon⟩

/-- Leaving a level is not seen, and on a connection that stands it succeeds if the statement ends
the transaction. -/
theorem leave_plain {c : Channel (Wavering σ)} (h : c.link.Clean) {text : Nat → String}
    (htext : ∀ depth < 2, (Statement.simple (text depth)).role ≠ .plain) :
    (c.leave text).2.plain = c.plain ∧ (c.leave text).2.link.Clean ∧
      ((Statement.simple (text 0)).role = .ending → c.link.depth ≤ 1 → c.link.alive = true →
        (c.leave text).1 = none) := by
  have hdepth := h.depth
  rw [leave]
  cases hlevels : c.link.depth with
  | zero => exact ⟨rfl, h, fun _ _ _ => rfl⟩
  | succ depth =>
    obtain ⟨hplain, hends⟩ := execute_aside h (htext depth (by omega))
    have hclean := execute_clean h (.simple (text depth))
    simp only
    generalize c.execute (.simple (text depth)) = answer at *
    obtain ⟨failure | reply, after⟩ := answer
    · refine ⟨hplain, hclean, ?_⟩
      intro hrole hlow halive
      have hzero : depth = 0 := by omega
      rw [hzero] at hends
      obtain ⟨r, hr⟩ := hends hrole halive
      cases hr
    · refine ⟨hplain, ⟨?_, hclean.queue⟩, fun _ _ _ => rfl⟩
      change depth ≤ 2
      omega

theorem commit_plain {c : Channel (Wavering σ)} (h : c.link.Clean) :
    c.commit.2.plain = c.plain ∧ c.commit.2.link.Clean ∧
      (c.link.depth ≤ 1 → c.link.alive = true → c.commit.1 = none) := by
  have htext : ∀ depth < 2, (Statement.simple (Link.commitText depth)).role ≠ .plain := by decide
  obtain ⟨hplain, hclean, hnone⟩ := leave_plain h htext
  exact ⟨hplain, hclean, hnone (by decide)⟩

theorem rollback_plain {c : Channel (Wavering σ)} (h : c.link.Clean) :
    c.rollback.2.plain = c.plain ∧ c.rollback.2.link.Clean ∧
      (c.link.depth ≤ 1 → c.link.alive = true → c.rollback.1 = none) := by
  have htext : ∀ depth < 2, (Statement.simple (Link.rollbackText depth)).role ≠ .plain := by decide
  obtain ⟨hplain, hclean, hnone⟩ := leave_plain h htext
  exact ⟨hplain, hclean, hnone (by decide)⟩

/-- **Setting the context is not seen**, whichever statement of it fails. -/
theorem setContext_plain {c : Channel (Wavering σ)} (hdepth : c.link.depth = 1)
    (h : c.link.Clean) (tenant : String) (user : Option String) :
    (c.setContext tenant user).plain = c.plain ∧ (c.setContext tenant user).link.Clean := by
  have hopening : (Statement.simple (Link.beginText c.link.depth)).role ≠ .plain := by
    rw [hdepth]
    decide
  obtain ⟨hopened, -⟩ := execute_aside h hopening
  have hclean := execute_clean h (.simple (Link.beginText c.link.depth))
  rw [setContext, enter]
  generalize c.execute (.simple (Link.beginText c.link.depth)) = answer at *
  obtain ⟨failure | reply, after⟩ := answer
  · -- the savepoint was refused, and the transaction is given up with it
    exact ⟨(abandon_plain after).trans hopened, hclean.abandon⟩
  · have hclean' : (after.atDepth (c.link.depth + 1)).link.Clean :=
      ⟨Nat.le_of_eq (congrArg (· + 1) hdepth), hclean.queue⟩
    have hcontext : (contextStatement tenant user).role ≠ .plain := by
      rw [Statement.role_context]
      decide
    obtain ⟨hset, -⟩ := execute_aside hclean' hcontext
    have hsetClean := execute_clean hclean' (contextStatement tenant user)
    have hbefore : (after.atDepth (c.link.depth + 1)).plain = c.plain := hopened
    simp only
    generalize (after.atDepth (c.link.depth + 1)).execute (contextStatement tenant user) =
      answer at *
    obtain ⟨failure | reply, last⟩ := answer
    · obtain ⟨hplain, hclean, -⟩ := rollback_plain hsetClean
      exact settle_plain (hplain.trans (hset.trans hbefore)) hclean
    · obtain ⟨hplain, hclean, -⟩ := commit_plain hsetClean
      exact settle_plain (hplain.trans (hset.trans hbefore)) hclean

/-- Ending a transaction on a connection that stands is not seen, and succeeds. -/
theorem finish_plain {c : Channel (Wavering σ)} (h : c.link.Clean) (hdepth : c.link.depth ≤ 1)
    (halive : c.link.alive = true) (ending : Ending) :
    (c.finish ending).1 = none ∧ (c.finish ending).2.plain = c.plain ∧
      (c.finish ending).2.link.Clean := by
  cases ending with
  | commit =>
    obtain ⟨hplain, hclean, hnone⟩ := commit_plain h
    exact ⟨hnone hdepth halive, hplain, hclean⟩
  | rollback =>
    obtain ⟨hplain, hclean, hnone⟩ := rollback_plain h
    exact ⟨hnone hdepth halive, hplain, hclean⟩
  | abandon => exact ⟨rfl, abandon_plain c, h.abandon⟩

end Channel

/-! ### Work -/

/-- A program whose statements go to the server behind is seen as it is. -/
theorem Work.run_plain {w : Work α} (hw : w.Sends fun s => s.role = .plain)
    {c : Channel (Wavering σ)} (h : c.link.Clean) :
    w.run c.plain = (w.run c).map id Channel.plain ∧ (w.run c).2.link.Clean := by
  induction hw generalizing c with
  | done a => exact ⟨rfl, h⟩
  | fail e => exact ⟨rfl, h⟩
  | @step s next head _ ih =>
    rw [run, run, Channel.execute_plain h head]
    exact ih _ (Channel.execute_clean h s)

/-- A program that stops at the first failure succeeds only over a connection that stands. -/
theorem Work.Stops.alive_of_ok {label : Statement → Failure → StoreError → Prop} {w : Work α}
    (hw : w.Stops (fun _ => False) label) {c : Channel σ} (h : c.link.alive = true) {a : α}
    (hok : (w.run c).1 = .ok a) : (w.run c).2.link.alive = true := by
  induction hw generalizing c with
  | done a => exact h
  | fail e => cases hok
  | @hard s next failed _ ih =>
    have hexecuted := Channel.executed (P := fun _ => True) (c := c) (fun _ _ => trivial) s
    rw [run] at hok ⊢
    generalize c.execute s = answer at *
    obtain ⟨failure | reply, after⟩ := answer
    · obtain ⟨e, hnext, -⟩ := failed failure
      simp only [hnext] at hok
      cases hok
    · cases hexecuted
      exact ih reply rfl hok
  | soft hsoft => exact hsoft.elim

/-- A program in a transaction that is only begun; without a transaction, the program itself. -/
def Frame.unframed (w : Work α) : Frame → Work α
  | .bare => w
  | .tenant _ _ _ => do
    let _ ← Work.send (.simple (Link.beginText 0))
    w

namespace Channel

variable {label : Statement → Failure → StoreError → Prop} {w : Work α}

/-- The end of framed work is not seen, and nothing of it fails. -/
theorem conclude_plain {done : Except StoreError α × Channel (Wavering σ)}
    (h : done.2.link.Clean) (hdepth : done.2.link.depth ≤ 1)
    (halive : ∀ {a : α}, done.1 = .ok a → done.2.link.alive = true) (ending : Ending) :
    (conclude ending done).map id plain = done.map id plain ∧
      (conclude ending done).2.link.Clean := by
  obtain ⟨e | a, c⟩ := done
  · exact ⟨Prod.ext rfl (abandon_plain c), Link.Clean.abandon h⟩
  · obtain ⟨hnone, hfinish, hclean⟩ := finish_plain h hdepth (halive rfl) ending
    rw [conclude]
    generalize c.finish ending = finished at *
    obtain ⟨failure, last⟩ := finished
    cases hnone
    exact ⟨Prod.ext rfl hfinish, hclean⟩

/-- Work in a transaction is seen as it is, whatever becomes of the context. -/
theorem transaction_plain (hsends : w.Sends fun s => s.role = .plain)
    (hstops : w.Stops (fun _ => False) label) {c : Channel (Wavering σ)}
    (hdepth : c.link.depth = 1) (h : c.link.Clean) (halive : c.link.alive = true) (tenant : String)
    (user : Option String) (ending : Ending) :
    w.run c.plain = (conclude ending (w.run (c.setContext tenant user))).map id plain ∧
      (conclude ending (w.run (c.setContext tenant user))).2.link.Clean := by
  obtain ⟨hsame, hclean⟩ := setContext_plain hdepth h tenant user
  -- when the savepoint was refused, the level of the transaction is gone too
  have hlow := depth_setContext_le hdepth tenant user
  have hstands : (c.setContext tenant user).link.alive = true :=
    (congrArg (fun c : Channel σ => c.link.alive) hsame).trans halive
  obtain ⟨hrun, hrunClean⟩ := Work.run_plain hsends hclean
  have hlevels : (w.run (c.setContext tenant user)).2.link.depth ≤ 1 := by
    rw [w.depth_run]
    exact hlow
  obtain ⟨hplain, hcleanEnd⟩ :=
    conclude_plain hrunClean hlevels (fun hok => hstops.alive_of_ok hstands hok) ending
  refine ⟨?_, hcleanEnd⟩
  rw [hplain, ← hrun, hsame]

/-- **Framed work is seen as work in a transaction that is only begun.**  Whatever becomes of the
context, and so of the transaction, the work goes on, and nothing of its own fails at the end. -/
theorem perform_plain (hsends : w.Sends fun s => s.role = .plain)
    (hstops : w.Stops (fun _ => False) label) (frame : Frame) {c : Channel (Wavering σ)}
    (hdepth : c.link.depth = 0) (h : c.link.Clean) :
    (frame.unframed w).run c.plain = (c.perform w frame).map id plain ∧
      (c.perform w frame).2.link.Clean := by
  cases frame with
  | bare => exact Work.run_plain hsends h
  | tenant tenant user ending =>
    have hbegin := execute_plain h Statement.role_begin
    have hclean := execute_clean h (.simple (Link.beginText 0))
    have hexecuted := executed (P := fun _ => True) (c := c) (fun _ _ => trivial)
      (.simple (Link.beginText 0))
    rw [Frame.unframed, Work.send, Work.step_bind, Work.run, hbegin, perform_tenant, enter, hdepth]
    generalize c.execute (.simple (Link.beginText 0)) = answer at *
    obtain ⟨failure | reply, begun⟩ := answer
    · -- neither run gets to the work
      exact ⟨Prod.ext rfl (abandon_plain begun).symm, hclean.abandon⟩
    · have hstands : begun.link.alive = true := by
        cases hexecuted
        rfl
      have hopened : (begun.atDepth (0 + 1)).link.Clean := ⟨Nat.le_succ 1, hclean.queue⟩
      exact transaction_plain hsends hstops rfl hopened hstands tenant user ending

end Channel

/-! ### Pools -/

theorem Wire.connect_plain (schema : String) (attempts : Nat) (w : Wire (Wavering σ)) :
    w.plain.connect schema attempts = (w.connect schema attempts).map id plain := by
  induction attempts generalizing w with
  | zero => rfl
  | succ n ih =>
    have hrefusal : Server.refusal? w.plain.server = Server.refusal? w.server := rfl
    rw [connect, connect, hrefusal]
    cases Server.refusal? w.server with
    | some refusal =>
      obtain ⟨code, message⟩ := refusal
      simp only
      split
      · exact ih w
      · rfl
    | none =>
      simp only [send_plain (Statement.role_searchPath schema), Prod.map, id_eq]
      split
      · rfl
      · exact ih _

namespace Pool

theorem acquire_plain (p : Pool (Wavering σ)) :
    p.plain.acquire = p.acquire.map (Except.map Channel.plain) plain := by
  have hclosed : p.plain.closed = p.closed := rfl
  have hidle : p.plain.idle = p.idle.map fun link => ⟨0, [], link.alive⟩ := rfl
  have hwire : p.plain.wire = p.wire.plain := rfl
  have hschema : p.plain.schema = p.schema := rfl
  have hattempts : p.plain.attempts = p.attempts := rfl
  have hfresh := @connect_eq_fresh _ _ p.schema p.attempts p.wire
  rw [acquire, acquire, hclosed, hidle, hwire, hschema, hattempts, Wire.connect_plain]
  split
  · rfl
  · cases hkept : p.idle with
    | some link => rfl
    | none =>
      generalize p.wire.connect p.schema p.attempts = connected at *
      obtain ⟨failure | link, w⟩ := connected
      · simp [Prod.map, Except.map, plain, hkept]
      · cases hfresh rfl
        simp [Prod.map, Except.map, plain, Channel.plain, Link.fresh, hkept]

/-- A connection on which no level is open is kept or closed as the server behind sees it. -/
theorem release_plain {c : Channel (Wavering σ)} (hdepth : c.link.depth = 0) (h : c.link.Clean)
    (p : Pool (Wavering σ)) : p.plain.release c.plain = (p.release c).plain := by
  obtain ⟨hplain, hnone⟩ := Channel.flush_plain h
  have hlevel := Channel.depth_flush c
  have hqueue := Channel.queue_flush c
  have hwire : c.flush.2.wire.plain = c.wire.plain :=
    congrArg (fun c : Channel σ => c.wire) hplain
  have hstands : c.flush.2.link.alive = c.link.alive :=
    congrArg (fun c : Channel σ => c.link.alive) hplain
  rw [release_of_queue_nil rfl, release]
  generalize c.flush = flushed at *
  obtain ⟨failure, w, depth, queue, alive⟩ := flushed
  simp only at hnone hlevel hqueue hwire hstands
  cases halive : c.link.alive with
  | true =>
    rw [halive] at hnone hstands
    rw [hnone rfl, hstands, hlevel, hdepth, hqueue]
    simp only [plain, Channel.plain, halive, hwire]
    rfl
  | false =>
    rw [halive] at hstands
    rw [hstands]
    simp only [plain, Channel.plain, halive, hwire, Bool.and_false]
    rfl

theorem perform_plain {label : Statement → Failure → StoreError → Prop} {w : Work α}
    (hsends : w.Sends fun s => s.role = .plain) (hstops : w.Stops (fun _ => False) label)
    (frame : Frame) {p : Pool (Wavering σ)} (h : p.AtRest) :
    p.plain.perform .bare (frame.unframed w) = (p.perform frame w).map id plain := by
  have hacquired := h.acquired (P := fun _ => True) trivial
  rw [perform, perform, acquire_plain]
  generalize p.acquire = acquired at *
  cases hacquired with
  | refused f _ _ => rfl
  | @given w' p' _ =>
    obtain ⟨hperform, hclean⟩ := Channel.perform_plain hsends hstops frame
      (c := ⟨w', .fresh⟩) rfl (.of_nil (Nat.zero_le _) rfl)
    have hdepth := Channel.depth_perform (c := ⟨w', .fresh⟩) rfl w frame
    have hbare (v : Work α) (c : Channel σ) : c.perform v .bare = v.run c := rfl
    simp only [Prod.map, Except.map, hbare, hperform, id_eq]
    rw [release_plain hdepth hclean]

end Pool

/-! ### Operations -/

/-- An operation whose transactions are only begun, without context and without end. -/
def Operation.unframed : Operation α → Operation α
  | .done a => .done a
  | .fail e => .fail e
  | .within frame work next => .within .bare (frame.unframed work) fun b => (next b).unframed

namespace Operation

variable {F : Frame → Prop} {label : Statement → Failure → StoreError → Prop} {o : Operation α}

/-- **An operation over a wavering server comes to what it comes to without its frames** over the
server behind. -/
theorem run_plain (hsends : o.Sends F fun s => s.role = .plain)
    (hstops : o.Stops (fun _ => False) label) {p : Pool (Wavering σ)} (h : p.AtRest) :
    o.unframed.run p.plain = (o.run p).map id Pool.plain := by
  induction hsends generalizing p with
  | done a => rfl
  | fail e => rfl
  | @within _ frame work next _ hwork _ ih =>
    cases hstops with
    | within _ hstops htail =>
      have hrest := h.perform frame work
      rw [unframed, run, run, Pool.perform_plain hwork hstops frame h]
      generalize p.perform frame work = performed at *
      obtain ⟨e | b, p'⟩ := performed
      · rfl
      · exact ih b (htail b) hrest

/-- What reaches the server behind is what is sent without the frames. -/
theorem sent_plain (hsends : o.Sends F fun s => s.role = .plain)
    (hstops : o.Stops (fun _ => False) label) {p : Pool (Wavering σ)} (h : p.AtRest) :
    (o.sent p).filter (fun e => e.statement.role = .plain) = o.unframed.sent p.plain := by
  symm
  apply sent_eq
  rw [run_plain hsends hstops h]
  change (o.run p).2.wire.log.filter _ = p.wire.log.filter _ ++ _
  rw [o.log_run, List.filter_append]

end Operation

end KnowledgeBase
