import KnowledgeBase.Proofs.Connection.Atomicity
import KnowledgeBase.Proofs.Connection.Overhead

/-!
# Every transaction that is opened is ended

The record of a connection is read without the driver's count of levels.  It is in order when no
transaction is opened inside another and the last one that was opened has come to its end.  What the
driver counts and what it leaves waiting is enough to keep the record in order: while the record
shows an open transaction, either a level is open that will be left, or a roll-back waits.

## Main definitions

* `Sql.Sent.Begins`, `Sql.Sent.Ends` — entries that open a transaction and that end one.
* `Sql.Balanced` — every transaction is ended before the next one is begun.
* `Sql.LeftOpen`, `Sql.Apart` — the two halves of it, which grow with the record.
* `Channel.Tidy` — an open transaction has a level or a roll-back that will end it.

## Main results

* `Channel.Tidy.perform` — framed work keeps a connection tidy.
* `Operation.Sends.unopened` — so an operation that begins no transaction of its own leaves none
  open.
-/

namespace KnowledgeBase

open Sql

/-! ### Reading the record -/

namespace Sql

namespace Sent

/-- A transaction is opened. -/
def Begins (e : Sent) : Prop := e.statement = .simple "BEGIN" ∧ e.reply.failure? = none

/-- A transaction that was open is over: it was committed, a roll-back was sent, or the connection
broke. -/
def Ends (e : Sent) : Prop :=
  e.Commits ∨ e.statement = .simple "ROLLBACK" ∨ e.reply.isLost = true

end Sent

/-- Every transaction that was opened was ended before the next attempt to open one. -/
def Balanced (log : List Sent) : Prop :=
  ∀ before e after, log = before ++ e :: after → e.Begins →
    ∃ inside last rest, after = inside ++ last :: rest ∧ last.Ends ∧
      ∀ f ∈ inside ++ [last], f.statement ≠ .simple "BEGIN"

/-- A transaction was opened that has not been ended. -/
def LeftOpen (log : List Sent) : Prop :=
  ∃ before e after, log = before ++ e :: after ∧ e.Begins ∧ ∀ f ∈ after, ¬ f.Ends

/-- No attempt was made to open a transaction inside another. -/
def Apart (log : List Sent) : Prop :=
  ∀ before e after, log = before ++ e :: after → e.statement = .simple "BEGIN" → ¬ LeftOpen before

theorem not_leftOpen_nil : ¬ LeftOpen [] := by
  rintro ⟨before, e, after, heq, -⟩
  simp at heq

theorem apart_nil : Apart [] := by
  intro before e after heq
  simp at heq

/-- An entry of a record with one more entry is the last one, or stands before it. -/
theorem split_concat {log before after : List Sent} {last e : Sent}
    (h : log ++ [last] = before ++ e :: after) :
    before = log ∧ e = last ∨ ∃ inside, log = before ++ e :: inside ∧ after = inside ++ [last] := by
  rcases List.eq_nil_or_concat after with rfl | ⟨inside, last', rfl⟩
  · obtain ⟨hlog, hsame⟩ := List.append_inj' h rfl
    exact .inl ⟨hlog.symm, (List.singleton_inj.1 hsame).symm⟩
  · have h' : log ++ [last] = (before ++ e :: inside) ++ [last'] := by simpa using h
    obtain ⟨hlog, hsame⟩ := List.append_inj' h' rfl
    rw [List.singleton_inj.1 hsame]
    exact .inr ⟨inside, hlog, List.concat_eq_append⟩

/-- After one more entry a transaction is open when that entry opened it, or when it was open and
the entry did not end it. -/
theorem LeftOpen.of_concat {log : List Sent} {last : Sent} (h : LeftOpen (log ++ [last])) :
    last.Begins ∨ LeftOpen log ∧ ¬ last.Ends := by
  obtain ⟨before, e, after, heq, hbegins, hafter⟩ := h
  rcases split_concat heq with ⟨-, rfl⟩ | ⟨inside, hlog, rfl⟩
  · exact .inl hbegins
  · have hinside : ∀ f ∈ inside, ¬ f.Ends := fun f hf => hafter f (List.mem_append_left _ hf)
    exact .inr ⟨⟨before, e, inside, hlog, hbegins, hinside⟩, hafter last (by simp)⟩

theorem Apart.concat {log : List Sent} (h : Apart log) {last : Sent}
    (hlast : last.statement = .simple "BEGIN" → ¬ LeftOpen log) : Apart (log ++ [last]) := by
  intro before e after heq hbegin
  rcases split_concat heq with ⟨rfl, rfl⟩ | ⟨inside, hlog, -⟩
  · exact hlast hbegin
  · exact h before e inside hlog hbegin

/-- **A record is balanced** when no transaction was opened inside another and none is left open. -/
theorem Apart.balanced {log : List Sent} (hapart : Apart log) (hended : ¬ LeftOpen log) :
    Balanced log := by
  classical
  intro before e after heq hbegins
  -- the transaction is ended by the first entry after the opening that ends any
  cases hfind : after.find? (fun f => decide f.Ends) with
  | none =>
    exfalso
    apply hended
    refine ⟨before, e, after, heq, hbegins, ?_⟩
    intro f hf
    simpa using List.find?_eq_none.1 hfind f hf
  | some last =>
    obtain ⟨hlast, inside, rest, hafter, hinside⟩ := List.find?_eq_some_iff_append.1 hfind
    refine ⟨inside, last, rest, hafter, of_decide_eq_true hlast, ?_⟩
    intro f hf hbegin
    obtain ⟨first, later, hsplit⟩ := List.append_of_mem hf
    have hfirst : first ⊆ inside := by
      rcases split_concat hsplit with ⟨rfl, -⟩ | ⟨later', rfl, -⟩
      · exact List.Subset.refl _
      · exact List.subset_append_left _ _
    -- until then it is open, so no other one is opened
    have hopen : LeftOpen (before ++ e :: first) := by
      refine ⟨before, e, first, rfl, hbegins, ?_⟩
      intro g hg
      simpa using hinside g (hfirst hg)
    apply hapart (before ++ e :: first) f (later ++ rest) _ hbegin hopen
    have hwhole : inside ++ last :: rest = first ++ f :: later ++ rest := by
      rw [← hsplit, List.append_assoc, List.singleton_append]
    rw [heq, hafter, hwhole]
    simp

/-- Statements that open no transaction leave the record in order. -/
theorem Apart.append {log sent : List Sent} (hapart : Apart log) (hended : ¬ LeftOpen log)
    (h : ∀ e ∈ sent, e.statement ≠ .simple "BEGIN") :
    Apart (log ++ sent) ∧ ¬ LeftOpen (log ++ sent) := by
  induction sent generalizing log with
  | nil => simpa using ⟨hapart, hended⟩
  | cons e rest ih =>
    obtain ⟨he, hrest⟩ := List.forall_mem_cons.1 h
    rw [← List.singleton_append, ← List.append_assoc]
    apply ih (hapart.concat fun hbegin => absurd hbegin he) _ hrest
    intro hopen
    rcases hopen.of_concat with hbegins | ⟨hbefore, -⟩
    · exact he hbegins.1
    · exact hended hbefore

end Sql

/-! ### The texts of levels -/

namespace Link

theorem beginText_eq_iff (depth : Nat) : beginText depth = "BEGIN" ↔ depth = 0 := by
  cases depth with
  | zero => simp [beginText]
  | succ depth =>
    simp only [beginText, Nat.add_one_ne_zero, iff_false]
    intro h
    have hfirst := congrArg (fun sql => sql.toList.head?) h
    simp at hfirst

theorem commitText_ne_begin (depth : Nat) : commitText depth ≠ "BEGIN" := by
  cases depth with
  | zero => decide
  | succ depth =>
    intro h
    have hfirst := congrArg (fun sql => sql.toList.head?) h
    simp [commitText] at hfirst

theorem rollbackText_ne_begin (depth : Nat) : rollbackText depth ≠ "BEGIN" := by
  cases depth with
  | zero => decide
  | succ depth =>
    intro h
    have hfirst := congrArg (fun sql => sql.toList.head?) h
    simp [rollbackText] at hfirst

end Link

/-! ### A connection in use -/

variable {σ α : Type}

/-- No transaction was opened inside another, and while one is open the connection stands and will
end it: a level is open, or the roll-back of the transaction waits. -/
structure Channel.Tidy (c : Channel σ) : Prop where
  waits : c.link.Waits
  apart : Apart c.wire.log
  alive : LeftOpen c.wire.log → c.link.alive = true
  held : LeftOpen c.wire.log → 0 < c.link.depth ∨ "ROLLBACK" ∈ c.link.queue

namespace Channel

/-- A connection that is as good as new is tidy when no transaction is open. -/
theorem Tidy.fresh {w : Wire σ} (hapart : Apart w.log) (hended : ¬ LeftOpen w.log) :
    Tidy ⟨w, .fresh⟩ :=
  ⟨.of_nil rfl, hapart, fun _ => rfl, fun hopen => absurd hopen hended⟩

theorem Tidy.abandon {c : Channel σ} (h : c.Tidy) : c.abandon.Tidy := by
  obtain ⟨w, depth, queue, alive⟩ := c
  cases depth with
  | zero => exact h
  | succ depth =>
    refine ⟨h.waits.abandon, h.apart, h.alive, ?_⟩
    intro _
    cases depth with
    | zero => exact .inr (List.mem_append_right _ (List.mem_singleton_self _))
    | succ depth => exact .inl (Nat.succ_pos _)

theorem Tidy.settle {x : Option Failure × Channel σ} (h : x.2.Tidy) : (settle x).Tidy := by
  obtain ⟨failure | failure, c⟩ := x
  · exact h
  · exact h.abandon

variable [Server σ]

/-- A statement sent over a connection that stands while a transaction is open.  A transaction that
is open afterwards was opened by it, or was open before and is not ended by it. -/
theorem send_tidy {c : Channel σ} {s : Statement} (hapart : Apart c.wire.log)
    (halive : LeftOpen c.wire.log → c.link.alive = true)
    (hs : s = .simple "BEGIN" → ¬ LeftOpen c.wire.log) :
    Apart (c.send s).2.wire.log ∧ (LeftOpen (c.send s).2.wire.log →
      (c.send s).2.link.alive = true ∧
        ((s = .simple "BEGIN" ∧ (c.send s).1.failure? = none) ∨
          LeftOpen c.wire.log ∧ s ≠ .simple "ROLLBACK" ∧
            (s = .simple "COMMIT" → (c.send s).1.failure? ≠ none))) := by
  cases hstands : c.link.alive with
  | false =>
    rw [send_of_broken hstands]
    refine ⟨hapart, ?_⟩
    intro hopen
    have htrue := halive hopen
    rw [hstands] at htrue
    cases htrue
  | true =>
    obtain ⟨r, w, hsend, hlog⟩ := send_of_alive hstands s
    rw [hsend]
    simp only [hlog]
    refine ⟨hapart.concat hs, ?_⟩
    intro hopen
    rcases hopen.of_concat with ⟨hbegin, hreply⟩ | ⟨hbefore, hends⟩
    · rw [Reply.isLost_of_failure? hreply]
      exact ⟨rfl, .inl ⟨hbegin, hreply⟩⟩
    · refine ⟨?_, .inr ⟨hbefore, ?_, ?_⟩⟩
      · cases hlost : r.isLost with
        | false => rfl
        | true => exact absurd (.inr (.inr hlost)) hends
      · intro hrollback
        exact hends (.inr (.inl hrollback))
      · intro hcommit hreply
        exact hends (.inl ⟨hcommit, hreply⟩)

/-- A transaction that is open after some texts was open before, and none of them ended it. -/
theorem sendAll_tidy {texts : List String} {c : Channel σ} (hapart : Apart c.wire.log)
    (halive : LeftOpen c.wire.log → c.link.alive = true) (hbegin : "BEGIN" ∉ texts) :
    Apart (sendAll texts c).2.wire.log ∧ (LeftOpen (sendAll texts c).2.wire.log →
      (sendAll texts c).2.link.alive = true ∧ LeftOpen c.wire.log ∧ "ROLLBACK" ∉ texts) := by
  induction texts generalizing c with
  | nil => exact ⟨hapart, fun hopen => ⟨halive hopen, hopen, List.not_mem_nil⟩⟩
  | cons sql rest ih =>
    have hsql : (Statement.simple sql) ≠ .simple "BEGIN" := by
      intro h
      injection h with h
      exact hbegin (h ▸ List.mem_cons_self)
    obtain ⟨hapart', hopen'⟩ := send_tidy hapart halive fun h => absurd h hsql
    have hbefore : LeftOpen (c.send (.simple sql)).2.wire.log →
        LeftOpen c.wire.log ∧ sql ≠ "ROLLBACK" := by
      intro hopen
      rcases (hopen' hopen).2 with ⟨h, -⟩ | ⟨hopen, hrollback, -⟩
      · exact absurd h hsql
      · exact ⟨hopen, fun h => hrollback (congrArg _ h)⟩
    obtain ⟨hrest, hopenRest⟩ := ih hapart' (fun hopen => (hopen' hopen).1)
      fun h => hbegin (List.mem_cons_of_mem _ h)
    refine ⟨hrest, ?_⟩
    intro hopen
    obtain ⟨hstands, hmiddle, hnot⟩ := hopenRest hopen
    obtain ⟨hfirst, hrollback⟩ := hbefore hmiddle
    refine ⟨hstands, hfirst, ?_⟩
    intro hmem
    rcases List.mem_cons.1 hmem with heq | hmem
    · exact hrollback heq.symm
    · exact hnot hmem

/-- Once nothing waits any more, an open transaction has a level. -/
theorem Tidy.flush {c : Channel σ} (h : c.Tidy) : c.flush.2.Tidy := by
  have hbegin : "BEGIN" ∉ c.link.queue := by
    intro hmem
    obtain ⟨depth, hdepth⟩ := h.waits _ hmem
    exact Link.rollbackText_ne_begin depth hdepth.symm
  obtain ⟨hapart, hopen⟩ := sendAll_tidy (c := { c with link := { c.link with queue := [] } })
    h.apart h.alive hbegin
  refine ⟨.of_nil (queue_flush c), hapart, fun hleft => (hopen hleft).1, ?_⟩
  intro hleft
  obtain ⟨-, hbefore, hrollback⟩ := hopen hleft
  rw [depth_flush]
  exact .inl ((h.held hbefore).resolve_right hrollback)

/-- What the record tells once a statement has been handed over. -/
structure Handed (c : Channel σ) (s : Statement) (x : Except Failure Reply × Channel σ) : Prop where
  apart : Apart x.2.wire.log
  alive : LeftOpen x.2.wire.log → x.2.link.alive = true
  held : LeftOpen x.2.wire.log → 0 < c.link.depth ∨ s = .simple "BEGIN" ∧ ∃ r, x.1 = .ok r
  ended : LeftOpen x.2.wire.log → s = .simple "COMMIT" ∨ s = .simple "ROLLBACK" →
    ∃ f, x.1 = .error f

theorem Tidy.handed {c : Channel σ} (h : c.Tidy) {s : Statement}
    (hs : s = .simple "BEGIN" → c.link.depth = 0) : c.Handed s (c.execute s) := by
  have hflush := h.flush
  have hdepth := depth_flush c
  have hqueue := queue_flush c
  rw [execute]
  generalize c.flush = flushed at *
  obtain ⟨failure, after⟩ := flushed
  simp only at hflush hdepth hqueue
  have hlevel : LeftOpen after.wire.log → 0 < c.link.depth := by
    intro hopen
    have hheld := hflush.held hopen
    rw [hdepth, hqueue] at hheld
    exact hheld.resolve_right List.not_mem_nil
  cases failure with
  | some f =>
    exact ⟨hflush.apart, hflush.alive, fun hopen => .inl (hlevel hopen), fun _ _ => ⟨f, rfl⟩⟩
  | none =>
    -- the outermost level is entered only where no transaction is open
    have hbegin : s = .simple "BEGIN" → ¬ LeftOpen after.wire.log := by
      intro heq hopen
      have hpos := hlevel hopen
      have hzero := hs heq
      omega
    obtain ⟨hapart, hopen⟩ := send_tidy hflush.apart hflush.alive hbegin
    simp only
    generalize after.send s = answer at *
    obtain ⟨r, last⟩ := answer
    simp only at hopen ⊢
    refine ⟨hapart, fun hleft => (hopen hleft).1, ?_, ?_⟩
    · intro hleft
      rcases (hopen hleft).2 with ⟨heq, hreply⟩ | ⟨hbefore, -⟩
      · refine .inr ⟨heq, r, ?_⟩
        rw [hreply]
        rfl
      · exact .inl (hlevel hbefore)
    · intro hleft hend
      rcases (hopen hleft).2 with ⟨heq, -⟩ | ⟨-, hrollback, hcommit⟩
      · rw [heq] at hend
        simp at hend
      · have hfailed := hcommit (hend.resolve_right hrollback)
        obtain ⟨f, hf⟩ := Option.ne_none_iff_exists'.1 hfailed
        rw [hf]
        exact ⟨f, rfl⟩

/-- A statement that opens no transaction keeps a connection tidy. -/
theorem Tidy.execute {c : Channel σ} (h : c.Tidy) {s : Statement} (hs : s ≠ .simple "BEGIN") :
    (c.execute s).2.Tidy := by
  have hhanded := h.handed fun heq => absurd heq hs
  refine ⟨.of_nil (queue_execute s c), hhanded.apart, hhanded.alive, ?_⟩
  intro hopen
  rw [depth_execute]
  exact .inl ((hhanded.held hopen).resolve_right fun hbegin => hs hbegin.1)

/-- Opening a level keeps a connection tidy: `BEGIN` is sent only where no level is open. -/
theorem Tidy.enter {c : Channel σ} (h : c.Tidy) : c.enter.2.Tidy := by
  have hhanded := h.handed (s := .simple (Link.beginText c.link.depth)) (by
    intro heq
    injection heq with htext
    exact (Link.beginText_eq_iff _).1 htext)
  have hdepth := depth_execute (.simple (Link.beginText c.link.depth)) c
  have hqueue := queue_execute (.simple (Link.beginText c.link.depth)) c
  rw [Channel.enter]
  generalize c.execute (.simple (Link.beginText c.link.depth)) = answer at *
  obtain ⟨failure | reply, after⟩ := answer
  · -- what failed has opened nothing, so an open transaction has a level from before
    apply Tidy.abandon
    refine ⟨.of_nil hqueue, hhanded.apart, hhanded.alive, ?_⟩
    intro hopen
    simp only at hdepth ⊢
    rw [hdepth]
    rcases hhanded.held hopen with hpos | ⟨-, r, hok⟩
    · exact .inl hpos
    · cases hok
  · exact ⟨.of_nil hqueue, hhanded.apart, hhanded.alive, fun _ => .inl (Nat.succ_pos _)⟩

/-- Leaving a level by a statement keeps a connection tidy: once the outermost level is left, the
transaction is over. -/
theorem Tidy.leave {c : Channel σ} (h : c.Tidy) {text : Nat → String}
    (hbegin : ∀ depth, text depth ≠ "BEGIN") (hend : text 0 = "COMMIT" ∨ text 0 = "ROLLBACK") :
    (c.leave text).2.Tidy := by
  rw [Channel.leave]
  cases hlevels : c.link.depth with
  | zero => exact h
  | succ depth =>
    have hne : (Statement.simple (text depth)) ≠ .simple "BEGIN" := by
      intro heq
      injection heq with htext
      exact hbegin depth htext
    have hhanded := h.handed fun heq => absurd heq hne
    have htidy := h.execute hne
    simp only
    generalize c.execute (.simple (text depth)) = answer at *
    obtain ⟨failure | reply, after⟩ := answer
    · exact htidy
    · refine ⟨htidy.waits, htidy.apart, htidy.alive, ?_⟩
      intro hopen
      cases depth with
      | zero =>
        -- the statement that leaves the last level was answered, so nothing is open
        obtain ⟨f, hf⟩ := hhanded.ended hopen (hend.imp (congrArg _) (congrArg _))
        cases hf
      | succ depth => exact .inl (Nat.succ_pos _)

theorem Tidy.commit {c : Channel σ} (h : c.Tidy) : c.commit.2.Tidy :=
  h.leave Link.commitText_ne_begin (.inl rfl)

theorem Tidy.rollback {c : Channel σ} (h : c.Tidy) : c.rollback.2.Tidy :=
  h.leave Link.rollbackText_ne_begin (.inr rfl)

theorem Tidy.setContext {c : Channel σ} (h : c.Tidy) (tenant : String) (user : Option String) :
    (c.setContext tenant user).Tidy := by
  have henter := h.enter
  rw [Channel.setContext]
  generalize c.enter = entered at *
  obtain ⟨failure | failure, opened⟩ := entered
  · have hset : (opened.execute (contextStatement tenant user)).2.Tidy := by
      apply henter.execute
      intro hbegin
      cases hbegin
    simp only
    generalize opened.execute (contextStatement tenant user) = answer at *
    obtain ⟨failure | reply, after⟩ := answer
    · exact hset.rollback.settle
    · exact hset.commit.settle
  · exact henter

theorem Tidy.finish {c : Channel σ} (h : c.Tidy) (ending : Ending) : (c.finish ending).2.Tidy := by
  cases ending with
  | commit => exact h.commit
  | rollback => exact h.rollback
  | abandon => exact h.abandon

/-- A program that opens no transaction keeps a connection tidy. -/
theorem Tidy.run {c : Channel σ} (h : c.Tidy) {w : Work α}
    (hw : w.Sends fun s => s ≠ .simple "BEGIN") : (w.run c).2.Tidy := by
  induction hw generalizing c with
  | done a => exact h
  | fail e => exact h
  | step head _ ih => exact ih _ (h.execute head)

theorem Tidy.conclude {done : Except StoreError α × Channel σ} (h : done.2.Tidy)
    (ending : Ending) : (conclude ending done).2.Tidy := by
  obtain ⟨e | a, c⟩ := done
  · exact Tidy.abandon h
  · have hfinish : (c.finish ending).2.Tidy := Tidy.finish h ending
    rw [Channel.conclude]
    generalize c.finish ending = finished at *
    obtain ⟨failure | failure, last⟩ := finished
    · exact hfinish
    · exact hfinish.abandon

/-- **Framed work keeps a connection tidy**, whatever statement of it fails. -/
theorem Tidy.perform {c : Channel σ} (h : c.Tidy) {w : Work α}
    (hw : w.Sends fun s => s ≠ .simple "BEGIN") (frame : Frame) :
    (c.perform w frame).2.Tidy := by
  cases frame with
  | bare => exact h.run hw
  | tenant id user ending =>
    have henter := h.enter
    rw [perform_tenant]
    generalize c.enter = entered at *
    obtain ⟨failure | failure, opened⟩ := entered
    · exact ((henter.setContext id user).run hw).conclude ending
    · exact henter

end Channel

/-! ### Operations -/

variable [Server σ]

/-- The record of a pool is in order and no transaction is open. -/
structure Pool.Unopened (p : Pool σ) : Prop where
  apart : Apart p.wire.log
  ended : ¬ LeftOpen p.wire.log

/-- Giving back a connection that no level is open on ends what was open. -/
theorem Pool.release_unopened {c : Channel σ} (h : c.Tidy) (hdepth : c.link.depth = 0)
    (p : Pool σ) : (p.release c).Unopened := by
  have hflush := h.flush
  have hzero := Channel.depth_flush c
  have hqueue := Channel.queue_flush c
  refine ⟨hflush.apart, ?_⟩
  intro hopen
  rcases hflush.held hopen with hpos | hwaits
  · omega
  · rw [hqueue] at hwaits
    cases hwaits

theorem Pool.Unopened.perform {p : Pool σ} (h : p.Unopened) (hrest : p.AtRest) {w : Work α}
    (hw : w.Sends fun s => s ≠ .simple "BEGIN") (frame : Frame) :
    (p.perform frame w).2.Unopened := by
  have hpath : (Statement.simple (Schema.searchPath p.schema)) ≠ .simple "BEGIN" := by
    intro heq
    have hmark := (Statement.aside_searchPath p.schema).not_mark
    rw [heq] at hmark
    contradiction
  have hacquired := hrest.acquired (P := fun s => s ≠ .simple "BEGIN") hpath
  rw [Pool.perform]
  generalize p.acquire = acquired at *
  cases hacquired with
  | refused f hsent _ =>
    obtain ⟨sent, hlog, hsent⟩ := hsent
    obtain ⟨hapart, hended⟩ := h.apart.append h.ended hsent
    rw [← hlog] at hapart hended
    exact ⟨hapart, hended⟩
  | given hsent =>
    obtain ⟨sent, hlog, hsent⟩ := hsent
    obtain ⟨hapart, hended⟩ := h.apart.append h.ended hsent
    rw [← hlog] at hapart hended
    exact release_unopened ((Channel.Tidy.fresh hapart hended).perform hw frame)
      (Channel.depth_perform rfl w frame) _

/-- **An operation leaves no transaction open**, whatever its statements are answered, when it
begins none itself. -/
theorem Operation.Sends.unopened {F : Frame → Prop} {o : Operation α}
    (ho : o.Sends F fun s => s ≠ .simple "BEGIN") {p : Pool σ} (h : p.Unopened)
    (hrest : p.AtRest) : (o.run p).2.Unopened := by
  induction ho generalizing p with
  | done a => exact h
  | fail e => exact h
  | @within _ frame work next _ hwork _ ih =>
    have hperform := h.perform hrest hwork frame
    have hrest' := hrest.perform frame work
    rw [run]
    generalize p.perform frame work = performed at *
    obtain ⟨e | b, p'⟩ := performed
    · exact hperform
    · exact ih b hperform hrest'

end KnowledgeBase
