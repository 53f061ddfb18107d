import KnowledgeBase.Proofs.Connection.Transaction

/-!
# What operations make of the replies

Transactions and contexts can make an operation fail, but nothing else: what it answers is made of
the replies to its data statements.  So a run comes to an exchange of data statements and replies,
from which the answer is read off without a connection.

## Main definitions

* `Sql.data` — the data statements of a record.
* `Work.Exchange`, `Work.Framed`, `Operation.Exchange` — an answer of a program, of framed work and
  of an operation, and the data statements that it is made from.
* `Work.Follows` — a program that sends the statements of a list in order.

## Main results

* `Work.exchange` — every run of a program is an exchange.
* `Operation.exchange` — so is every run of an operation, over any pool and any server.
* `Operation.Exchange.of_bind` — an exchange of two operations is taken apart.
* `Work.Follows.statements_isPrefix` — a program that follows a list sends a beginning of it.
-/

namespace KnowledgeBase

open Sql

/-- The data statements of a record, with their replies. -/
def Sql.data (sent : List Sent) : List Sent := sent.filter fun e => e.statement.isData

@[simp] theorem Sql.data_append (sent sent' : List Sent) :
    data (sent ++ sent') = data sent ++ data sent' := List.filter_append ..

variable {σ α β : Type}

/-! ### Programs -/

/-- An answer of a program, and the statements that it is made from with their replies.  A statement
may fail before it is sent. -/
inductive Work.Exchange : Work α → List Sent → Except StoreError α → Prop where
  | done (a : α) : Exchange (.done a) [] (.ok a)
  | fail (e : StoreError) : Exchange (.fail e) [] (.error e)
  | unsent {s : Statement} {next : Except Failure Reply → Work α} {sent : List Sent}
    {answer : Except StoreError α} (f : Failure) (rest : Exchange (next (.error f)) sent answer) :
    Exchange (.step s next) sent answer
  | sent {s : Statement} {next : Except Failure Reply → Work α} {sent : List Sent}
    {answer : Except StoreError α} (r : Reply)
    (rest : Exchange (next (r.failure?.elim (.ok r) .error)) sent answer) :
    Exchange (.step s next) (⟨s, r⟩ :: sent) answer

namespace Work.Exchange

theorem sends {P : Statement → Prop} {w : Work α} {sent : List Sent} {answer : Except StoreError α}
    (h : w.Exchange sent answer) (hw : w.Sends P) : ∀ e ∈ sent, P e.statement := by
  induction h with
  | done a => exact List.forall_mem_nil _
  | fail e => exact List.forall_mem_nil _
  | unsent f _ ih =>
    cases hw with
    | step _ tail => exact ih (tail _)
  | sent r _ ih =>
    cases hw with
    | step head tail => exact List.forall_mem_cons.2 ⟨head, ih (tail _)⟩

/-- Rows are those of the one reply. -/
theorem of_rows {s : Statement} {sent : List Sent} {rows : List Row}
    (h : (Work.rows s).Exchange sent (.ok rows)) :
    ∃ r : Reply, sent = [⟨s, r⟩] ∧ r.failure? = none ∧ rows = r.resultRows := by
  cases h with
  | unsent f rest => cases rest
  | sent r rest =>
    cases hreply : r.failure? with
    | some f =>
      rw [hreply] at rest
      cases rest
    | none =>
      rw [hreply] at rest
      cases rest
      exact ⟨r, rfl, hreply, rfl⟩

/-- The first of two programs fails, or the second goes on from its value. -/
theorem of_bind {w : Work α} {f : α → Work β} {sent : List Sent} {answer : Except StoreError β}
    (h : (w >>= f).Exchange sent answer) :
    (∃ e, answer = .error e ∧ w.Exchange sent (.error e)) ∨
      ∃ a sent₁ sent₂, sent = sent₁ ++ sent₂ ∧ w.Exchange sent₁ (.ok a) ∧
        (f a).Exchange sent₂ answer := by
  induction w generalizing sent with
  | done a => exact .inr ⟨a, [], sent, rfl, .done a, h⟩
  | fail e =>
    cases h
    exact .inl ⟨e, rfl, .fail e⟩
  | step s next ih =>
    rw [step_bind] at h
    cases h with
    | unsent failure rest =>
      rcases ih _ rest with ⟨e, rfl, hfailed⟩ | ⟨a, sent₁, sent₂, rfl, hfirst, hsecond⟩
      · exact .inl ⟨e, rfl, .unsent failure hfailed⟩
      · exact .inr ⟨a, sent₁, sent₂, rfl, .unsent failure hfirst, hsecond⟩
    | sent r rest =>
      rcases ih _ rest with ⟨e, rfl, hfailed⟩ | ⟨a, sent₁, sent₂, rfl, hfirst, hsecond⟩
      · exact .inl ⟨e, rfl, .sent r hfailed⟩
      · exact .inr ⟨a, ⟨s, r⟩ :: sent₁, sent₂, rfl, .sent r hfirst, hsecond⟩

/-- What sends nothing is its own answer. -/
theorem of_ofExcept {r : Except StoreError α} {sent : List Sent} {answer : Except StoreError α}
    (h : (Work.ofExcept r).Exchange sent answer) : sent = [] ∧ answer = r := by
  cases r with
  | ok a => cases h; exact ⟨rfl, rfl⟩
  | error e => cases h; exact ⟨rfl, rfl⟩

end Work.Exchange

/-- A program that sends the statements of a list in order, and perhaps not all of them. -/
inductive Work.Follows : List Statement → Work α → Prop where
  | done (plan : List Statement) (a : α) : Follows plan (.done a)
  | fail (plan : List Statement) (e : StoreError) : Follows plan (.fail e)
  | step {s : Statement} {plan : List Statement} {next : Except Failure Reply → Work α}
    (failed : ∀ f, ∃ e, next (.error f) = .fail e) (answered : ∀ r, Follows plan (next (.ok r))) :
    Follows (s :: plan) (.step s next)

namespace Work.Follows

/-- What is sent is the beginning of the list. -/
theorem statements_isPrefix {plan : List Statement} {w : Work α} (h : w.Follows plan)
    {sent : List Sent} {answer : Except StoreError α} (hrun : w.Exchange sent answer) :
    sent.map Sent.statement <+: plan := by
  induction h generalizing sent with
  | done plan a => cases hrun; exact List.nil_prefix
  | fail plan e => cases hrun; exact List.nil_prefix
  | @step s plan next failed _ ih =>
    have hfailed (f : Failure) {sent : List Sent} (h : (next (.error f)).Exchange sent answer) :
        sent = [] := by
      obtain ⟨e, hnext⟩ := failed f
      rw [hnext] at h
      cases h
      rfl
    cases hrun with
    | unsent f rest =>
      cases hfailed f rest
      exact List.nil_prefix
    | sent r rest =>
      rw [List.map_cons, List.cons_prefix_cons]
      refine ⟨rfl, ?_⟩
      cases hreply : r.failure? with
      | none =>
        rw [hreply] at rest
        exact ih r rest
      | some f =>
        rw [hreply] at rest
        cases hfailed f rest
        exact List.nil_prefix

end Work.Follows

/-- An answer of framed work.  The frame may fail to open before the work, and to close after it. -/
inductive Work.Framed (w : Work α) : List Sent → Except StoreError α → Prop where
  | unopened (e : StoreError) : Framed w [] (.error e)
  | unclosed {sent : List Sent} {a : α} (hwork : w.Exchange sent (.ok a)) (e : StoreError) :
    Framed w sent (.error e)
  | answered {sent : List Sent} {answer : Except StoreError α} (hwork : w.Exchange sent answer) :
    Framed w sent answer

namespace Work.Framed

theorem sends {P : Statement → Prop} {w : Work α} {sent : List Sent} {answer : Except StoreError α}
    (h : w.Framed sent answer) (hw : w.Sends P) : ∀ e ∈ sent, P e.statement := by
  cases h with
  | unopened e => exact List.forall_mem_nil _
  | unclosed hwork e => exact hwork.sends hw
  | answered hwork => exact hwork.sends hw

theorem of_ok {w : Work α} {sent : List Sent} {a : α} (h : w.Framed sent (.ok a)) :
    w.Exchange sent (.ok a) := by
  cases h with
  | answered hwork => exact hwork

end Work.Framed

/-! ### Operations -/

/-- An answer of an operation, and the data statements that it is made from with their replies. -/
inductive Operation.Exchange : Operation α → List Sent → Except StoreError α → Prop where
  | done (a : α) : Exchange (.done a) [] (.ok a)
  | fail (e : StoreError) : Exchange (.fail e) [] (.error e)
  | failed {β : Type} {frame : Frame} {work : Work β} {next : β → Operation α} {sent : List Sent}
    {e : StoreError} (hwork : work.Framed sent (.error e)) :
    Exchange (.within frame work next) sent (.error e)
  | within {β : Type} {frame : Frame} {work : Work β} {next : β → Operation α} {b : β}
    {sent sent' : List Sent} {answer : Except StoreError α} (hwork : work.Framed sent (.ok b))
    (hnext : Exchange (next b) sent' answer) :
    Exchange (.within frame work next) (sent ++ sent') answer

namespace Operation.Exchange

theorem sends {F : Frame → Prop} {P : Statement → Prop} {o : Operation α} {sent : List Sent}
    {answer : Except StoreError α} (h : o.Exchange sent answer) (ho : o.Sends F P) :
    ∀ e ∈ sent, P e.statement := by
  induction h with
  | done a => exact List.forall_mem_nil _
  | fail e => exact List.forall_mem_nil _
  | failed hwork =>
    cases ho with
    | within _ hsends _ => exact hwork.sends hsends
  | within hwork _ ih =>
    cases ho with
    | within _ hsends tail =>
      intro e he
      rcases List.mem_append.1 he with he | he
      · exact hwork.sends hsends e he
      · exact ih (tail _) e he

/-- The first of two operations fails, or the second goes on from its value. -/
theorem of_bind {o : Operation α} {f : α → Operation β} {sent : List Sent}
    {answer : Except StoreError β} (h : (o >>= f).Exchange sent answer) :
    (∃ e, answer = .error e ∧ o.Exchange sent (.error e)) ∨
      ∃ a sent₁ sent₂, sent = sent₁ ++ sent₂ ∧ o.Exchange sent₁ (.ok a) ∧
        (f a).Exchange sent₂ answer := by
  induction o generalizing sent with
  | done a => exact .inr ⟨a, [], sent, rfl, .done a, h⟩
  | fail e =>
    cases h
    exact .inl ⟨e, rfl, .fail e⟩
  | within frame work next ih =>
    rw [within_bind] at h
    cases h with
    | failed hwork => exact .inl ⟨_, rfl, .failed hwork⟩
    | within hwork hnext =>
      rcases ih _ hnext with ⟨e, rfl, hfailed⟩ | ⟨a, sent₁, sent₂, rfl, hfirst, hsecond⟩
      · exact .inl ⟨e, rfl, .within hwork hfailed⟩
      · exact .inr ⟨a, _, sent₂, (List.append_assoc ..).symm, .within hwork hfirst, hsecond⟩

/-- After a check, an operation goes on only where the check has passed. -/
theorem of_check {r : Except StoreError α} {f : α → Operation β} {sent : List Sent}
    {answer : Except StoreError β} (h : ((liftM r : Operation α) >>= f).Exchange sent answer) :
    (sent = [] ∧ ∃ e, answer = .error e) ∨ ∃ a, r = .ok a ∧ (f a).Exchange sent answer := by
  cases r with
  | ok a => exact .inr ⟨a, rfl, h⟩
  | error e =>
    cases h
    exact .inl ⟨rfl, e, rfl⟩

/-- The value of a check. -/
theorem of_liftM {r : Except StoreError α} {sent : List Sent} {a : α}
    (h : (liftM r : Operation α).Exchange sent (.ok a)) : sent = [] ∧ r = .ok a := by
  cases r with
  | ok b => cases h; exact ⟨rfl, rfl⟩
  | error e => cases h

theorem of_forTenant {tenant : String} {user : Option String} {w : Work α} {sent : List Sent}
    {a : α}
    (h : (Operation.forTenant tenant user w).Exchange sent (.ok a)) : w.Exchange sent (.ok a) := by
  cases h with
  | within hwork hnext =>
    cases hnext
    rw [List.append_nil]
    exact hwork.of_ok

end Operation.Exchange

/-! ### Runs -/

theorem Wire.Grows.data_eq {w w' : Wire σ} (h : w.Grows (fun s => s.isData = false) w') :
    data w'.log = data w.log := by
  obtain ⟨sent, hlog, hsent⟩ := h
  have hnone : data sent = [] := by
    rw [data, List.filter_eq_nil_iff]
    intro e he
    rw [hsent e he]
    exact Bool.false_ne_true
  rw [hlog, data_append, hnone, List.append_nil]

variable [Server σ]

/-- **Every run of a program is an exchange** of the data statements that it adds to the record. -/
theorem Work.exchange {w : Work α} (hw : w.Sends fun s => s.isData = true) (c : Channel σ) :
    ∃ sent, data (w.run c).2.wire.log = data c.wire.log ++ sent ∧ w.Exchange sent (w.run c).1 := by
  induction hw generalizing c with
  | done a => exact ⟨[], (List.append_nil _).symm, .done a⟩
  | fail e => exact ⟨[], (List.append_nil _).symm, .fail e⟩
  | @step s next hdata _ ih =>
    have hexecuted := Channel.executed (P := fun s => s.isData = false) (c := c)
      (fun _ _ => rfl) s
    have hnew (r : Reply) : data [⟨s, r⟩] = [⟨s, r⟩] := List.filter_eq_self.2 (by simpa using hdata)
    rw [run]
    generalize c.execute s = executed at *
    -- what waited is no data; after it the statement is the next entry, if it was sent
    cases hexecuted with
    | unsent f alive hwait _ =>
      obtain ⟨sent, hlog, hrest⟩ := ih (.error f) _
      exact ⟨sent, hlog.trans (by rw [hwait.data_eq]), .unsent f hrest⟩
    | refused r f hwait hlog' hreply =>
      obtain ⟨sent, hlog, hrest⟩ := ih (.error f) _
      refine ⟨⟨s, r⟩ :: sent, ?_, .sent r (by rwa [hreply])⟩
      rw [hlog, hlog', data_append, hwait.data_eq, hnew, List.append_assoc]
      rfl
    | answered r hwait hlog' hreply =>
      obtain ⟨sent, hlog, hrest⟩ := ih (.ok r) _
      refine ⟨⟨s, r⟩ :: sent, ?_, .sent r (by rwa [hreply])⟩
      rw [hlog, hlog', data_append, hwait.data_eq, hnew, List.append_assoc]
      rfl

/-- So is every run of framed work. -/
theorem Channel.perform_framed {w : Work α} (hw : w.Sends fun s => s.isData = true)
    (frame : Frame) (c : Channel σ) :
    ∃ sent, data (c.perform w frame).2.wire.log = data c.wire.log ++ sent ∧
      w.Framed sent (c.perform w frame).1 := by
  cases frame with
  | bare =>
    obtain ⟨sent, hlog, hrun⟩ := Work.exchange hw c
    exact ⟨sent, hlog, .answered hrun⟩
  | tenant id user ending =>
    have henter := (enter_grows (P := fun s => s.isData = false) Statement.isData_simple c).data_eq
    rw [perform]
    generalize c.enter = entered at *
    obtain ⟨failure | failure, opened⟩ := entered
    · have hset := (setContext_grows (P := fun s => s.isData = false) Statement.isData_simple
        (Statement.aside_context id user).not_data opened).data_eq
      obtain ⟨sent, hlog, hrun⟩ := Work.exchange hw (opened.setContext id user)
      simp only at henter ⊢
      generalize w.run (opened.setContext id user) = done at *
      rw [hset, henter] at hlog
      obtain ⟨e | a, worked⟩ := done
      · exact ⟨sent, hlog, .answered hrun⟩
      · have hfinish := (finish_grows (P := fun s => s.isData = false) Statement.isData_simple
          ending worked).data_eq
        simp only
        generalize worked.finish ending = finished at *
        obtain ⟨failure | failure, last⟩ := finished
        · exact ⟨sent, hfinish.trans hlog, .answered hrun⟩
        · exact ⟨sent, hfinish.trans hlog, .unclosed hrun _⟩
    · exact ⟨[], by rw [List.append_nil]; exact henter, .unopened _⟩

theorem Pool.perform_framed {w : Work α} (hw : w.Sends fun s => s.isData = true) (frame : Frame)
    (p : Pool σ) :
    ∃ sent, data (p.perform frame w).2.wire.log = data p.wire.log ++ sent ∧
      w.Framed sent (p.perform frame w).1 := by
  have hacquired := acquire_grows (P := fun s => s.isData = false) Statement.isData_simple p
  rw [perform]
  generalize p.acquire = acquired at *
  obtain ⟨f | c, p'⟩ := acquired
  · rcases hacquired with ⟨_, -, hgrows⟩ | ⟨_, hc, -⟩
    · exact ⟨[], by rw [List.append_nil]; exact hgrows.data_eq, .unopened _⟩
    · cases hc
  · rcases hacquired with ⟨_, hf, -⟩ | ⟨_, hc, hgrows⟩
    · cases hf
    · cases hc
      obtain ⟨sent, hlog, hframed⟩ := Channel.perform_framed hw frame c
      have hrelease := (release_grows (P := fun s => s.isData = false) Statement.isData_simple
        (c.perform w frame).2 p').data_eq
      exact ⟨sent, by rw [← hgrows.data_eq, ← hlog]; exact hrelease, hframed⟩

/-- **Every run of an operation is an exchange** of the data statements that it records. -/
theorem Operation.exchange {F : Frame → Prop} {o : Operation α}
    (ho : o.Sends F fun s => s.isData = true) (p : Pool σ) :
    o.Exchange (data (o.sent p)) (o.run p).1 := by
  -- what the record gains is what the run adds, so it is enough to find it
  suffices h : ∃ sent, data (o.run p).2.wire.log = data p.wire.log ++ sent ∧
      o.Exchange sent (o.run p).1 by
    obtain ⟨sent, hlog, hrun⟩ := h
    rw [o.log_run p, data_append] at hlog
    rwa [List.append_cancel_left hlog]
  induction ho generalizing p with
  | done a => exact ⟨[], (List.append_nil _).symm, .done a⟩
  | fail e => exact ⟨[], (List.append_nil _).symm, .fail e⟩
  | @within β frame work next _ hwork _ ih =>
    obtain ⟨sent, hlog, hframed⟩ := Pool.perform_framed hwork frame p
    rw [run]
    generalize p.perform frame work = performed at *
    obtain ⟨e | b, p'⟩ := performed
    · exact ⟨sent, hlog, .failed hframed⟩
    · obtain ⟨sent', hlog', hnext⟩ := ih b p'
      exact ⟨sent ++ sent', by rw [hlog', hlog, List.append_assoc], .within hframed hnext⟩

end KnowledgeBase
