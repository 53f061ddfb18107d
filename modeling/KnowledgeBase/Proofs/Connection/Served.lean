import KnowledgeBase.Proofs.Connection.Atomicity
import KnowledgeBase.Proofs.Connection.Exchange

/-!
# Runs in which no statement fails

When every reply on the record is an answer, transactions are opened and ended as they should, and
an operation comes down to a function of the replies to its own statements.  Only the connection may
still be missing.

## Main definitions

* `Work.Served`, `Operation.Served` — an answer of a program and of an operation, and the statements
  with the replies that it is made from, none of them a failure.
* `Operation.Lists` — an operation that decodes the rows of one statement.

## Main results

* `Channel.perform_served` — framed work is answered by the work in it.
* `Operation.served` — a run in which no statement failed is served.
-/

namespace KnowledgeBase

open Sql

variable {σ α β : Type}

/-- A statement that did not fail. -/
def Sql.Sent.Answered (e : Sent) : Prop := e.reply.failure? = none

instance (e : Sent) : Decidable e.Answered :=
  decidable_of_iff (e.reply.failure?.isNone = true) Option.isNone_iff_eq_none

/-- What was added in between was added in two parts. -/
theorem Wire.Adds.split {R : Sent → Prop} {w₁ w₂ w₃ : Wire σ} (h : w₁.Adds R w₃)
    (hfirst : w₁.Grows (fun _ => True) w₂) (hsecond : w₂.Grows (fun _ => True) w₃) :
    w₁.Adds R w₂ ∧ w₂.Adds R w₃ := by
  obtain ⟨sent, hlog, hsent⟩ := h
  obtain ⟨sent₁, hlog₁, -⟩ := hfirst
  obtain ⟨sent₂, hlog₂, -⟩ := hsecond
  rw [hlog₂, hlog₁, List.append_assoc] at hlog
  cases List.append_cancel_left hlog
  obtain ⟨h₁, h₂⟩ := List.forall_mem_append.1 hsent
  exact ⟨⟨sent₁, hlog₁, h₁⟩, ⟨sent₂, hlog₂, h₂⟩⟩

/-! ### Programs -/

/-- An answer of a program, and the statements that it is made from with their replies.  None of the
replies is a failure. -/
inductive Work.Served : Work α → List Sent → Except StoreError α → Prop where
  | done (a : α) : Served (.done a) [] (.ok a)
  | fail (e : StoreError) : Served (.fail e) [] (.error e)
  | sent {s : Statement} {next : Except Failure Reply → Work α} {sent : List Sent}
    {answer : Except StoreError α} (r : Reply) (rest : Served (next (.ok r)) sent answer) :
    Served (.step s next) (⟨s, r⟩ :: sent) answer

namespace Work.Served

/-- Rows are those of the one reply. -/
theorem of_rows {s : Statement} {f : List Row → Work α} {sent : List Sent}
    {answer : Except StoreError α} (h : (Work.rows s >>= f).Served sent answer) :
    ∃ r rest, sent = ⟨s, r⟩ :: rest ∧ (f r.resultRows).Served rest answer := by
  cases h with
  | sent r rest => exact ⟨r, _, rfl, rest⟩

/-- After a value or an error, a program goes on only with the value. -/
theorem of_ofExcept {r : Except StoreError α} {f : α → Work β} {sent : List Sent}
    {answer : Except StoreError β} (h : (Work.ofExcept r >>= f).Served sent answer) :
    (sent = [] ∧ ∃ e, answer = .error e) ∨ ∃ a, r = .ok a ∧ (f a).Served sent answer := by
  cases r with
  | ok a => exact .inr ⟨a, rfl, h⟩
  | error e =>
    cases h
    exact .inl ⟨rfl, e, rfl⟩

end Work.Served

/-! ### Operations -/

/-- An answer of an operation, and the data statements that it is made from with their replies.
There may be no connection for framed work, but nothing else goes wrong. -/
inductive Operation.Served : Operation α → List Sent → Except StoreError α → Prop where
  | done (a : α) : Served (.done a) [] (.ok a)
  | fail (e : StoreError) : Served (.fail e) [] (.error e)
  | unconnected {β : Type} {frame : Frame} {work : Work β} {next : β → Operation α}
    (e : StoreError) : Served (.within frame work next) [] (.error e)
  | failed {β : Type} {frame : Frame} {work : Work β} {next : β → Operation α} {sent : List Sent}
    {e : StoreError} (hwork : work.Served sent (.error e)) :
    Served (.within frame work next) sent (.error e)
  | within {β : Type} {frame : Frame} {work : Work β} {next : β → Operation α} {b : β}
    {sent sent' : List Sent} {answer : Except StoreError α} (hwork : work.Served sent (.ok b))
    (hnext : Served (next b) sent' answer) :
    Served (.within frame work next) (sent ++ sent') answer

namespace Operation

namespace Served

/-- After a check, an operation goes on only where the check has passed. -/
theorem of_check {r : Except StoreError α} {f : α → Operation β} {sent : List Sent}
    {answer : Except StoreError β} (h : ((liftM r : Operation α) >>= f).Served sent answer) :
    (sent = [] ∧ ∃ e, answer = .error e) ∨ ∃ a, r = .ok a ∧ (f a).Served sent answer := by
  cases r with
  | ok a => exact .inr ⟨a, rfl, h⟩
  | error e =>
    cases h
    exact .inl ⟨rfl, e, rfl⟩

/-- A check by itself is its own answer. -/
theorem of_liftM {r : Except StoreError α} {sent : List Sent} {answer : Except StoreError α}
    (h : (liftM r : Operation α).Served sent answer) : sent = [] ∧ answer = r := by
  cases r with
  | ok a => cases h; exact ⟨rfl, rfl⟩
  | error e => cases h; exact ⟨rfl, rfl⟩

/-- Framed work is left out, or is the whole operation. -/
theorem of_forTenant {tenant : String} {user : Option String} {w : Work α} {sent : List Sent}
    {answer : Except StoreError α} (h : (Operation.forTenant tenant user w).Served sent answer) :
    (sent = [] ∧ ∃ e, answer = .error e) ∨ w.Served sent answer := by
  cases h with
  | unconnected e => exact .inl ⟨rfl, e, rfl⟩
  | failed hwork => exact .inr hwork
  | within hwork hnext =>
    cases hnext
    rw [List.append_nil]
    exact .inr hwork

/-- Rows are left out, or are those of one reply. -/
theorem of_rows {tenant : String} {user : Option String} {s : Statement}
    {f : List Row → Operation β} {sent : List Sent} {answer : Except StoreError β}
    (h : (Operation.forTenant tenant user (Work.rows s) >>= f).Served sent answer) :
    (sent = [] ∧ ∃ e, answer = .error e) ∨
      ∃ r rest, sent = ⟨s, r⟩ :: rest ∧ (f r.resultRows).Served rest answer := by
  cases h with
  | unconnected e => exact .inl ⟨rfl, e, rfl⟩
  | failed hwork => cases hwork with
    | sent r rest => cases rest
  | within hwork hnext => cases hwork with
    | sent r rest =>
      cases rest
      exact .inr ⟨r, _, rfl, hnext⟩

end Served

/-- An operation that decodes the rows of its only statement. -/
def Lists (decode : List Row → Except StoreError α) (o : Operation α) : Prop :=
  ∀ st rows answer, o.Served [⟨st, .rows rows⟩] answer → answer = decode rows

namespace Lists

variable {decode : List Row → Except StoreError β}

/-- Without a statement there are no rows. -/
theorem done (b : β) : (Operation.done b).Lists decode := nofun

theorem check {r : Except StoreError α} {f : α → Operation β} (h : ∀ a, (f a).Lists decode) :
    ((liftM r : Operation α) >>= f).Lists decode := by
  intro st rows answer hserved
  rcases hserved.of_check with ⟨hnil, -⟩ | ⟨a, -, hrest⟩
  · cases hnil
  · exact h a st rows answer hrest

theorem reading {tenant : String} {user : Option String} {s : Statement} :
    (Operation.forTenant tenant user (Work.rows s) >>= fun rows =>
      (liftM (decode rows) : Operation β)).Lists decode := by
  intro st rows answer hserved
  rcases hserved.of_rows with ⟨hnil, -⟩ | ⟨r, rest, hsent, hrest⟩
  · cases hnil
  · cases hsent
    exact hrest.of_liftM.2

end Lists

end Operation

variable [Server σ]

/-! ### Levels -/

/-- A connection that stands, with nothing waiting on it and so many levels open. -/
def Link.ready (depth : Nat) : Link := ⟨depth, [], true⟩

namespace Channel

variable {c : Channel σ} {depth : Nat}

theorem execute_served (h : c.link = .ready depth) (s : Statement)
    (hserved : c.wire.Adds Sent.Answered (c.execute s).2.wire) :
    ∃ r w, c.execute s = (.ok r, ⟨w, .ready depth⟩) ∧ w.log = c.wire.log ++ [⟨s, r⟩] := by
  obtain ⟨r, w, hexecute, hlog⟩ := execute_of_ready (c := c) (h ▸ rfl) (h ▸ rfl) s
  obtain ⟨sent, hlog', hsent⟩ := hserved
  rw [hexecute, hlog] at hlog'
  cases List.append_cancel_left hlog'
  have hreply : r.failure? = none := hsent _ List.mem_cons_self
  refine ⟨r, w, ?_, hlog⟩
  rw [hexecute, hreply, Reply.isLost_of_failure? hreply, h]
  rfl

theorem enter_served (h : c.link = .ready depth)
    (hserved : c.wire.Adds Sent.Answered c.enter.2.wire) :
    ∃ w, c.enter = (none, ⟨w, .ready (depth + 1)⟩) := by
  have hexecuted := execute_served h (.simple (Link.beginText c.link.depth))
  rw [enter] at hserved ⊢
  generalize c.execute (.simple (Link.beginText c.link.depth)) = answer at *
  obtain ⟨f | r, after⟩ := answer
  · obtain ⟨r, w, hok, -⟩ := hexecuted hserved
    cases hok
  · obtain ⟨r', w, hok, -⟩ := hexecuted hserved
    cases hok
    exact ⟨w, by rw [h]; rfl⟩

theorem leave_served (h : c.link = .ready (depth + 1)) {text : Nat → String}
    (hserved : c.wire.Adds Sent.Answered (c.leave text).2.wire) :
    ∃ w, c.leave text = (none, ⟨w, .ready depth⟩) := by
  rw [leave] at hserved ⊢
  split at hserved
  · next hzero =>
    rw [h] at hzero
    cases hzero
  · next n hdepth =>
    have hexecuted := execute_served h (.simple (text n))
    generalize c.execute (.simple (text n)) = answer at *
    obtain ⟨f | r, after⟩ := answer
    · obtain ⟨r, w, hok, -⟩ := hexecuted hserved
      cases hok
    · obtain ⟨r', w, hok, -⟩ := hexecuted hserved
      cases hok
      rw [h] at hdepth
      cases hdepth
      exact ⟨w, rfl⟩

omit [Server σ] in
theorem wire_settle (x : Option Failure × Channel σ) : (settle x).wire = x.2.wire := by
  obtain ⟨f | f, c⟩ := x <;> rfl

/-- The context of a transaction is set in a level of its own, which is left again. -/
theorem setContext_served (h : c.link = .ready depth) {tenant : String} {user : Option String}
    (hserved : c.wire.Adds Sent.Answered (c.setContext tenant user).wire) :
    (c.setContext tenant user).link = .ready depth := by
  have henter := enter_served h
  have hopening : c.wire.Grows (fun _ => True) c.enter.2.wire := enter_grows (fun _ => trivial) c
  rw [setContext] at hserved ⊢
  generalize c.enter = entered at *
  obtain ⟨failure | failure, opened⟩ := entered
  · have hexecute (hready : opened.link = .ready (depth + 1)) :=
      execute_served hready (contextStatement tenant user)
    have hsetting : opened.wire.Grows (fun _ => True)
        (opened.execute (contextStatement tenant user)).2.wire :=
      execute_grows (fun _ _ => trivial) trivial
    simp only at hserved hopening ⊢
    generalize opened.execute (contextStatement tenant user) = executed at *
    -- on a connection that stands the statement has been answered
    obtain ⟨f | r, after⟩ := executed
    · rw [wire_settle] at hserved
      have hleaving := leave_grows (P := fun _ => True) (fun _ => trivial) Link.rollbackText after
      obtain ⟨hfirst, hrest⟩ := hserved.split hopening (hsetting.trans hleaving)
      obtain ⟨w, hopened⟩ := henter hfirst
      cases hopened
      obtain ⟨r, w', hset, -⟩ := hexecute rfl (hrest.split hsetting hleaving).1
      cases hset
    · rw [wire_settle] at hserved
      have hleaving := leave_grows (P := fun _ => True) (fun _ => trivial) Link.commitText after
      obtain ⟨hfirst, hrest⟩ := hserved.split hopening (hsetting.trans hleaving)
      obtain ⟨w, hopened⟩ := henter hfirst
      cases hopened
      obtain ⟨hset, hrest⟩ := hrest.split hsetting hleaving
      obtain ⟨r', w', hexecuted, -⟩ := hexecute rfl hset
      cases hexecuted
      obtain ⟨w'', hleft⟩ := leave_served (c := ⟨w', .ready (depth + 1)⟩) rfl hrest
      simp only [commit, hleft]
      rfl
  · obtain ⟨w, hopened⟩ := henter hserved
    cases hopened

/-- A program is served, and leaves the connection as it was. -/
theorem run_served {w : Work α} (hw : w.Sends fun s => s.isData = true)
    (h : c.link = .ready depth)
    (hserved : c.wire.Adds Sent.Answered (w.run c).2.wire) :
    (w.run c).2.link = .ready depth ∧ ∃ sent,
      data (w.run c).2.wire.log = data c.wire.log ++ sent ∧ w.Served sent (w.run c).1 := by
  induction hw generalizing c with
  | done a => exact ⟨h, [], (List.append_nil _).symm, .done a⟩
  | fail e => exact ⟨h, [], (List.append_nil _).symm, .fail e⟩
  | @step s next hdata htail ih =>
    have hfirst : c.wire.Grows (fun _ => True) (c.execute s).2.wire :=
      execute_grows (fun _ _ => trivial) trivial
    have hrest : (c.execute s).2.wire.Grows (fun _ => True) ((Work.step s next).run c).2.wire :=
      (next (c.execute s).1).sends_any.grows _ fun _ _ => trivial
    obtain ⟨hexecuted, hserved⟩ := hserved.split hfirst hrest
    obtain ⟨r, w, hexecute, hlog⟩ := execute_served h s hexecuted
    have hrun : (Work.step s next).run c = (next (.ok r)).run ⟨w, .ready depth⟩ := by
      rw [Work.run, hexecute]
    rw [hrun, hexecute] at hserved
    rw [hrun]
    obtain ⟨hlink, sent, hdata', hsent⟩ := ih (.ok r) rfl hserved
    refine ⟨hlink, ⟨s, r⟩ :: sent, ?_, .sent r hsent⟩
    have hnew : data [⟨s, r⟩] = [⟨s, r⟩] := List.filter_eq_self.2 (by simpa using hdata)
    rw [hdata', hlog, data_append, hnew, List.append_assoc]
    rfl

/-- The end of a transaction changes nothing in the answer of its work. -/
theorem conclude_served {ending : Ending} {done : Except StoreError α × Channel σ}
    (h : done.2.link = .ready (depth + 1))
    (hserved : done.2.wire.Adds Sent.Answered (conclude ending done).2.wire) :
    (conclude ending done).1 = done.1 := by
  obtain ⟨e | a, c⟩ := done
  · rfl
  · have hfinish : c.wire.Adds Sent.Answered (c.finish ending).2.wire →
        (c.finish ending).1 = none := by
      intro hserved
      cases ending with
      | commit =>
        obtain ⟨w, hleft⟩ := leave_served h hserved
        exact congrArg Prod.fst hleft
      | rollback =>
        obtain ⟨w, hleft⟩ := leave_served h hserved
        exact congrArg Prod.fst hleft
      | abandon => rfl
    rw [conclude] at hserved ⊢
    generalize c.finish ending = finished at *
    obtain ⟨failure | failure, last⟩ := finished
    · rfl
    · cases hfinish hserved

/-- **Framed work is answered by the work in it.** -/
theorem perform_served {w : Work α} (hw : w.Sends fun s => s.isData = true) (h : c.link = .fresh)
    {frame : Frame} (hserved : c.wire.Adds Sent.Answered (c.perform w frame).2.wire) :
    ∃ sent, data (c.perform w frame).2.wire.log = data c.wire.log ++ sent ∧
      w.Served sent (c.perform w frame).1 := by
  cases frame with
  | bare => exact (run_served hw h hserved).2
  | tenant id user ending =>
    have henter := enter_served h
    have hopening : c.wire.Grows (fun _ => True) c.enter.2.wire := enter_grows (fun _ => trivial) c
    have hopened := (enter_grows (P := fun s => s.isData = false) Statement.isData_simple c).data_eq
    rw [perform_tenant] at hserved ⊢
    generalize c.enter = entered at *
    obtain ⟨failure | failure, opened⟩ := entered
    · have hsetting : opened.wire.Grows (fun _ => True) (opened.setContext id user).wire :=
        setContext_grows (fun _ => trivial) trivial opened
      have hset := (setContext_grows (P := fun s => s.isData = false) Statement.isData_simple
        (Statement.aside_context id user).not_data opened).data_eq
      have hrunning : (opened.setContext id user).wire.Grows (fun _ => True)
          (w.run (opened.setContext id user)).2.wire := w.sends_any.grows _ fun _ _ => trivial
      have hclosing := conclude_grows (P := fun _ => True) (fun _ => trivial) ending
        (w.run (opened.setContext id user))
      have hclosed := (conclude_grows (P := fun s => s.isData = false) Statement.isData_simple
        ending (w.run (opened.setContext id user))).data_eq
      -- each of the four parts is served, the first of which opens the transaction
      obtain ⟨hfirst, hserved⟩ :=
        hserved.split hopening (hsetting.trans (hrunning.trans hclosing))
      obtain ⟨hsecond, hserved⟩ := hserved.split hsetting (hrunning.trans hclosing)
      obtain ⟨hthird, hfourth⟩ := hserved.split hrunning hclosing
      obtain ⟨w₁, hready⟩ := henter hfirst
      cases hready
      have hlink := setContext_served (c := ⟨w₁, .ready 1⟩) rfl hsecond
      obtain ⟨hlink, sent, hrun, hwork⟩ := run_served hw hlink hthird
      refine ⟨sent, by rw [hclosed, hrun, hset, hopened], ?_⟩
      rw [conclude_served hlink hfourth]
      exact hwork
    · obtain ⟨w₁, hready⟩ := henter hserved
      cases hready

end Channel

/-! ### Pools and operations -/

namespace Pool

variable {p : Pool σ}

/-- Work over a pool is served, unless there is no connection for it. -/
theorem perform_served {w : Work α} (hw : w.Sends fun s => s.isData = true) (hp : p.AtRest)
    {frame : Frame} (hserved : p.wire.Adds Sent.Answered (p.perform frame w).2.wire) :
    ∃ sent, data (p.perform frame w).2.wire.log = data p.wire.log ++ sent ∧
      ((sent = [] ∧ ∃ e, (p.perform frame w).1 = .error e) ∨
        w.Served sent (p.perform frame w).1) := by
  have hacquired := hp.acquired (P := fun s => s.isData = false) rfl
  rw [perform] at hserved ⊢
  generalize p.acquire = acquired at *
  cases hacquired with
  | refused f hgrows _ =>
    exact ⟨[], by rw [List.append_nil]; exact hgrows.data_eq, .inl ⟨rfl, _, rfl⟩⟩
  | @given w₀ p' hgrows =>
    have hperforming : w₀.Grows (fun _ => True)
        (Channel.perform w frame ⟨w₀, .fresh⟩).2.wire :=
      Channel.perform_grows (fun _ => trivial) w.sends_any (fun _ _ _ _ => trivial) _
    have hreleasing := release_grows (P := fun _ => True) (fun _ => trivial)
      (Channel.perform w frame ⟨w₀, .fresh⟩).2 p'
    have hreleased := (release_grows (P := fun s => s.isData = false) Statement.isData_simple
      (Channel.perform w frame ⟨w₀, .fresh⟩).2 p').data_eq
    obtain ⟨-, hserved⟩ :=
      hserved.split (hgrows.mono fun _ _ => trivial) (hperforming.trans hreleasing)
    obtain ⟨hserved, -⟩ := hserved.split hperforming hreleasing
    obtain ⟨sent, hlog, hwork⟩ := Channel.perform_served (c := ⟨w₀, .fresh⟩) hw rfl hserved
    exact ⟨sent, by rw [← hgrows.data_eq, ← hlog]; exact hreleased, .inr hwork⟩

end Pool

/-- **A run in which no statement failed is served.** -/
theorem Operation.served {F : Frame → Prop} {o : Operation α} {p : Pool σ}
    (ho : o.Sends F fun s => s.isData = true) (hp : p.AtRest)
    (hserved : ∀ e ∈ o.sent p, e.Answered) : o.Served (data (o.sent p)) (o.run p).1 := by
  -- what the record gains is what the run adds, so it is enough to find it
  suffices h : ∃ sent, data (o.run p).2.wire.log = data p.wire.log ++ sent ∧
      o.Served sent (o.run p).1 by
    obtain ⟨sent, hlog, hrun⟩ := h
    rw [o.log_run p, data_append] at hlog
    rwa [List.append_cancel_left hlog]
  replace hserved : p.wire.Adds Sent.Answered (o.run p).2.wire := ⟨_, o.log_run p, hserved⟩
  induction ho generalizing p with
  | done a => exact ⟨[], (List.append_nil _).symm, .done a⟩
  | fail e => exact ⟨[], (List.append_nil _).symm, .fail e⟩
  | @within β frame work next hframe hwork htail ih =>
    have hperform (h : p.wire.Adds Sent.Answered (p.perform frame work).2.wire) :=
      Pool.perform_served hwork hp h
    have hperforming : p.wire.Grows (fun _ => True) (p.perform frame work).2.wire :=
      Pool.perform_grows (fun _ => trivial) work.sends_any (fun _ _ _ _ => trivial) p
    have hrest := hp.perform frame work
    rw [run] at hserved ⊢
    generalize p.perform frame work = performed at *
    obtain ⟨e | b, p'⟩ := performed
    · obtain ⟨sent, hlog, ⟨rfl, -⟩ | hsent⟩ := hperform hserved
      · exact ⟨[], hlog, .unconnected e⟩
      · exact ⟨sent, hlog, .failed hsent⟩
    · have hnext : p'.wire.Grows (fun _ => True) ((next b).run p').2.wire :=
        (next b).sends_any.grows (fun _ => trivial) (fun _ _ _ _ => trivial) _
      obtain ⟨hfirst, hsecond⟩ := hserved.split hperforming hnext
      obtain ⟨sent, hlog, ⟨-, e, he⟩ | hsent⟩ := hperform hfirst
      · cases he
      · obtain ⟨sent', hlog', hrun⟩ := ih b hrest hsecond
        exact ⟨sent ++ sent', by rw [hlog', hlog, List.append_assoc], .within hsent hrun⟩

end KnowledgeBase
