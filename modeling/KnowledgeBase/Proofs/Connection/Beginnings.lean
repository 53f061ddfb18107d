import KnowledgeBase.Proofs.Connection.Served
import KnowledgeBase.Proofs.Connection.Stops

/-!
# What the first statement of a program settles

Up to its first statement a program has no part in what is sent, so that two programs with the same
first statement, run in the same place, have the same record up to there.  And once a program has
had answers, nothing waits on its connection any more: if it succeeds, only its commit can still
fail, and that is then on the record.

## Main definitions

* `Work.Opens` — a program that sends a certain statement first.
* `Sql.Sent.NoFailedCommit` — an entry of the record that is no failed commit.

## Main results

* `Pool.perform_alike` — two programs with the same first statement share the record up to there.
* `Pool.perform_committed` — **framed work answers as the work in it, unless there is no connection
  for it or its commit fails.**
-/

namespace KnowledgeBase

open Sql

variable {σ α β : Type} {P : Statement → Prop}

/-! ### The same first statement -/

/-- A program that sends a certain statement first, and then statements of some kind only. -/
inductive Work.Opens (P : Statement → Prop) (s : Statement) : Work α → Prop where
  | step {next : Except Failure Reply → Work α} (tail : ∀ r, (next r).Sends P) :
    Opens P s (.step s next)

theorem Work.Opens.bind {s : Statement} {w : Work α} {f : α → Work β} (hw : w.Opens P s)
    (hf : ∀ a, (f a).Sends P) : (w >>= f).Opens P s := by
  cases hw with
  | step tail => exact .step fun r => (tail r).bind hf

theorem Work.Opens.rows (s : Statement) : (Work.rows s).Opens P s := by
  refine .step fun r => ?_
  cases r with
  | ok reply => exact .done _
  | error f => exact .fail _

/-- Two records that go on from the same point, each by statements of some kind. -/
def Wire.Alike (P : Statement → Prop) (w w' : Wire σ) : Prop :=
  ∃ v : Wire σ, v.Grows P w ∧ v.Grows P w'

variable [Server σ]

section Alike

variable {s : Statement} {w : Work α} {w' : Work β} (hcontrol : ∀ sql, P (.simple sql))
  (hw : w.Opens P s) (hw' : w'.Opens P s)

include hw hw'

/-- The record is the same up to the first statement, whatever the programs make of its reply. -/
theorem Work.run_alike (c : Channel σ) : (w.run c).2.wire.Alike P (w'.run c).2.wire := by
  cases hw with
  | step tail =>
    cases hw' with
    | step tail' =>
      refine ⟨(c.execute s).2.wire, (tail _).grows _ ?_, (tail' _).grows _ ?_⟩
      · simp
      · simp

include hcontrol

theorem Channel.perform_alike (frame : Frame) (c : Channel σ) :
    (c.perform w frame).2.wire.Alike P (c.perform w' frame).2.wire := by
  cases frame with
  | bare => exact Work.run_alike hw hw' c
  | tenant id user ending =>
    rw [perform_tenant, perform_tenant]
    obtain ⟨failure | failure, opened⟩ := c.enter
    · obtain ⟨v, hgrows, hgrows'⟩ := Work.run_alike hw hw' (opened.setContext id user)
      exact ⟨v, hgrows.trans (conclude_grows hcontrol ending _),
        hgrows'.trans (conclude_grows hcontrol ending _)⟩
    · exact ⟨opened.wire, .refl _, .refl _⟩

/-- **Two programs with the same first statement share the record up to there.** -/
theorem Pool.perform_alike (frame : Frame) (p : Pool σ) :
    (p.perform frame w).2.wire.Alike P (p.perform frame w').2.wire := by
  rw [perform, perform]
  obtain ⟨failure | c, p'⟩ := p.acquire
  · exact ⟨p'.wire, .refl _, .refl _⟩
  · obtain ⟨v, hgrows, hgrows'⟩ := Channel.perform_alike hcontrol hw hw' frame c
    exact ⟨v, hgrows.trans (release_grows hcontrol _ p'),
      hgrows'.trans (release_grows hcontrol _ p')⟩

end Alike

/-! ### Success and the commit -/

/-- An entry of the record that is no failed commit. -/
def Sql.Sent.NoFailedCommit (e : Sent) : Prop := e.statement = .simple "COMMIT" → e.Answered

variable {label : Statement → Failure → StoreError → Prop} {w : Work α} {a : α}

/-- A program that stops at the first failure leaves a connection as it was when it succeeds. -/
theorem Work.Stops.ready_of_ok (hw : w.Stops (fun _ => False) label) {c : Channel σ} {depth : Nat}
    (h : c.link = .ready depth) (hok : (w.run c).1 = .ok a) :
    (w.run c).2.link = .ready depth := by
  induction hw generalizing c with
  | done b => exact h
  | fail e => cases hok
  | @hard s next failed _ ih =>
    obtain ⟨r, v, hexecute, -⟩ := Channel.execute_of_ready (c := c) (h ▸ rfl) (h ▸ rfl) s
    cases hreply : r.failure? with
    | some f =>
      obtain ⟨e, hnext, -⟩ := failed f
      rw [hreply] at hexecute
      simp only [run, hexecute, Option.elim_some, hnext] at hok
      cases hok
    | none =>
      rw [hreply, Reply.isLost_of_failure? hreply, h] at hexecute
      rw [run, hexecute] at hok ⊢
      exact ih r rfl hok
  | soft hsoft => exact hsoft.elim

/-- After a statement that was answered nothing waits, so the same holds in every place. -/
theorem Work.Begins.ready_of_ok (hbegins : w.Begins) (hw : w.Stops (fun _ => False) label)
    {c : Channel σ} (hok : (w.run c).1 = .ok a) : (w.run c).2.link = .ready c.link.depth := by
  cases hbegins with
  | @step s next hfail =>
    have hexecuted := Channel.executed (P := fun _ => True) (c := c) (fun _ _ => trivial) s
    have hfailed {f : Failure} {c' : Channel σ} : ((next (.error f)).run c').1 ≠ .ok a := by
      obtain ⟨e, hnext⟩ := hfail f
      rw [hnext]
      nofun
    rw [run] at hok ⊢
    generalize c.execute s = answer at *
    cases hexecuted with
    | unsent f alive _ _ => exact absurd hok hfailed
    | refused r f _ _ _ => exact absurd hok hfailed
    | answered r _ _ _ =>
      cases hw with
      | hard _ answered => exact (answered r).ready_of_ok rfl hok
      | soft hsoft => exact hsoft.elim

namespace Channel

/-- The end of framed work takes a value away only if the commit fails on the record. -/
theorem conclude_committed {done : Except StoreError α × Channel σ} {depth : Nat}
    (hready : ∀ a, done.1 = .ok a → done.2.link = .ready depth) (hdepth : depth ≤ 1)
    (h : done.2.wire.Adds Sent.NoFailedCommit (conclude .commit done).2.wire) :
    (conclude .commit done).1 = done.1 := by
  obtain ⟨e | a, c⟩ := done
  · rfl
  · have hlink : c.link = .ready depth := hready a rfl
    obtain _ | _ | depth := depth
    · -- the transaction was taken for lost, and there is nothing to commit
      rw [conclude_of_no_level (by rw [hlink]; rfl)]
    · obtain ⟨r, v, hexecute, hlog⟩ :=
        execute_of_ready (c := c) (hlink ▸ rfl) (hlink ▸ rfl) (.simple (Link.commitText 0))
      have hone : c.link.depth = 0 + 1 := hlink ▸ rfl
      cases hreply : r.failure? with
      | none =>
        rw [hreply] at hexecute
        simp only [conclude, finish, commit, leave, hone, hexecute, Option.elim_none]
      | some f =>
        rw [hreply] at hexecute
        simp only [conclude, finish, commit, leave, hone, hexecute, Option.elim_some] at h
        obtain ⟨sent, hsent, hall⟩ := h
        cases List.append_cancel_left (hsent.symm.trans hlog)
        cases (hall _ List.mem_cons_self rfl).symm.trans hreply
    · omega

variable (hbegins : w.Begins) (hdata : w.Sends fun s => s.isData = true)
  (hstops : w.Stops (fun _ => False) label)

include hbegins hdata hstops

/-- Framed work answers as the work in it, unless its transaction cannot be begun or committed. -/
theorem perform_committed {c : Channel σ} (hdepth : c.link.depth = 0) (id : String)
    (user : Option String)
    (h : c.wire.Adds Sent.NoFailedCommit (c.perform w (.tenant id user .commit)).2.wire) :
    ∃ sent, data (c.perform w (.tenant id user .commit)).2.wire.log = data c.wire.log ++ sent ∧
      ((sent = [] ∧ ∃ e, (c.perform w (.tenant id user .commit)).1 = .error e) ∨
        w.Exchange sent (c.perform w (.tenant id user .commit)).1) := by
  have henter := enter_grows (P := fun s => s.isData = false) Statement.isData_simple c
  have hopen := depth_enter c
  rw [perform_tenant] at h ⊢
  generalize c.enter = entered at *
  obtain ⟨failure | failure, opened⟩ := entered
  · have hone : opened.link.depth = 1 := by simpa [hdepth] using hopen
    have hlevel := depth_setContext_le hone id user
    have hset := setContext_grows (P := fun s => s.isData = false) Statement.isData_simple
      (Statement.aside_context id user).not_data opened
    obtain ⟨sent, hrun, hwork⟩ := Work.exchange hdata (opened.setContext id user)
    have hready (a : α) := @Work.Begins.ready_of_ok _ _ _ _ _ a hbegins hstops
      (opened.setContext id user)
    have hrunning : (opened.setContext id user).wire.Grows (fun _ => True)
        (w.run (opened.setContext id user)).2.wire := w.sends_any.grows _ fun _ _ => trivial
    simp only at henter h ⊢
    generalize w.run (opened.setContext id user) = done at *
    have hclosing := conclude_grows (P := fun _ => True) (fun _ => trivial) .commit done
    have hclosed := (conclude_grows (P := fun s => s.isData = false) Statement.isData_simple
      .commit done).data_eq
    have hbefore := ((henter.trans hset).mono fun _ _ => trivial).trans hrunning
    refine ⟨sent, by rw [hclosed, hrun, hset.data_eq, henter.data_eq], .inr ?_⟩
    rw [conclude_committed (fun a hok => hready a hok) hlevel (h.split hbefore hclosing).2]
    exact hwork
  · exact ⟨[], by rw [List.append_nil]; exact henter.data_eq, .inl ⟨rfl, _, rfl⟩⟩

end Channel

/-- **Framed work answers as the work in it, unless there is no transaction for it or its commit
fails.** -/
theorem Pool.perform_committed (hbegins : w.Begins) (hdata : w.Sends fun s => s.isData = true)
    (hstops : w.Stops (fun _ => False) label) {p : Pool σ} (hp : p.AtRest) (id : String)
    (user : Option String)
    (h : p.wire.Adds Sent.NoFailedCommit (p.perform (.tenant id user .commit) w).2.wire) :
    ∃ sent, data (p.perform (.tenant id user .commit) w).2.wire.log = data p.wire.log ++ sent ∧
      ((sent = [] ∧ ∃ e, (p.perform (.tenant id user .commit) w).1 = .error e) ∨
        w.Exchange sent (p.perform (.tenant id user .commit) w).1) := by
  have hacquired := hp.acquired (P := fun s => s.isData = false) rfl
  rw [perform] at h ⊢
  generalize p.acquire = acquired at *
  cases hacquired with
  | refused f hgrows _ =>
    exact ⟨[], by rw [List.append_nil]; exact hgrows.data_eq, .inl ⟨rfl, _, rfl⟩⟩
  | @given w₀ p' hgrows =>
    have hperforming : w₀.Grows (fun _ => True)
        (Channel.perform w (.tenant id user .commit) ⟨w₀, .fresh⟩).2.wire :=
      Channel.perform_grows (fun _ => trivial) w.sends_any (fun _ _ _ _ => trivial) _
    have hreleasing := release_grows (P := fun _ => True) (fun _ => trivial)
      (Channel.perform w (.tenant id user .commit) ⟨w₀, .fresh⟩).2 p'
    have hreleased := (release_grows (P := fun s => s.isData = false) Statement.isData_simple
      (Channel.perform w (.tenant id user .commit) ⟨w₀, .fresh⟩).2 p').data_eq
    obtain ⟨-, hrest⟩ := h.split (hgrows.mono fun _ _ => trivial) (hperforming.trans hreleasing)
    obtain ⟨sent, hlog, hwork⟩ := Channel.perform_committed hbegins hdata hstops
      (c := ⟨w₀, .fresh⟩) rfl id user (hrest.split hperforming hreleasing).1
    exact ⟨sent, by rw [← hgrows.data_eq, ← hlog]; exact hreleased, hwork⟩

end KnowledgeBase
