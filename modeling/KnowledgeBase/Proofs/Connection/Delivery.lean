import KnowledgeBase.Proofs.Connection.Served
import KnowledgeBase.Proofs.Connection.Stops

/-!
# Work in a transaction of its own

Work that ends with its first failure is sent statement by statement: what waits on its connection
goes ahead of its first statement, and nothing comes in between.  So the record of such work in a
transaction has three parts: what opens the transaction and sets the context, what the work itself
sends, and what ends the transaction.

## Main definitions

* `Work.Delivered` — a run of a program whose statements were all sent.
* `Pool.Transacted` — what framed work that commits at the end comes to.
* `Pool.Unfolds` — the record grows by that, and the answer is that of it.

## Main results

* `Work.Stops.delivered_behind` — a program is delivered behind what waits, or is not begun.
* `Channel.setContext_kept` — what is sent ahead of the work when the savepoint was answered.
* `Channel.Prepared.closes` — what is sent behind the work, and the answer.
* `Pool.transacted` — framed work is not begun, is committed or undone, or goes astray.
-/

namespace KnowledgeBase

open Sql

variable {σ α : Type} {label : Statement → Failure → StoreError → Prop}

/-! ### Programs -/

/-- An answer of a program whose statements were all sent, and the statements with their replies. -/
inductive Work.Delivered : Work α → List Sent → Except StoreError α → Prop where
  | done (a : α) : Delivered (.done a) [] (.ok a)
  | fail (e : StoreError) : Delivered (.fail e) [] (.error e)
  | sent {s : Statement} {next : Except Failure Reply → Work α} {sent : List Sent}
    {answer : Except StoreError α} (r : Reply) (rest : Delivered (next r.outcome) sent answer) :
    Delivered (.step s next) (⟨s, r⟩ :: sent) answer

namespace Work.Delivered

variable {s : Statement} {next : Except Failure Reply → Work α} {r : Reply}

/-- A statement is sent and fails, and the program with it. -/
theorem refused {f : Failure} {e : StoreError} (hreply : r.failure? = some f)
    (hnext : next (.error f) = .fail e) : (Work.step s next).Delivered [⟨s, r⟩] (.error e) := by
  refine .sent r ?_
  have houtcome : r.outcome = .error f := by
    rw [Reply.outcome, hreply]
    rfl
  rw [houtcome, hnext]
  exact .fail e

/-- A statement is sent and answered, and the program goes on. -/
theorem answered {sent : List Sent} {answer : Except StoreError α} (hreply : r.failure? = none)
    (hrest : (next (.ok r)).Delivered sent answer) :
    (Work.step s next).Delivered (⟨s, r⟩ :: sent) answer := by
  refine .sent r ?_
  rw [Reply.outcome_of_failure? hreply]
  exact hrest

end Work.Delivered

/-- A text without values. -/
def Sql.Statement.IsText (s : Statement) : Prop := ∃ sql, s = .simple sql

theorem Sql.Statement.isText_simple (sql : String) : (simple sql).IsText := ⟨sql, rfl⟩

theorem Sql.Statement.context_ne_simple (tenant : String) (user : Option String) (sql : String) :
    contextStatement tenant user ≠ .simple sql := nofun

variable [Server σ]

namespace Work.Stops

variable {w : Work α} {P : Statement → Prop}

/-- On a connection that stands, a program that passes no failure over is delivered. -/
theorem delivered (hw : w.Stops (fun _ => False) label) {c : Channel σ} (hq : c.link.queue = [])
    (halive : c.link.alive = true) :
    ∃ sent, (w.run c).2.wire.log = c.wire.log ++ sent ∧ w.Delivered sent (w.run c).1 := by
  induction hw generalizing c with
  | done a => exact ⟨[], (List.append_nil _).symm, .done a⟩
  | fail e => exact ⟨[], (List.append_nil _).symm, .fail e⟩
  | @hard s next failed _ ih =>
    obtain ⟨r, w, hexecute, hlog⟩ := Channel.execute_of_ready hq halive s
    rw [run, hexecute]
    cases hreply : r.failure? with
    | some f =>
      obtain ⟨e, hnext, -⟩ := failed f
      simp only [Option.elim_some, hnext]
      exact ⟨[⟨s, r⟩], hlog, .refused hreply hnext⟩
    | none =>
      rw [Reply.isLost_of_failure? hreply]
      obtain ⟨sent, hlog', hsent⟩ := ih r (c := ⟨w, c.link.depth, [], true⟩) rfl rfl
      refine ⟨⟨s, r⟩ :: sent, ?_, .answered hreply hsent⟩
      exact hlog'.trans (by rw [hlog, List.append_assoc]; rfl)
  | soft hsoft => exact hsoft.elim

/-- On any connection, a program that passes no failure over is delivered behind what waits there,
or its first statement is not sent. -/
theorem delivered_behind (hw : w.Stops (fun _ => False) label) {c : Channel σ}
    (hq : ∀ sql ∈ c.link.queue, P (.simple sql)) :
    ∃ waited sent, (w.run c).2.wire.log = c.wire.log ++ waited ++ sent ∧
      (∀ x ∈ waited, P x.statement) ∧
      (w.Delivered sent (w.run c).1 ∨
        sent = [] ∧ (∃ e, (w.run c).1 = .error e) ∧
          (c.link.queue ≠ [] ∨ c.link.alive = false)) := by
  cases hw with
  | done a => exact ⟨[], [], by simp [run], nofun, .inl (.done a)⟩
  | fail e => exact ⟨[], [], by simp [run], nofun, .inl (.fail e)⟩
  | @hard s next failed answered =>
    have hexecuted := Channel.executed hq s
    rw [run]
    generalize c.execute s = executed at *
    cases hexecuted with
    | unsent f alive hwait hcause =>
      obtain ⟨waited, hlog, hwaited⟩ := hwait
      obtain ⟨e, hnext, -⟩ := failed f
      simp only [hnext]
      exact ⟨waited, [], by simpa [run] using hlog, hwaited, .inr ⟨rfl, ⟨e, rfl⟩, hcause⟩⟩
    | refused r f hwait hlog hreply =>
      obtain ⟨waited, hlog', hwaited⟩ := hwait
      obtain ⟨e, hnext, -⟩ := failed f
      simp only [hnext]
      exact ⟨waited, [⟨s, r⟩], by rw [← hlog']; exact hlog, hwaited, .inl (.refused hreply hnext)⟩
    | @answered w₁ w₂ r hwait hlog hreply =>
      obtain ⟨waited, hlog', hwaited⟩ := hwait
      obtain ⟨sent, hlog'', hsent⟩ :=
        (answered r).delivered (c := (⟨w₂, c.link.depth, [], true⟩ : Channel σ)) rfl rfl
      refine ⟨waited, ⟨s, r⟩ :: sent, ?_, hwaited, .inl (.answered hreply hsent)⟩
      exact hlog''.trans (by rw [hlog, hlog', List.append_assoc]; rfl)
  | soft hsoft => exact hsoft.elim

end Work.Stops

/-! ### The context -/

/-- The context is sent next when its savepoint was answered. -/
theorem Channel.context_follows {c : Channel σ} (h : c.link = .ready 1) (tenant : String)
    (user : Option String) :
    ∃ r rest, (c.setContext tenant user).wire.log =
        c.wire.log ++ ⟨.simple (Link.beginText 1), r⟩ :: rest ∧
      (r.failure? = none → ∃ x ∈ rest, x.statement = contextStatement tenant user) := by
  obtain ⟨w₀, link⟩ := c
  cases h
  obtain ⟨r, w, hlog, ⟨hreply, henter⟩ | ⟨f, hreply, henter⟩⟩ :=
    enter_cases (c := (⟨w₀, 1, [], true⟩ : Channel σ)) rfl rfl
  · obtain ⟨r', w', hexecute, hlog'⟩ := execute_of_ready (c := (⟨w, 2, [], true⟩ : Channel σ)) rfl
      rfl (contextStatement tenant user)
    change enter (⟨w₀, 1, [], true⟩ : Channel σ) = (none, ⟨w, 2, [], true⟩) at henter
    have hleave (text : Nat → String) :
        w'.Grows (fun _ => True) (settle (leave text ⟨w', 2, [], !r'.isLost⟩)).wire :=
      settle_grows (leave_grows (fun _ => trivial) text ⟨w', 2, [], !r'.isLost⟩)
    -- whichever way the level is left, the record only grows
    have hrest : w'.Grows (fun _ => True) (setContext tenant user ⟨w₀, 1, [], true⟩).wire := by
      simp only [setContext, henter, hexecute]
      cases r'.failure? with
      | none => exact hleave Link.commitText
      | some f => exact hleave Link.rollbackText
    obtain ⟨rest, hlog'', -⟩ := hrest
    refine ⟨r, ⟨contextStatement tenant user, r'⟩ :: rest, ?_, fun _ => ⟨_, .head _, rfl⟩⟩
    rw [hlog'', hlog', hlog, List.append_assoc, List.append_assoc]
    rfl
  · refine ⟨r, [], ?_, ?_⟩
    · rw [setContext, henter]
      exact hlog
    · intro hnone
      rw [hreply] at hnone
      cases hnone

/-- What is sent ahead of the work in a frame: texts, and the context of the frame. -/
def Sql.Statement.Ahead (id : String) (user : Option String) (s : Statement) : Prop :=
  s = contextStatement id user ∨ s.IsText

/-- A savepoint that was answered is followed by the context, and by nothing but texts and the
context.  If all of it was answered, nothing waits on the connection and it stands. -/
theorem Channel.setContext_kept {w₁ w₂ : Wire σ} {c : Channel σ} {r : Reply} {id : String}
    {user : Option String} (hc : setContext id user ⟨w₁, 1, [], true⟩ = c)
    (hr : r.failure? = none) (hlog : w₂.log = w₁.log ++ [⟨.simple (Link.beginText 1), r⟩])
    (hrest : w₂.Grows Statement.Aside c.wire) :
    ∃ lead, c.wire.log = w₁.log ++ lead ∧ (∀ x ∈ lead, x.statement.Ahead id user) ∧
      (∃ x ∈ lead, x.statement = contextStatement id user) ∧
      (∀ x ∈ lead, ¬ x.RefusesSavepoint) ∧
      ((∀ x ∈ lead, x.Answered) → c.link = .ready 1) := by
  obtain ⟨set, hset, haside⟩ := hrest
  have hlog' : c.wire.log = w₁.log ++ ⟨.simple (Link.beginText 1), r⟩ :: set := by
    rw [hset, hlog, List.append_assoc]
    rfl
  refine ⟨⟨.simple (Link.beginText 1), r⟩ :: set, hlog', ?_, ?_, ?_, ?_⟩
  · obtain ⟨sent, hsent, hahead⟩ := setContext_grows (P := Statement.Ahead id user)
      (fun sql => .inr ⟨sql, rfl⟩) (.inl rfl) (⟨w₁, 1, [], true⟩ : Channel σ)
    rw [hc, hlog'] at hsent
    cases List.append_cancel_left hsent
    exact hahead
  · obtain ⟨r', rest, hfollows, hnext⟩ :=
      context_follows (c := (⟨w₁, 1, [], true⟩ : Channel σ)) rfl id user
    rw [hc, hlog'] at hfollows
    cases List.append_cancel_left hfollows
    obtain ⟨x, hx, heq⟩ := hnext hr
    exact ⟨x, List.mem_cons_of_mem _ hx, heq⟩
  · refine List.forall_mem_cons.2 ⟨?_, fun x hx hrefuses => (haside x hx).not_savepoint hrefuses.1⟩
    rintro ⟨-, code, message, hrefused⟩
    rw [show r = .error code message from hrefused] at hr
    cases hr
  · intro hanswered
    rw [← hc]
    exact setContext_served (c := (⟨w₁, 1, [], true⟩ : Channel σ)) rfl
      ⟨_, by rw [hc, hlog'], hanswered⟩

/-! ### Framed work -/

/-- What framed work that commits at the end comes to: what is sent ahead of the work, what the work
sends, what is sent after it, and the answer. -/
inductive Pool.Transacted (p : Pool σ) (w : Work α) (id : String) (user : Option String) :
    List Sent → List Sent → List Sent → Except StoreError α → Prop where
  /-- Something failed ahead of the work, or there was no connection. -/
  | unsent {lead : List Sent} (e : StoreError)
    (hcause : (∃ x ∈ lead, ¬ x.Answered) ∨ ∃ f, p.acquire.1 = .error f) :
    Transacted p w id user lead [] [] (.error e)
  | committed {lead done tail : List Sent} {a : α}
    (hcontext : ∃ x ∈ lead, x.statement = contextStatement id user)
    (hsavepoint : ∀ x ∈ lead, ¬ x.RefusesSavepoint) (hdone : w.Delivered done (.ok a))
    (hcommit : ∃ x ∈ tail, x.Commits) : Transacted p w id user lead done tail (.ok a)
  /-- The work fails, or else its transaction cannot be committed. -/
  | undone {lead done tail : List Sent} {answer : Except StoreError α} {e : StoreError}
    (hcontext : ∃ x ∈ lead, x.statement = contextStatement id user)
    (hsavepoint : ∀ x ∈ lead, ¬ x.RefusesSavepoint) (hdone : w.Delivered done answer)
    (herror : ∀ e', answer = .error e' → e = e') (hcommit : ∀ x ∈ tail, ¬ x.Commits) :
    Transacted p w id user lead done tail (.error e)
  /-- The savepoint of the context is refused, and the work goes on without its transaction. -/
  | astray {lead done tail : List Sent} {answer : Except StoreError α}
    (hcontext : ∀ x ∈ lead, x.statement ≠ contextStatement id user)
    (hsavepoint : ∃ x ∈ lead, x.RefusesSavepoint) (hdone : w.Delivered done answer)
    (hcommit : ∀ x ∈ tail, ¬ x.Commits) : Transacted p w id user lead done tail answer

/-- What framed work adds to a record, and its answer, are one of these. -/
def Pool.Unfolds (p : Pool σ) (w : Work α) (id : String) (user : Option String) (before : Wire σ)
    (result : Except StoreError α × Pool σ) : Prop :=
  ∃ lead done tail, result.2.wire.log = before.log ++ (lead ++ done ++ tail) ∧
    (∀ x ∈ lead, x.statement.Ahead id user) ∧ (∀ x ∈ tail, x.statement.IsText) ∧
    p.Transacted w id user lead done tail result.1

namespace Pool

variable {p p' : Pool σ} {w : Work α} {id : String} {user : Option String} {w₀ w₁ w₂ : Wire σ}

/-- More texts may go ahead, if they are no savepoint. -/
theorem Transacted.prepend {more lead done tail : List Sent} {answer : Except StoreError α}
    (h : p.Transacted w id user lead done tail answer)
    (hmore : ∀ x ∈ more, x.statement.IsText ∧ x.statement ≠ .simple (Link.beginText 1)) :
    p.Transacted w id user (more ++ lead) done tail answer := by
  have hnone : ∀ x ∈ more, ¬ x.RefusesSavepoint := fun x hx hrefuses => (hmore x hx).2 hrefuses.1
  cases h with
  | unsent e hcause =>
    refine .unsent e (hcause.imp_left ?_)
    rintro ⟨x, hx, hfailed⟩
    exact ⟨x, List.mem_append_right _ hx, hfailed⟩
  | committed hcontext hsavepoint hdone hcommit =>
    obtain ⟨x, hx, hset⟩ := hcontext
    exact .committed ⟨x, List.mem_append_right _ hx, hset⟩
      (List.forall_mem_append.2 ⟨hnone, hsavepoint⟩) hdone hcommit
  | undone hcontext hsavepoint hdone herror hcommit =>
    obtain ⟨x, hx, hset⟩ := hcontext
    exact .undone ⟨x, List.mem_append_right _ hx, hset⟩
      (List.forall_mem_append.2 ⟨hnone, hsavepoint⟩) hdone herror hcommit
  | astray hcontext hsavepoint hdone hcommit =>
    obtain ⟨x, hx, hrefuses⟩ := hsavepoint
    refine .astray (List.forall_mem_append.2 ⟨?_, hcontext⟩)
      ⟨x, List.mem_append_right _ hx, hrefuses⟩ hdone hcommit
    intro x hx heq
    obtain ⟨sql, hsql⟩ := (hmore x hx).1
    exact Statement.context_ne_simple id user sql (heq.symm.trans hsql)

theorem Unfolds.prepend {more : List Sent} {result : Except StoreError α × Pool σ}
    (h : p.Unfolds w id user w₁ result) (hlog : w₁.log = w₀.log ++ more)
    (hmore : ∀ x ∈ more, x.statement.IsText ∧ x.statement ≠ .simple (Link.beginText 1)) :
    p.Unfolds w id user w₀ result := by
  obtain ⟨lead, done, tail, hlog', hlead, htail, hcases⟩ := h
  refine ⟨more ++ lead, done, tail, ?_, ?_, htail, hcases.prepend hmore⟩
  · rw [hlog', hlog]
    simp
  · exact List.forall_mem_append.2 ⟨fun x hx => .inr (hmore x hx).1, hlead⟩

/-- Nothing of the work is sent. -/
theorem unfolds_of_unsent (lead : List Sent) {e : StoreError}
    (hlog : p'.wire.log = w₀.log ++ lead) (hlead : ∀ x ∈ lead, x.statement.Ahead id user)
    (hcause : (∃ x ∈ lead, ¬ x.Answered) ∨ ∃ f, p.acquire.1 = .error f) :
    p.Unfolds w id user w₀ (.error e, p') :=
  ⟨lead, [], [], by simpa using hlog, hlead, nofun, .unsent e hcause⟩

end Pool

/-- The end of framed work passes an error of the work on. -/
theorem Channel.conclude_answer (ending : Ending) (answer : Except StoreError α) (c : Channel σ) :
    (conclude ending (answer, c)).1 = answer ∨
      (∃ a, answer = .ok a) ∧ ∃ e, (conclude ending (answer, c)).1 = .error e := by
  cases answer with
  | error e => exact .inl rfl
  | ok a =>
    rw [conclude]
    obtain ⟨failure | failure, c'⟩ := c.finish ending
    · exact .inl rfl
    · exact .inr ⟨⟨a, rfl⟩, _, rfl⟩

/-- From a transaction that was kept, only texts are sent behind the work.  Either the work succeeds
and is committed, or the answer is an error and nothing is. -/
theorem Channel.Prepared.closes {c : Channel σ} (h : c.Prepared) (answer : Except StoreError α)
    (p : Pool σ) :
    ∃ tail, (p.release (conclude .commit (answer, c)).2).wire.log = c.wire.log ++ tail ∧
      (∀ x ∈ tail, x.statement.IsText) ∧
      ((∃ a, answer = .ok a ∧ (conclude .commit (answer, c)).1 = .ok a ∧ ∃ x ∈ tail, x.Commits) ∨
        ∃ e, (conclude .commit (answer, c)).1 = .error e ∧ (∀ e', answer = .error e' → e = e') ∧
          ∀ x ∈ tail, ¬ x.Commits) := by
  obtain ⟨tail, hlog, -, hended⟩ := h.ended answer p
  have hgrows : c.wire.Grows Statement.IsText (p.release (conclude .commit (answer, c)).2).wire :=
    (conclude_grows Statement.isText_simple .commit (answer, c)).trans
      (Pool.release_grows Statement.isText_simple _ p)
  obtain ⟨tail', hlog', htexts⟩ := hgrows
  cases List.append_cancel_left (hlog.symm.trans hlog')
  refine ⟨tail, hlog, htexts, ?_⟩
  have hanswer := conclude_answer .commit answer c
  generalize (conclude .commit (answer, c)).1 = result at *
  cases result with
  | ok a =>
    left
    generalize hok : (Except.ok a : Except StoreError α).isOk = ok at hended
    cases hended with
    | @committed waited x kept hwait hcommits =>
      rcases hanswer with rfl | ⟨-, e, he⟩
      · exact ⟨a, rfl, rfl, x, by simp, hcommits⟩
      · cases he
    | undone _ _ => cases hok
  | error e =>
    right
    generalize hok : (Except.error e : Except StoreError α).isOk = ok at hended
    cases hended with
    | committed _ _ => cases hok
    | undone hharmless _ =>
      refine ⟨e, rfl, ?_, fun x hx => (hharmless x hx).not_commits⟩
      rintro e' rfl
      rcases hanswer with heq | ⟨⟨a, ha⟩, -⟩
      · cases heq
        rfl
      · cases ha

namespace Pool

variable {p p' : Pool σ} {w : Work α} {id : String} {user : Option String} {w₀ w₁ w₂ : Wire σ}
  (hw : w.Stops (fun _ => False) label)

include hw

/-- The transaction is opened, and kept while the context is set. -/
theorem unfolds_of_kept {c : Channel σ} {r : Reply}
    (hc : Channel.setContext id user ⟨w₁, 1, [], true⟩ = c) (hr : r.failure? = none)
    (hlog : w₂.log = w₁.log ++ [⟨.simple (Link.beginText 1), r⟩])
    (hrest : w₂.Grows Statement.Aside c.wire) (hprepared : c.Prepared) :
    p.Unfolds w id user w₁ ((Channel.conclude .commit (w.run c)).1,
      p'.release (Channel.conclude .commit (w.run c)).2) := by
  obtain ⟨lead, hlog', hahead, hcontext, hnone, hready⟩ :=
    Channel.setContext_kept hc hr hlog hrest
  obtain ⟨waited, done, hrun, hwaited, hcases⟩ :=
    hw.delivered_behind (P := fun s => s.Aside ∧ s.IsText) (c := c)
      fun sql hsql => ⟨hprepared.aside sql hsql, sql, rfl⟩
  have hworked := hprepared.run w
  generalize w.run c = worked at *
  obtain ⟨answer, c'⟩ := worked
  obtain ⟨tail, htail, htexts, hends⟩ := hworked.closes answer p'
  simp only at hrun hcases htail
  -- the roll-back of the context's level may still wait, and goes ahead of the work as well
  have hlead : ∀ x ∈ lead ++ waited, x.statement.Ahead id user :=
    List.forall_mem_append.2 ⟨hahead, fun x hx => .inr (hwaited x hx).2⟩
  have hset : ∃ x ∈ lead ++ waited, x.statement = contextStatement id user := by
    obtain ⟨x, hx, heq⟩ := hcontext
    exact ⟨x, List.mem_append_left _ hx, heq⟩
  have hsavepoint : ∀ x ∈ lead ++ waited, ¬ x.RefusesSavepoint :=
    List.forall_mem_append.2 ⟨hnone, fun x hx h => (hwaited x hx).1.not_savepoint h.1⟩
  rcases hcases with hdone | ⟨rfl, ⟨e, rfl⟩, hcause⟩
  · refine ⟨lead ++ waited, done, tail, by rw [htail, hrun, hlog']; simp, hlead, htexts, ?_⟩
    rcases hends with ⟨a, rfl, hresult, hcommit⟩ | ⟨e, hresult, herror, hcommit⟩
    · rw [hresult]
      exact .committed hset hsavepoint hdone hcommit
    · rw [hresult]
      exact .undone hset hsavepoint hdone herror hcommit
  · refine unfolds_of_unsent (lead ++ waited ++ tail) (by rw [htail, hrun, hlog']; simp)
      (List.forall_mem_append.2 ⟨hlead, fun x hx => .inr (htexts x hx)⟩) (.inl ?_)
    have hfailed : ¬ ∀ x ∈ lead, x.Answered := by
      intro hanswered
      rw [hready hanswered] at hcause
      rcases hcause with hcause | hcause
      · exact hcause rfl
      · cases hcause
    simp only [Classical.not_forall] at hfailed
    obtain ⟨x, hx, hfailed⟩ := hfailed
    exact ⟨x, by simp [hx], hfailed⟩

/-- The savepoint of the context fails.  The driver takes the transaction for lost, and the work
goes on if the connection still stands. -/
theorem unfolds_of_lost (hbegins : w.Begins) {r : Reply} {f : Failure} (hr : r.failure? = some f)
    (hlog : w₂.log = w₁.log ++ [⟨.simple (Link.beginText 1), r⟩]) :
    p.Unfolds w id user w₁ ((w.run ⟨w₂, 0, [Link.rollbackText 0], !r.isLost⟩).1,
      p'.release (w.run ⟨w₂, 0, [Link.rollbackText 0], !r.isLost⟩).2) := by
  have hrollback : ∀ sql ∈ [Link.rollbackText 0], Statement.simple sql = .simple "ROLLBACK" := by
    intro sql hsql
    rw [List.mem_singleton.1 hsql]
    rfl
  obtain ⟨waited, done, hrun, hwaited, hcases⟩ :=
    hw.delivered_behind (P := fun s => s = .simple "ROLLBACK")
      (c := (⟨w₂, 0, [Link.rollbackText 0], !r.isLost⟩ : Channel σ)) hrollback
  have hbroken : r.isLost = true →
      (w.run ⟨w₂, 0, [Link.rollbackText 0], !r.isLost⟩).2.wire = w₂ := by
    intro hlost
    rw [hlost]
    exact (Work.run_of_broken (c := (⟨w₂, 0, [Link.rollbackText 0], false⟩ : Channel σ)) rfl).1
  have hqueue := @Work.mem_queue_run _ _ _ w ⟨w₂, 0, [Link.rollbackText 0], !r.isLost⟩
  generalize w.run ⟨w₂, 0, [Link.rollbackText 0], !r.isLost⟩ = worked at *
  obtain ⟨answer, c⟩ := worked
  have hreleased : c.wire.Grows (fun s => s = .simple "ROLLBACK") (p'.release c).wire :=
    Channel.flush_grows fun sql hsql => hrollback sql (hqueue hsql)
  obtain ⟨tail, htail, htexts⟩ := hreleased
  have hlead : ∀ x ∈ (⟨.simple (Link.beginText 1), r⟩ : Sent) :: waited, x.statement.IsText :=
    List.forall_mem_cons.2 ⟨⟨_, rfl⟩, fun x hx => ⟨_, hwaited x hx⟩⟩
  simp only at hrun hcases hbroken
  rcases hcases with hdone | ⟨rfl, ⟨e, rfl⟩, -⟩
  · refine ⟨⟨.simple (Link.beginText 1), r⟩ :: waited, done, tail, ?_,
      fun x hx => .inr (hlead x hx), fun x hx => ⟨_, htexts x hx⟩, .astray ?_ ?_ hdone ?_⟩
    · rw [htail, hrun, hlog]
      simp
    · intro x hx heq
      obtain ⟨sql, hsql⟩ := hlead x hx
      exact Statement.context_ne_simple id user sql (heq.symm.trans hsql)
    · refine ⟨_, List.mem_cons_self, rfl, ?_⟩
      cases r with
      | done n => cases hr
      | rows rows => cases hr
      | error code message => exact ⟨code, message, rfl⟩
      | lost =>
        -- over a broken connection not even the first statement of the work is sent
        exfalso
        rw [hbroken rfl, List.append_assoc, List.self_eq_append_right] at hrun
        cases hbegins
        cases hdone
        simp at hrun
    · exact fun x hx => (Sent.harmless_rollback (htexts x hx)).not_commits
  · refine unfolds_of_unsent (⟨.simple (Link.beginText 1), r⟩ :: waited ++ tail) ?_ ?_
      (.inl ⟨_, List.mem_cons_self, ?_⟩)
    · rw [htail, hrun, hlog]
      simp
    · exact List.forall_mem_append.2
        ⟨fun x hx => .inr (hlead x hx), fun x hx => .inr ⟨_, htexts x hx⟩⟩
    · intro hanswered
      exact absurd (hr.symm.trans hanswered) (Option.some_ne_none f)

/-- **Work in a transaction of its own is not begun, is committed or undone, or goes astray**, and
the last only if the savepoint of its context is refused. -/
theorem transacted (h : p.AtRest) (hbegins : w.Begins) (id : String) (user : Option String) :
    p.Unfolds w id user p.wire (p.perform (.tenant id user .commit) w) := by
  have hacquired := h.acquired (P := fun s => s.IsText ∧ s ≠ .simple (Link.beginText 1))
    ⟨⟨_, rfl⟩, (Statement.aside_searchPath p.schema).not_savepoint⟩
  rw [Pool.perform]
  generalize hacquire : p.acquire = acquired at *
  cases hacquired with
  | refused f hsent _ =>
    obtain ⟨lead, hlog, hlead⟩ := hsent
    exact unfolds_of_unsent lead hlog (fun x hx => .inr (hlead x hx).1) (.inr ⟨f, by rw [hacquire]⟩)
  | @given w₀ p' hsent =>
    obtain ⟨before, hlog₀, hbefore⟩ := hsent
    refine Unfolds.prepend ?_ hlog₀ hbefore
    obtain ⟨r, w₁, hlog₁, hcases⟩ := Channel.enter_cases (c := (⟨w₀, .fresh⟩ : Channel σ)) rfl rfl
    have hbegin : ∀ x ∈ [(⟨.simple (Link.beginText Link.fresh.depth), r⟩ : Sent)],
        x.statement.IsText ∧ x.statement ≠ .simple (Link.beginText 1) :=
      List.forall_mem_singleton.2 ⟨⟨_, rfl⟩, Statement.ne_savepoint_of_mark rfl⟩
    rcases hcases with ⟨hreply, henter⟩ | ⟨f, hreply, henter⟩
    · change _ = (none, (⟨w₁, 1, [], true⟩ : Channel σ)) at henter
      refine Unfolds.prepend ?_ hlog₁ hbegin
      simp only [Channel.perform_tenant, henter]
      have hcontext := Channel.afterContext (c := (⟨w₁, 1, [], true⟩ : Channel σ)) rfl id user
      generalize hc : Channel.setContext id user (⟨w₁, 1, [], true⟩ : Channel σ) = c at *
      cases hcontext with
      | kept r' hr hlog hrest hprepared => exact unfolds_of_kept hw hc hr hlog hrest hprepared
      | lost r' f hr hlog =>
        rw [Channel.conclude_of_no_level (w.depth_run _)]
        exact unfolds_of_lost hw hbegins hr hlog
    · change _ = (some f, (⟨w₁, 0, [], !r.isLost⟩ : Channel σ)) at henter
      simp only [Channel.perform_tenant, henter]
      refine unfolds_of_unsent [⟨.simple "BEGIN", r⟩] ?_ ?_ (.inl ⟨_, .head _, ?_⟩)
      · rw [release_of_queue_nil rfl]
        exact hlog₁
      · exact List.forall_mem_singleton.2 (.inr ⟨_, rfl⟩)
      · intro hanswered
        exact absurd (hreply.symm.trans hanswered) (Option.some_ne_none f)

end Pool

end KnowledgeBase
