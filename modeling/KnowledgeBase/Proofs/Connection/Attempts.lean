import KnowledgeBase.Proofs.Connection.Lifetime

/-!
# Statements handed to a connection

A program hands statements to its connection one after the other, and each comes back with a reply
or a failure.  As long as the connection stands, what is handed over is what is sent; once it has
broken, every further statement fails without being sent.  So what a program does can be told from
its attempts, and the record of the connection follows.

## Main definitions

* `Attempt` — a statement with what came back.
* `Work.attempts`, `Channel.attempts`, `Operation.attempts` — the attempts of a program, of framed
  work and of an operation.
* `Work.Tries` — the attempts that a program may make, and its answer to them, without a connection.
* `Attempt.Carried` — what a record holds of some attempts.

## Main results

* `Work.tries` — a run makes attempts that the program may make.
* `Work.Tries.of_bind` — the attempts of two programs are taken apart.
* `Work.carried` — a run adds to the record what is carried of its attempts.
-/

namespace KnowledgeBase

open Sql

/-- What comes back to a program when the database has replied. -/
def Sql.Reply.outcome (r : Reply) : Except Failure Reply := r.failure?.elim (.ok r) .error

/-- What comes back when the connection breaks, or has broken before. -/
def Sql.Failure.broken : Failure := .io "connection lost"

/-- A statement handed to a connection, and what came back. -/
structure Attempt where
  statement : Statement
  result : Except Failure Reply

/-- The attempt that a statement was sent for. -/
def Sql.Sent.attempt (e : Sent) : Attempt := ⟨e.statement, e.reply.outcome⟩

namespace Attempt

/-- A reply came back. -/
def Succeeded (a : Attempt) : Prop := ∃ r, a.result = .ok r

/-- Whether a failure came back. -/
def failed (a : Attempt) : Bool :=
  match a.result with
  | .ok _ => false
  | .error _ => true

/-- What a record holds of some attempts on a connection that stood: all of them, unless the
connection broke.  Those after that fail and are not sent. -/
structure Carried (tried : List Attempt) (sent : List Sent) : Prop where
  split : ∃ unsent, tried = sent.map Sent.attempt ++ unsent ∧
    (unsent ≠ [] → ∃ before s, sent = before ++ [⟨s, .lost⟩]) ∧
      ∀ a ∈ unsent, a.result = .error .broken

end Attempt

theorem Sql.Reply.outcome_of_failure? {r : Reply} (h : r.failure? = none) : r.outcome = .ok r := by
  rw [outcome, h]
  rfl

theorem Sql.Reply.outcome_eq_ok {r r' : Reply} (h : r.outcome = .ok r') :
    r = r' ∧ r.failure? = none := by
  cases hreply : r.failure? with
  | none =>
    rw [outcome_of_failure? hreply] at h
    exact ⟨Except.ok.inj h, rfl⟩
  | some f =>
    rw [outcome, hreply] at h
    cases h

namespace Attempt.Carried

variable {tried : List Attempt} {sent : List Sent}

/-- What is sent is handed over, in the same order and from the first on. -/
theorem statements_isPrefix (h : Carried tried sent) :
    sent.map Sent.statement <+: tried.map Attempt.statement := by
  obtain ⟨unsent, rfl, -, -⟩ := h.split
  rw [List.map_append, List.map_map]
  exact List.prefix_append _ _

/-- What is sent was handed over. -/
theorem attempt_mem {e : Sent} (h : Carried tried sent) (he : e ∈ sent) : e.attempt ∈ tried := by
  obtain ⟨unsent, rfl, -, -⟩ := h.split
  exact List.mem_append_left _ (List.mem_map_of_mem he)

/-- An attempt that succeeded was sent, and so was everything before it. -/
theorem of_succeeded {before after : List Attempt} {a : Attempt}
    (h : Carried (before ++ a :: after) sent) (ha : a.Succeeded) :
    ∃ before' e after', sent = before' ++ e :: after' ∧ before = before'.map Sent.attempt ∧
      a = e.attempt := by
  obtain ⟨unsent, hsplit, -, hbroken⟩ := h.split
  obtain ⟨r, hr⟩ := ha
  rcases List.append_eq_append_iff.1 hsplit with ⟨l, hl, hrest⟩ | ⟨l, hl, hrest⟩
  · cases l with
    | nil =>
      rw [List.nil_append] at hrest
      have hfailed := hbroken a (hrest ▸ List.mem_cons_self)
      rw [hr] at hfailed
      cases hfailed
    | cons b l =>
      obtain ⟨rfl, -⟩ := List.cons.inj hrest
      obtain ⟨before', rest, rfl, rfl, hrest'⟩ := List.map_eq_append_iff.1 hl
      obtain ⟨e, after', rfl, rfl, -⟩ := List.map_eq_cons_iff.1 hrest'
      exact ⟨before', e, after', rfl, rfl, rfl⟩
  · have hfailed := hbroken a (hrest ▸ List.mem_append_right _ List.mem_cons_self)
    rw [hr] at hfailed
    cases hfailed

theorem sent_of_succeeded {a : Attempt} (h : Carried tried sent) (hmem : a ∈ tried)
    (ha : a.Succeeded) : ∃ e ∈ sent, e.attempt = a ∧ e.reply.failure? = none := by
  obtain ⟨before, after, rfl⟩ := List.append_of_mem hmem
  obtain ⟨before', e, after', rfl, -, rfl⟩ := h.of_succeeded ha
  obtain ⟨r, hr⟩ := ha
  exact ⟨e, List.mem_append_right _ List.mem_cons_self, rfl, (Reply.outcome_eq_ok hr).2⟩

/-- Where every attempt succeeded, all of them are sent. -/
theorem map_attempt (h : Carried tried sent) (hall : ∀ a ∈ tried, a.Succeeded) :
    sent.map Sent.attempt = tried := by
  obtain ⟨unsent, rfl, -, hbroken⟩ := h.split
  cases unsent with
  | nil => exact (List.append_nil _).symm
  | cons a unsent =>
    obtain ⟨r, hr⟩ := hall a (List.mem_append_right _ List.mem_cons_self)
    have hfailed := hbroken a List.mem_cons_self
    rw [hr] at hfailed
    cases hfailed

/-- What is handed over after an attempt that succeeded is sent. -/
theorem next_sent {before after : List Attempt} {a b : Attempt}
    (h : Carried (before ++ a :: b :: after) sent) (ha : a.Succeeded) :
    ∃ e ∈ sent, e.attempt = b := by
  obtain ⟨before', e, after', rfl, rfl, rfl⟩ := h.of_succeeded ha
  obtain ⟨unsent, hsplit, hcause, -⟩ := h.split
  rw [List.map_append, List.map_cons, List.append_assoc, List.append_cancel_left_eq,
    List.cons_append, List.cons_inj_right] at hsplit
  cases after' with
  | cons e' after' =>
    have hnext := (List.cons.inj hsplit).1
    exact ⟨e', List.mem_append_right _ (List.mem_cons_of_mem _ List.mem_cons_self), hnext.symm⟩
  | nil =>
    -- then the attempt that succeeded would be the last before the connection broke
    have hunsent : unsent = b :: after := hsplit.symm
    obtain ⟨before'', s, hlast⟩ := hcause (hunsent ▸ List.cons_ne_nil b after)
    obtain ⟨-, hlost⟩ := List.append_inj' hlast rfl
    cases (List.cons.inj hlost).1
    obtain ⟨r, hr⟩ := ha
    cases hr

end Attempt.Carried

variable {σ α β : Type}

/-! ### Programs -/

/-- The attempts that a program may make, and its answer to them. -/
inductive Work.Tries : Work α → List Attempt → Except StoreError α → Prop where
  | done (a : α) : Tries (.done a) [] (.ok a)
  | fail (e : StoreError) : Tries (.fail e) [] (.error e)
  | step {s : Statement} {next : Except Failure Reply → Work α} {tried : List Attempt}
    {answer : Except StoreError α} (r : Except Failure Reply) (rest : Tries (next r) tried answer) :
    Tries (.step s next) (⟨s, r⟩ :: tried) answer

namespace Work.Tries

/-- The first of two programs fails, or the second goes on from its value. -/
theorem of_bind {w : Work α} {f : α → Work β} {tried : List Attempt} {answer : Except StoreError β}
    (h : (w >>= f).Tries tried answer) :
    (∃ e, answer = .error e ∧ w.Tries tried (.error e)) ∨
      ∃ a tried₁ tried₂, tried = tried₁ ++ tried₂ ∧ w.Tries tried₁ (.ok a) ∧
        (f a).Tries tried₂ answer := by
  induction w generalizing tried with
  | done a => exact .inr ⟨a, [], tried, rfl, .done a, h⟩
  | fail e =>
    cases h
    exact .inl ⟨e, rfl, .fail e⟩
  | step s next ih =>
    rw [step_bind] at h
    cases h with
    | step r rest =>
      rcases ih r rest with ⟨e, rfl, hfailed⟩ | ⟨a, tried₁, tried₂, rfl, hfirst, hsecond⟩
      · exact .inl ⟨e, rfl, .step r hfailed⟩
      · exact .inr ⟨a, _, tried₂, rfl, .step r hfirst, hsecond⟩

end Work.Tries

variable [Server σ]

/-- The attempts of a program that runs over a connection. -/
def Work.attempts : Work α → Channel σ → List Attempt
  | done _, _ => []
  | fail _, _ => []
  | step s next, c =>
    let (r, c) := c.execute s
    ⟨s, r⟩ :: (next r).attempts c

/-- A run makes attempts that the program may make. -/
theorem Work.tries (w : Work α) (c : Channel σ) : w.Tries (w.attempts c) (w.run c).1 := by
  induction w generalizing c with
  | done a => exact .done a
  | fail e => exact .fail e
  | step s next ih => exact .step _ (ih _ _)

namespace Channel

/-- Over a broken connection a statement fails and is not sent. -/
theorem execute_eq_of_broken {c : Channel σ} (hq : c.link.queue = [])
    (hbroken : c.link.alive = false) (s : Statement) : c.execute s = (.error .broken, c) := by
  rw [execute, flush_of_queue_nil hq]
  simp only [send_of_broken hbroken]
  rfl

end Channel

/-- Over a broken connection every attempt fails. -/
theorem Work.attempts_of_broken (w : Work α) {c : Channel σ} (hq : c.link.queue = [])
    (hbroken : c.link.alive = false) : ∀ a ∈ w.attempts c, a.result = .error .broken := by
  induction w with
  | done a => exact nofun
  | fail e => exact nofun
  | step s next ih =>
    rw [attempts, Channel.execute_eq_of_broken hq hbroken s]
    exact List.forall_mem_cons.2 ⟨rfl, ih (.error .broken)⟩

/-- **A run adds to the record what is carried of its attempts**, when the connection stands and
nothing waits to be sent before. -/
theorem Work.carried (w : Work α) {c : Channel σ} (hq : c.link.queue = [])
    (halive : c.link.alive = true) :
    ∃ sent, (w.run c).2.wire.log = c.wire.log ++ sent ∧ Attempt.Carried (w.attempts c) sent := by
  induction w generalizing c with
  | done a => exact ⟨[], (List.append_nil _).symm, ⟨[], rfl, nofun, nofun⟩⟩
  | fail e => exact ⟨[], (List.append_nil _).symm, ⟨[], rfl, nofun, nofun⟩⟩
  | step s next ih =>
    obtain ⟨r, w, hexecute, hlog⟩ := Channel.execute_of_ready hq halive s
    rw [run, attempts, hexecute]
    cases hlost : r.isLost with
    | false =>
      obtain ⟨sent, hrest, unsent, htried, hcause, hbroken⟩ :=
        ih r.outcome (c := ⟨w, c.link.depth, [], !false⟩) rfl rfl
      refine ⟨⟨s, r⟩ :: sent, ?_, unsent, congrArg (⟨s, r.outcome⟩ :: ·) htried, ?_, hbroken⟩
      · exact hrest.trans (by rw [hlog, List.append_assoc, List.singleton_append])
      · intro hunsent
        obtain ⟨before, last, rfl⟩ := hcause hunsent
        exact ⟨⟨s, r⟩ :: before, last, rfl⟩
    | true =>
      have hreply : r = .lost := by
        cases r with
        | lost => rfl
        | _ => cases hlost
      subst hreply
      have hrun := (Work.run_of_broken (w := next (.error .broken))
        (c := (⟨w, c.link.depth, [], !true⟩ : Channel σ)) rfl).1
      have hbroken := (next (.error .broken)).attempts_of_broken
        (c := (⟨w, c.link.depth, [], !true⟩ : Channel σ)) rfl rfl
      refine ⟨[⟨s, .lost⟩], ?_, _, rfl, fun _ => ⟨[], s, rfl⟩, hbroken⟩
      exact (congrArg Wire.log hrun).trans hlog

/-! ### Frames and operations -/

namespace Channel

/-- The attempt to open a level. -/
def opening (c : Channel σ) : Attempt :=
  ⟨.simple (Link.beginText c.link.depth), (c.execute (.simple (Link.beginText c.link.depth))).1⟩

/-- The attempt to leave the innermost level by a statement, if there is one. -/
def leaving (text : Nat → String) (c : Channel σ) : List Attempt :=
  match c.link.depth with
  | 0 => []
  | depth + 1 => [⟨.simple (text depth), (c.execute (.simple (text depth))).1⟩]

/-- The attempt to end a transaction. -/
def ending : Ending → Channel σ → List Attempt
  | .commit, c => c.leaving Link.commitText
  | .rollback, c => c.leaving Link.rollbackText
  | .abandon, _ => []

/-- The attempts of framed work.  Those that set the context of a tenant are not among them, since
whatever comes back to them is passed over. -/
def attempts (work : Work α) : Frame → Channel σ → List Attempt
  | .bare, c => work.attempts c
  | .tenant id user ending, c =>
    c.opening :: match c.enter with
      | (some _, _) => []
      | (none, c) =>
        work.attempts (c.setContext id user) ++ match work.run (c.setContext id user) with
          | (.error _, _) => []
          | (.ok _, c) => c.ending ending

end Channel

/-- The attempts of an operation, on the connections that it takes from a pool. -/
def Operation.attempts : Operation α → Pool σ → List Attempt
  | done _, _ => []
  | fail _, _ => []
  | within frame work next, p =>
    match p.acquire with
    | (.error _, _) => []
    | (.ok c, _) =>
      c.attempts work frame ++ match p.perform frame work with
        | (.ok b, p) => (next b).attempts p
        | (.error _, _) => []

/-! ### Work outside any transaction -/

namespace Operation

variable {w : Work α} {p p' : Pool σ} {c : Channel σ}

theorem attempts_onConnection (hacquire : p.acquire = (.ok c, p')) :
    (onConnection w).attempts p = w.attempts c := by
  rw [onConnection, attempts, hacquire]
  simp only [Channel.attempts]
  split <;> exact List.append_nil _

theorem run_onConnection (hacquire : p.acquire = (.ok c, p')) :
    (onConnection w).run p = ((w.run c).1, p'.release (w.run c).2) := by
  rw [onConnection, run, Pool.perform, hacquire]
  simp only [Channel.perform]
  generalize w.run c = ran
  obtain ⟨answer, after⟩ := ran
  cases answer with
  | ok a => rfl
  | error e => rfl

/-- An operation outside any transaction adds to the record what is carried of its attempts. -/
theorem carried_onConnection {s : StoreSettings} (hp : p.Reachable s)
    (hacquire : p.acquire = (.ok c, p')) :
    ∃ sent, ((onConnection w).run p).2.wire.log = c.wire.log ++ sent ∧
      Attempt.Carried ((onConnection w).attempts p) sent := by
  have hacquired := hp.atRest.acquired (P := fun _ => True) trivial
  rw [hacquire] at hacquired
  cases hacquired with
  | @given wire _ _ =>
    obtain ⟨sent, hlog, hcarried⟩ := w.carried (c := ⟨wire, .fresh⟩) rfl rfl
    have hqueue : (w.run ⟨wire, .fresh⟩).2.link.queue = [] :=
      List.eq_nil_iff_forall_not_mem.2 fun sql hsql => nomatch Work.mem_queue_run hsql
    refine ⟨sent, ?_, by rwa [attempts_onConnection hacquire]⟩
    rw [run_onConnection hacquire, Pool.release_of_queue_nil hqueue]
    exact hlog

/-- **What an operation outside any transaction sends**: what opens a connection, and then, unless
none is given, what is carried of its attempts. -/
theorem sent_onConnection {s : StoreSettings} (hp : p.Reachable s) {P : Statement → Prop}
    (hpath : P (.simple (Schema.searchPath p.schema))) :
    (∃ e, ((onConnection w).run p).1 = .error e ∧
      ∀ e' ∈ (onConnection w).sent p, P e'.statement) ∨
    ∃ c p' opening sent, p.acquire = (.ok c, p') ∧ (onConnection w).sent p = opening ++ sent ∧
      (∀ e ∈ opening, P e.statement) ∧ Attempt.Carried ((onConnection w).attempts p) sent := by
  have hacquired := hp.atRest.acquired hpath
  cases hacquire : p.acquire with
  | mk result p' =>
    rw [hacquire] at hacquired
    cases hacquired with
    | @refused _ f hgrows _ =>
      left
      have hrun : (onConnection w).run p = (.error f.classify, p') := by
        rw [onConnection, run, Pool.perform, hacquire]
      obtain ⟨sent, hlog, hopening⟩ := hgrows
      have hsent : (onConnection w).sent p = sent := sent_eq (by rw [hrun]; exact hlog)
      exact ⟨f.classify, congrArg Prod.fst hrun, hsent ▸ hopening⟩
    | @given wire _ hgrows =>
      right
      obtain ⟨opening, hopened, hopening⟩ := hgrows
      obtain ⟨sent, hlog, hcarried⟩ := carried_onConnection (w := w) hp hacquire
      have hsplit : (onConnection w).sent p = opening ++ sent :=
        sent_eq (hlog.trans (by rw [hopened, List.append_assoc]))
      exact ⟨_, p', opening, sent, rfl, hsplit, hopening, hcarried⟩

end Operation

end KnowledgeBase
