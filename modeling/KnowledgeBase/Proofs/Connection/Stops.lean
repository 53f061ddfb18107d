import KnowledgeBase.Proofs.Connection.Overhead

/-!
# The failure that ends an operation

An operation passes some failures over and stops at the first of the others.  What it answers then
depends on the statement and on the failure alone, so it can be said of a program without running it
what its errors mean.

## Main definitions

* `FirstFailure` — the first attempt that failed and is not passed over.
* `Work.Stops`, `Operation.Stops` — the failures that a program or an operation passes over, and the
  errors that it makes of the others.

## Main results

* `Operation.Stops.error` — the first failure that is not passed over becomes the error of the
  operation.
* `Operation.Stops.first_of_sent` — among the replies that an operation received, there is no other
  failure.
-/

namespace KnowledgeBase

open Sql

variable {σ α β : Type} {soft : Statement → Prop} {label : Statement → Failure → StoreError → Prop}

/-! ### Attempts -/

/-- Whatever failed is passed over. -/
def PassedOver (soft : Statement → Prop) (tried : List Attempt) : Prop :=
  ∀ a ∈ tried, a.failed = true → soft a.statement

/-- The first attempt that failed and is not passed over. -/
structure FirstFailure (soft : Statement → Prop) (tried : List Attempt) (s : Statement)
    (f : Failure) : Prop where
  hard : ¬ soft s
  split : ∃ before after, tried = before ++ ⟨s, .error f⟩ :: after ∧ PassedOver soft before

/-- Either all failures are passed over, or the last attempt failed and the error is made of it. -/
inductive Halts (soft : Statement → Prop) (label : Statement → Failure → StoreError → Prop) :
    List Attempt → Except StoreError α → Prop where
  | passed {tried : List Attempt} (answer : Except StoreError α) (h : PassedOver soft tried) :
    Halts soft label tried answer
  | stopped {before : List Attempt} {s : Statement} {f : Failure} {e : StoreError}
    (h : PassedOver soft before) (hlabel : label s f e) :
    Halts soft label (before ++ [⟨s, .error f⟩]) (.error e)

theorem FirstFailure.mem {tried : List Attempt} {s : Statement} {f : Failure}
    (h : FirstFailure soft tried s f) : ⟨s, .error f⟩ ∈ tried := by
  obtain ⟨before, after, rfl, -⟩ := h.split
  exact List.mem_append_right _ List.mem_cons_self

/-- The text of a failed statement without values, if it is one, with the failure. -/
def Attempt.refused? : Attempt → Option (Option String × Failure)
  | ⟨.simple sql, .error f⟩ => some (some sql, f)
  | ⟨.prepared _ _, .error f⟩ => some (none, f)
  | _ => none

/-- Where one statement failed only, it is the first. -/
theorem FirstFailure.of_refused {tried : List Attempt} {sql : String} {f : Failure}
    (h : tried.filterMap Attempt.refused? = [(some sql, f)]) (hard : ¬ soft (.simple sql)) :
    FirstFailure soft tried (.simple sql) f := by
  obtain ⟨before, a, after, rfl, hbefore, ha, -⟩ := List.filterMap_eq_cons_iff.1 h
  refine ⟨hard, before, after, ?_, fun b hb hfailed => ?_⟩
  · obtain ⟨sql' | ⟨sql', values⟩, f' | r⟩ := a <;> cases ha
    rfl
  · have hnone := hbefore b hb
    obtain ⟨sql' | ⟨sql', values⟩, f' | r⟩ := b
    · cases hnone
    · cases hfailed
    · cases hnone
    · cases hfailed

theorem PassedOver.append {tried tried' : List Attempt} (h : PassedOver soft tried)
    (h' : PassedOver soft tried') : PassedOver soft (tried ++ tried') :=
  List.forall_mem_append.2 ⟨h, h'⟩

theorem PassedOver.nil : PassedOver soft [] := List.forall_mem_nil _

theorem PassedOver.answered (s : Statement) (r : Reply) : PassedOver soft [⟨s, .ok r⟩] :=
  List.forall_mem_singleton.2 nofun

namespace Halts

variable {tried tried' : List Attempt} {answer : Except StoreError α} {s : Statement} {f : Failure}

theorem single {e : StoreError} (h : label s f e) :
    Halts soft label [⟨s, .error f⟩] (.error e : Except StoreError α) :=
  .stopped .nil h

theorem prepend (h : PassedOver soft tried) (h' : Halts soft label tried' answer) :
    Halts soft label (tried ++ tried') answer := by
  cases h' with
  | passed _ hpassed => exact .passed _ (h.append hpassed)
  | stopped hpassed hlabel =>
    rw [← List.append_assoc]
    exact .stopped (h.append hpassed) hlabel

/-- What succeeds has passed every failure over, so the next attempts decide. -/
theorem append {b : β} (h : Halts soft label tried (.ok b)) (h' : Halts soft label tried' answer) :
    Halts soft label (tried ++ tried') answer := by
  cases h with
  | passed _ hpassed => exact h'.prepend hpassed

theorem of_error {e : StoreError} (h : Halts soft label tried (.error e : Except StoreError β)) :
    Halts soft label tried (.error e : Except StoreError α) := by
  cases h with
  | passed _ hpassed => exact .passed _ hpassed
  | stopped hpassed hlabel => exact .stopped hpassed hlabel

/-- An attempt that failed is passed over, or is the first that is not. -/
theorem first_of_mem (h : Halts soft label tried answer) (hmem : ⟨s, .error f⟩ ∈ tried) :
    soft s ∨ FirstFailure soft tried s f := by
  cases h with
  | passed _ hpassed => exact .inl (hpassed _ hmem rfl)
  | @stopped before s' f' e hpassed hlabel =>
    by_cases hsoft : soft s
    · exact .inl hsoft
    · rcases List.mem_append.1 hmem with hmem | hmem
      · exact .inl (hpassed _ hmem rfl)
      · cases List.mem_singleton.1 hmem
        exact .inr ⟨hsoft, before, [], rfl, hpassed⟩

/-- The first failure that is not passed over becomes the error. -/
theorem error (h : Halts soft label tried answer) (hfirst : FirstFailure soft tried s f) :
    ∃ e, answer = .error e ∧ label s f e := by
  have hmem := hfirst.mem
  cases h with
  | passed _ hpassed => exact absurd (hpassed _ hmem rfl) hfirst.hard
  | stopped hpassed hlabel =>
    rcases List.mem_append.1 hmem with hmem | hmem
    · exact absurd (hpassed _ hmem rfl) hfirst.hard
    · cases List.mem_singleton.1 hmem
      exact ⟨_, rfl, hlabel⟩

end Halts

/-! ### Programs -/

/-- A program passes the failures of some statements over, and makes an error of every other failure
at once. -/
inductive Work.Stops (soft : Statement → Prop) (label : Statement → Failure → StoreError → Prop) :
    Work α → Prop where
  | done (a : α) : Stops soft label (.done a)
  | fail (e : StoreError) : Stops soft label (.fail e)
  | hard {s : Statement} {next : Except Failure Reply → Work α}
    (failed : ∀ f, ∃ e, next (.error f) = .fail e ∧ label s f e)
    (answered : ∀ r, Stops soft label (next (.ok r))) : Stops soft label (.step s next)
  | soft {s : Statement} {next : Except Failure Reply → Work α} (hsoft : soft s)
    (tail : ∀ r, Stops soft label (next r)) : Stops soft label (.step s next)

namespace Work.Stops

theorem bind {w : Work α} {f : α → Work β} (hw : w.Stops soft label)
    (hf : ∀ a, (f a).Stops soft label) : (w >>= f).Stops soft label := by
  induction hw with
  | done a => exact hf a
  | fail e => exact .fail e
  | hard failed _ ih =>
    refine .hard (fun failure => ?_) ih
    obtain ⟨e, hnext, hlabel⟩ := failed failure
    exact ⟨e, congrArg (Work.bind · f) hnext, hlabel⟩
  | soft hsoft _ ih => exact .soft hsoft ih

theorem mono {soft' : Statement → Prop} {label' : Statement → Failure → StoreError → Prop}
    {w : Work α} (hw : w.Stops soft label) (hsoft : ∀ s, soft s → soft' s)
    (hlabel : ∀ s f e, label s f e → label' s f e) : w.Stops soft' label' := by
  induction hw with
  | done a => exact .done a
  | fail e => exact .fail e
  | hard failed _ ih =>
    refine .hard (fun f => ?_) ih
    obtain ⟨e, hnext, he⟩ := failed f
    exact ⟨e, hnext, hlabel _ _ _ he⟩
  | soft h _ ih => exact .soft (hsoft _ h) ih

theorem ofExcept (r : Except StoreError α) : (Work.ofExcept r).Stops soft label := by
  cases r with
  | ok a => exact .done a
  | error e => exact .fail e

theorem attempt {s : Statement} (h : soft s) : (Work.attempt s).Stops soft label := by
  refine .soft h fun r => ?_
  cases r with
  | ok reply => exact .done true
  | error f => exact .done false

section Sending

variable {s : Statement} (h : ∀ f, label s f f.classify)

include h

theorem send : (Work.send s).Stops soft label :=
  .hard (fun f => ⟨f.classify, rfl, h f⟩) fun r => .done r

theorem affected : (Work.affected s).Stops soft label := (send h).bind fun _ => .done _

theorem rows : (Work.rows s).Stops soft label := (send h).bind fun _ => .done _

theorem first? : (Work.first? s).Stops soft label := (rows h).bind fun _ => .done _

theorem single : (Work.single s).Stops soft label := by
  refine (first? h).bind fun found => ?_
  cases found with
  | none => exact .fail _
  | some row => exact .done row

theorem scalar [Cell α] : (Work.scalar s : Work α).Stops soft label :=
  (single h).bind fun _ => .ofExcept _

theorem scalar? [Cell α] : (Work.scalar? s : Work (Option α)).Stops soft label := by
  refine (first? h).bind fun found => ?_
  cases found with
  | none => exact .done none
  | some row => exact .ofExcept _

end Sending

/-- The attempts that a program may make end with the first failure that it does not pass over. -/
theorem halts {w : Work α} (hw : w.Stops soft label) {tried : List Attempt}
    {answer : Except StoreError α} (htries : w.Tries tried answer) :
    Halts soft label tried answer := by
  induction hw generalizing tried with
  | done a =>
    cases htries
    exact .passed _ .nil
  | fail e =>
    cases htries
    exact .passed _ .nil
  | @hard s next failed _ ih =>
    cases htries with
    | step r rest =>
      cases r with
      | ok r => exact (ih r rest).prepend (.answered s r)
      | error f =>
        obtain ⟨e, hnext, hlabel⟩ := failed f
        rw [hnext] at rest
        cases rest
        exact .single hlabel
  | @soft s next hsoft _ ih =>
    cases htries with
    | step r rest => exact (ih r rest).prepend (List.forall_mem_singleton.2 fun _ => hsoft)

end Work.Stops

/-! ### Operations -/

/-- The programs of an operation pass the failures of some statements over, and make errors of the
others.  The failures of control statements keep their category, and there are none outside a
transaction. -/
inductive Operation.Stops (soft : Statement → Prop)
    (label : Statement → Failure → StoreError → Prop) : Operation α → Prop where
  | done (a : α) : Stops soft label (.done a)
  | fail (e : StoreError) : Stops soft label (.fail e)
  | within {β : Type} {frame : Frame} {work : Work β} {next : β → Operation α}
    (hframe : frame = .bare ∨ ∀ sql f, label (.simple sql) f f.classify)
    (hwork : work.Stops soft label) (tail : ∀ b, Stops soft label (next b)) :
    Stops soft label (.within frame work next)

namespace Operation.Stops

theorem bind {o : Operation α} {f : α → Operation β} (ho : o.Stops soft label)
    (hf : ∀ a, (f a).Stops soft label) : (o >>= f).Stops soft label := by
  induction ho with
  | done a => exact hf a
  | fail e => exact .fail e
  | within hframe hwork _ ih => exact .within hframe hwork ih

theorem mono {soft' : Statement → Prop} {label' : Statement → Failure → StoreError → Prop}
    {o : Operation α} (ho : o.Stops soft label) (hsoft : ∀ s, soft s → soft' s)
    (hlabel : ∀ s f e, label s f e → label' s f e) : o.Stops soft' label' := by
  induction ho with
  | done a => exact .done a
  | fail e => exact .fail e
  | within hframe hwork _ ih =>
    exact .within (hframe.imp_right fun h sql f => hlabel _ _ _ (h sql f))
      (hwork.mono hsoft hlabel) ih

theorem ofExcept (r : Except StoreError α) : (Operation.ofExcept r).Stops soft label := by
  cases r with
  | ok a => exact .done a
  | error e => exact .fail e

theorem check {r : Except StoreError α} {f : α → Operation β}
    (h : ∀ a, (f a).Stops soft label) : ((liftM r : Operation α) >>= f).Stops soft label :=
  (ofExcept r).bind h

theorem onConnection {w : Work α} (h : w.Stops soft label) :
    (Operation.onConnection w).Stops soft label := .within (.inl rfl) h .done

end Operation.Stops

variable [Server σ]

/-- When a transaction cannot be ended, that is its error. -/
theorem Channel.halts_finish (hcontrol : ∀ sql f, label (.simple sql) f f.classify)
    (ending : Ending) (c : Channel σ) (a : α) :
    Halts soft label (c.ending ending)
      ((c.finish ending).1.elim (.ok a) fun f => .error f.classify) := by
  have hleave (text : Nat → String) : Halts soft label (c.leaving text)
      ((c.leave text).1.elim (.ok a) fun f => .error f.classify) := by
    rw [leave, leaving]
    cases c.link.depth with
    | zero => exact .passed _ .nil
    | succ depth =>
      simp only
      obtain ⟨f | r, after⟩ := c.execute (.simple (text depth))
      · exact .single (hcontrol _ f)
      · exact .passed _ (.answered _ r)
  cases ending with
  | commit => exact hleave _
  | rollback => exact hleave _
  | abandon => exact .passed _ .nil

/-- The attempts of framed work end with the first failure that is not passed over. -/
theorem Work.Stops.halts_perform {w : Work α} (hw : w.Stops soft label) {frame : Frame}
    (hframe : frame = .bare ∨ ∀ sql f, label (.simple sql) f f.classify) (c : Channel σ) :
    Halts soft label (c.attempts w frame) (c.perform w frame).1 := by
  cases frame with
  | bare => exact hw.halts (w.tries c)
  | tenant id user ending =>
    have hcontrol := hframe.resolve_left nofun
    rw [Channel.attempts, Channel.perform]
    simp only [Channel.enter, Channel.opening]
    generalize c.execute (.simple (Link.beginText c.link.depth)) = answer at *
    obtain ⟨f | r, opened⟩ := answer
    · exact .single (hcontrol _ f)
    · refine .prepend (.answered _ r) ?_
      -- the context is set before the work, but whatever comes back to it is passed over
      have hwork := hw.halts (w.tries ((opened.atDepth (c.link.depth + 1)).setContext id user))
      simp only
      generalize w.run ((opened.atDepth (c.link.depth + 1)).setContext id user) = done at *
      obtain ⟨e | a, worked⟩ := done
      · simpa using hwork
      · refine hwork.append ?_
        have hfinish : Halts soft label _ _ := Channel.halts_finish hcontrol ending worked a
        simp only
        generalize worked.finish ending = finished at *
        obtain ⟨f | f, last⟩ := finished
        · exact hfinish
        · exact hfinish

/-- **The attempts of an operation end with the first failure that it does not pass over**, and its
error is made of that. -/
theorem Operation.Stops.halts {o : Operation α} (ho : o.Stops soft label) (p : Pool σ) :
    Halts soft label (o.attempts p) (o.run p).1 := by
  induction ho generalizing p with
  | done a => exact .passed _ .nil
  | fail e => exact .passed _ .nil
  | @within β frame work next hframe hwork _ ih =>
    rw [run, attempts, Pool.perform]
    cases p.acquire with
    | mk acquired p' =>
      cases acquired with
      | error f => exact .passed _ .nil
      | ok c =>
        have hperform := hwork.halts_perform hframe c
        simp only
        generalize c.perform work frame = performed at *
        obtain ⟨e | b, c'⟩ := performed
        · simp only [List.append_nil]
          exact hperform.of_error
        · exact hperform.append (ih b _)

namespace Operation.Stops

variable {o : Operation α} {p : Pool σ} {s : Statement} {f : Failure}

/-- **The first failure that is not passed over becomes the error of the operation.** -/
theorem error (ho : o.Stops soft label) (h : FirstFailure soft (o.attempts p) s f) :
    ∃ e, (o.run p).1 = .error e ∧ label s f e := (ho.halts p).error h

/-- A failure on the record is of overhead, or is passed over, or is the first that is not. -/
theorem first_of_sent (ho : o.Stops soft label) (hp : p.AtRest) {e : Sent} (he : e ∈ o.sent p)
    (hfailure : e.reply.failure? = some f) :
    e.statement.Overhead ∨ soft e.statement ∨
      FirstFailure soft (o.attempts p) e.statement f := by
  refine (o.covers hp e he).imp_right fun hmem => (ho.halts p).first_of_mem ?_
  have hattempt : e.attempt = ⟨e.statement, .error f⟩ := by
    rw [Sent.attempt, Reply.outcome, hfailure]
    rfl
  exact hattempt ▸ hmem

end Operation.Stops

end KnowledgeBase
