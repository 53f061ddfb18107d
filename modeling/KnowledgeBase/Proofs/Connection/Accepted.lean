import KnowledgeBase.Proofs.Connection.Exchange

/-!
# Operations that come down to one statement

Most writes check their input and send one statement.  When such an operation answers a value, its
checks have passed and the statement was sent, once and with no other data.

## Main definitions

* `Work.SendsOnce`, `Operation.SendsOnce` — a program and an operation that send one statement, and
  answer a value only after it.

## Main results

* `Operation.SendsOnce.data_eq` — what an operation has sent when it answers a value.
-/

namespace KnowledgeBase

open Sql

variable {σ α β : Type} {st : Statement}

/-! ### Programs -/

/-- A program that sends no other statement than this, and answers a value only if it has sent it,
once. -/
structure Work.SendsOnce (st : Statement) (w : Work α) : Prop where
  sends : w.Sends (· = st)
  sent : ∀ sent a, w.Exchange sent (.ok a) → ∃ r, sent = [⟨st, r⟩]

namespace Work.SendsOnce

theorem send : (Work.send st).SendsOnce st where
  sends := .send rfl
  sent sent a h := by
    cases h with
    | unsent f rest => cases rest
    | sent r rest =>
      refine ⟨r, ?_⟩
      cases hreply : r.failure? with
      | some f =>
        rw [hreply] at rest
        cases rest
      | none =>
        rw [hreply] at rest
        cases rest
        rfl

/-- What comes afterwards may fail, but sends nothing more. -/
theorem bind {w : Work α} {f : α → Work β} (h : w.SendsOnce st)
    (hf : ∀ a, (f a).Sends fun _ => False) : (w >>= f).SendsOnce st where
  sends := h.sends.bind fun a => (hf a).mono fun _ => False.elim
  sent sent b hrun := by
    rcases hrun.of_bind with ⟨e, he, -⟩ | ⟨a, sent₁, sent₂, rfl, hfirst, hsecond⟩
    · cases he
    · have hnil : sent₂ = [] := List.eq_nil_iff_forall_not_mem.2 (hsecond.sends (hf a))
      rw [hnil, List.append_nil]
      exact h.sent sent₁ a hfirst

theorem affected : (Work.affected st).SendsOnce st := send.bind fun _ => .done _

theorem scalar [Cell α] : (Work.scalar st : Work α).SendsOnce st := by
  have hfirst : (Work.first? st).SendsOnce st :=
    (send.bind fun _ => .done _).bind fun _ => .done _
  have hsingle : (Work.single st).SendsOnce st := by
    refine hfirst.bind fun found => ?_
    cases found with
    | none => exact .fail _
    | some row => exact .done row
  exact hsingle.bind fun _ => .ofExcept _

end Work.SendsOnce

/-! ### Operations -/

/-- An operation that sends no other data than this statement, and answers a value only if it has
sent it, once. -/
structure Operation.SendsOnce (st : Statement) (o : Operation α) : Prop where
  sends : o.Sends (fun _ => True) (· = st)
  sent : ∀ sent a, o.Exchange sent (.ok a) → ∃ r, sent = [⟨st, r⟩]

namespace Operation.SendsOnce

theorem check {r : Except StoreError α} {f : α → Operation β} (h : ∀ a, (f a).SendsOnce st) :
    ((liftM r : Operation α) >>= f).SendsOnce st where
  sends := .check fun a _ => (h a).sends
  sent sent b hrun := by
    rcases hrun.of_check with ⟨-, e, he⟩ | ⟨a, -, hrest⟩
    · cases he
    · exact (h a).sent sent b hrest

theorem forTenant {tenant : String} {user : Option String} {w : Work α} (h : w.SendsOnce st) :
    (Operation.forTenant tenant user w).SendsOnce st where
  sends := .forTenant trivial h.sends
  sent sent a hrun := h.sent sent a hrun.of_forTenant

/-- What is answered may be made of what the work answers. -/
theorem forTenant_map {tenant : String} {user : Option String} {w : Work α} (h : w.SendsOnce st)
    (f : α → β) : (Operation.forTenant tenant user w >>= fun a => .done (f a)).SendsOnce st where
  sends := (forTenant h).sends.bind fun _ => .done _
  sent sent b hrun := by
    rcases hrun.of_bind with ⟨e, he, -⟩ | ⟨a, sent₁, sent₂, rfl, hfirst, hsecond⟩
    · cases he
    · cases hsecond
      rw [List.append_nil]
      exact h.sent sent₁ a hfirst.of_forTenant

variable [Server σ] {F : Frame → Prop} {o : Operation α} {p : Pool σ} {a : α}

/-- **An operation that answers a value has sent its statement**, once and with no other data. -/
theorem data_eq (h : o.SendsOnce st) (hdata : o.Sends F fun s => s.isData = true)
    (hrun : (o.run p).1 = .ok a) : ∃ r, data (o.sent p) = [⟨st, r⟩] := by
  have hexchange := Operation.exchange hdata p
  rw [hrun] at hexchange
  exact h.sent _ a hexchange

end Operation.SendsOnce

end KnowledgeBase
