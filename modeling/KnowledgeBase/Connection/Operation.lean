import KnowledgeBase.Connection.Pool

/-!
# Operations

An operation checks its input, performs framed work any number of times, and makes a value of what
the work answered.  Input is checked before the first work, so that an operation which is refused
sends nothing.

## Main definitions

* `Operation`, `Operation.run` — the operation, and running it over a pool.
* `Operation.forTenant` — work in a tenant's transaction that is committed at the end.

## Main results

* `Operation.run_bind` — running one operation after another.
-/

namespace KnowledgeBase

open Sql

/-- What a caller asks of the store. -/
inductive Operation (α : Type) : Type 1 where
  | done (a : α)
  | fail (e : StoreError)
  /-- Performs framed work and goes on with its value; a failure ends the operation. -/
  | within {β : Type} (frame : Frame) (work : Work β) (next : β → Operation α)

namespace Operation

variable {α β : Type}

/-- Runs an operation, then another on its value. -/
def bind : Operation α → (α → Operation β) → Operation β
  | done a, f => f a
  | fail e, _ => fail e
  | within frame work next, f => within frame work fun b => (next b).bind f

instance : Monad Operation where
  pure := done
  bind := bind

@[simp] theorem pure_eq (a : α) : (pure a : Operation α) = done a := rfl

@[simp] theorem done_bind (a : α) (f : α → Operation β) : (done a >>= f) = f a := rfl

@[simp] theorem fail_bind (e : StoreError) (f : α → Operation β) : (fail e >>= f) = fail e := rfl

@[simp] theorem within_bind {γ : Type} (frame : Frame) (work : Work γ) (next : γ → Operation α)
    (f : α → Operation β) :
    (within frame work next >>= f) = within frame work fun c => next c >>= f := rfl

/-- A value or an error, without any work. -/
def ofExcept : Except StoreError α → Operation α
  | .ok a => done a
  | .error e => fail e

instance : MonadLift (Except StoreError) Operation where
  monadLift := ofExcept

/-- Work in a transaction of a tenant, committed when the work succeeds. -/
def forTenant (tenant : String) (user : Option String) (work : Work α) : Operation α :=
  within (.tenant tenant user .commit) work done

/-- Work on a connection outside any transaction. -/
def onConnection (work : Work α) : Operation α := within .bare work done

variable {σ : Type} [Server σ]

/-- Runs an operation over a pool. -/
def run : Operation α → Pool σ → Except StoreError α × Pool σ
  | done a, p => (.ok a, p)
  | fail e, p => (.error e, p)
  | within frame work next, p =>
    match p.perform frame work with
    | (.ok b, p) => (next b).run p
    | (.error e, p) => (.error e, p)

theorem run_bind (o : Operation α) (f : α → Operation β) (p : Pool σ) :
    (o >>= f).run p = match o.run p with
      | (.ok a, p) => (f a).run p
      | (.error e, p) => (.error e, p) := by
  induction o generalizing p with
  | done a => rfl
  | fail e => rfl
  | within frame work next ih =>
    simp only [within_bind, run]
    split
    · exact ih _ _
    · rfl

end Operation

end KnowledgeBase
