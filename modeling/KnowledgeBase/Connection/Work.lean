import KnowledgeBase.Connection.Channel

/-!
# Work on a connection

Work is a program that sends statements one after the other, each depending on the replies before,
and ends with a value or an error.  It is kept apart from the connection that it runs on, so that
what a program sends can be stated without one.

## Main definitions

* `Work` — the program; `Work.run` runs it over a connection.
* `Work.send`, `Work.affected`, `Work.rows`, `Work.single` — a statement, and what its reply is
  read as.

## Main results

* `Work.run_bind` — running one program after another.
-/

namespace KnowledgeBase

open Sql

/-- A program that sends statements. -/
inductive Work (α : Type) where
  | done (a : α)
  | fail (e : StoreError)
  /-- Sends a statement and goes on with the reply or the failure. -/
  | step (s : Statement) (next : Except Failure Reply → Work α)

namespace Work

variable {α β : Type}

/-- Runs a program, then another on its value. -/
def bind : Work α → (α → Work β) → Work β
  | done a, f => f a
  | fail e, _ => fail e
  | step s next, f => step s fun r => (next r).bind f

instance : Monad Work where
  pure := done
  bind := bind

@[simp] theorem pure_eq (a : α) : (pure a : Work α) = done a := rfl

@[simp] theorem done_bind (a : α) (f : α → Work β) : (done a >>= f) = f a := rfl

@[simp] theorem fail_bind (e : StoreError) (f : α → Work β) : (fail e >>= f) = fail e := rfl

@[simp] theorem step_bind (s : Statement) (next : Except Failure Reply → Work α)
    (f : α → Work β) : (step s next >>= f) = step s fun r => next r >>= f := rfl

theorem bind_assoc {γ : Type} (w : Work α) (f : α → Work β) (g : β → Work γ) :
    (w >>= f) >>= g = w >>= fun a => f a >>= g := by
  induction w with
  | done a => rfl
  | fail e => rfl
  | step s next ih => exact congrArg (step s) (funext ih)

/-- A value or an error. -/
def ofExcept : Except StoreError α → Work α
  | .ok a => done a
  | .error e => fail e

/-- Sends a statement; a failure ends the program. -/
def send (s : Statement) : Work Reply :=
  step s fun
    | .ok reply => done reply
    | .error failure => fail failure.classify

/-- Sends a statement and reads how many rows it affected. -/
def affected (s : Statement) : Work Nat := do
  let reply ← send s
  return reply.affected

/-- Sends a statement and reads the rows of its result. -/
def rows (s : Statement) : Work (List Row) := do
  let reply ← send s
  return reply.resultRows

/-- Sends a statement and reads the first row of its result, if there is one. -/
def first? (s : Statement) : Work (Option Row) := do
  let found ← rows s
  return found.head?

/-- Sends a statement and reads the first row of its result, which has to be there. -/
def single (s : Statement) : Work Row := do
  match ← first? s with
  | some row => return row
  | none => fail Failure.rowNotFound.classify

/-- Sends a statement and reads the first column of the first row of its result. -/
def scalar [Cell α] (s : Statement) : Work α := do
  let row ← single s
  ofExcept (row.scalar.mapError Failure.classify)

/-- Sends a statement and reads the first column of the first row of its result, if there is one. -/
def scalar? [Cell α] (s : Statement) : Work (Option α) := do
  match ← first? s with
  | some row => ofExcept ((row.scalar.map some).mapError Failure.classify)
  | none => return none

/-- Sends a statement and goes on whatever the reply; the answer tells whether it succeeded. -/
def attempt (s : Statement) : Work Bool :=
  step s fun
    | .ok _ => done true
    | .error _ => done false

variable {σ : Type} [Server σ]

/-- Runs a program over a connection. -/
def run : Work α → Channel σ → Except StoreError α × Channel σ
  | done a, c => (.ok a, c)
  | fail e, c => (.error e, c)
  | step s next, c =>
    let (r, c) := c.execute s
    (next r).run c

theorem run_bind (w : Work α) (f : α → Work β) (c : Channel σ) :
    (w >>= f).run c = match w.run c with
      | (.ok a, c) => (f a).run c
      | (.error e, c) => (.error e, c) := by
  induction w generalizing c with
  | done a => rfl
  | fail e => rfl
  | step s next ih => exact ih _ _

end Work

end KnowledgeBase
