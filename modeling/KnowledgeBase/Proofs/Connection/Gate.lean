import KnowledgeBase.Proofs.Connection.Atomicity

/-!
# What is settled before the database

An operation first asks some questions about its settings and its arguments.  The first one that
applies gives the answer, a refusal or a short cut, and nothing is sent and no connection is taken.
When none applies, a connection is taken and a transaction is opened on it before anything else.

## Main definitions

* `Gate`, `Gate.verdict?` — the questions, and what the first of them that applies answers.
* `Gate.Finds` — the values that gates answer with satisfy a predicate.
* `Gate.Checks` — a sequence of checks refuses by the first of some gates that applies.
* `Operation.Gated` — an operation answers by the first gate that applies, and otherwise goes on
  with a tenant's transaction.
* `Operation.Opens` — how an operation starts that does go to the database.

## Main results

* `Operation.Gated.run_of_verdict` — an operation that is settled leaves the pool as it is.
* `Operation.Gated.opens_of_verdict` — an operation that is not settled opens a transaction first.
-/

namespace KnowledgeBase

open Sql

variable {σ α β : Type}

/-! ### Gates -/

/-- A question that is settled before the database is asked. -/
inductive Gate (α : Type) where
  /-- The module that the operation belongs to is not enabled. -/
  | disabled (applies : Bool) (detail : String)
  /-- The input is refused. -/
  | refusal (applies : Bool) (cause : Refusal)
  /-- There is nothing to do. -/
  | shortcut (applies : Bool) (nothing : α)

namespace Gate

/-- Whether the question is answered with yes. -/
def applies : Gate α → Bool
  | disabled applies _ => applies
  | refusal applies _ => applies
  | shortcut applies _ => applies

/-- What the operation answers then. -/
def answer : Gate α → Except StoreError α
  | disabled _ detail => .error (.notSupported detail)
  | refusal _ cause => .error cause.toError
  | shortcut _ nothing => .ok nothing

/-- What the first gate that applies answers, if one does. -/
def verdict? (gates : List (Gate α)) : Option (Except StoreError α) :=
  (gates.find? applies).map answer

@[simp] theorem verdict?_nil : verdict? ([] : List (Gate α)) = none := rfl

theorem verdict?_cons_of_applies {g : Gate α} (h : g.applies = true) (gates : List (Gate α)) :
    verdict? (g :: gates) = some g.answer := by
  rw [verdict?, List.find?_cons_of_pos h, Option.map_some]

theorem verdict?_cons_of_not {g : Gate α} (h : g.applies = false) (gates : List (Gate α)) :
    verdict? (g :: gates) = verdict? gates := by
  rw [verdict?, verdict?, List.find?_cons_of_neg (by simp [h])]

/-- A gate that applies is enough for an answer, which may be that of an earlier one. -/
theorem exists_verdict {g : Gate α} {gates : List (Gate α)} (hg : g ∈ gates)
    (h : g.applies = true) : ∃ r, verdict? gates = some r := by
  have hfound : (gates.find? applies).isSome := List.find?_isSome.2 ⟨g, hg, h⟩
  obtain ⟨first, hfirst⟩ := Option.isSome_iff_exists.1 hfound
  exact ⟨first.answer, by rw [verdict?, hfirst, Option.map_some]⟩

/-- A refusal is of one of two categories. -/
theorem code_of_answer {g : Gate α} {e : StoreError} (h : g.answer = .error e) :
    e.code = "NOT_SUPPORTED" ∨ e.code = "VALIDATION_ERROR" := by
  cases g with
  | disabled applies detail => cases h; exact .inl rfl
  | refusal applies cause => cases h; exact .inr rfl
  | shortcut applies nothing => cases h

/-- The values that some gates answer with satisfy a predicate. -/
def Finds (P : α → Prop) (gates : List (Gate α)) : Prop := ∀ g ∈ gates, ∀ a, g.answer = .ok a → P a

namespace Finds

variable {P : α → Prop} {gates : List (Gate α)}

theorem nil : Finds P [] := List.forall_mem_nil _

theorem disabled {applies : Bool} {detail : String} (h : Finds P gates) :
    Finds P (.disabled applies detail :: gates) := List.forall_mem_cons.2 ⟨nofun, h⟩

theorem refusal {applies : Bool} {cause : Refusal} (h : Finds P gates) :
    Finds P (.refusal applies cause :: gates) := List.forall_mem_cons.2 ⟨nofun, h⟩

theorem shortcut {applies : Bool} {nothing : α} (hnothing : P nothing) (h : Finds P gates) :
    Finds P (.shortcut applies nothing :: gates) := by
  refine List.forall_mem_cons.2 ⟨?_, h⟩
  intro a ha
  cases ha
  exact hnothing

end Finds

/-! ### Checks -/

/-- A sequence of checks passes when none of some gates applies, and otherwise refuses by the first
one that does. -/
inductive Checks : List (Gate α) → Except StoreError Unit → Prop where
  | passed : Checks [] (.ok ())
  | refused {g : Gate α} {gates : List (Gate α)} {e : StoreError} (happlies : g.applies = true)
    (hanswer : g.answer = .error e) : Checks (g :: gates) (.error e)
  | next {g : Gate α} {gates : List (Gate α)} {r : Except StoreError Unit}
    (happlies : g.applies = false) (hrest : Checks gates r) : Checks (g :: gates) r

namespace Checks

/-- A check of one question. -/
theorem single {g : Gate α} {e : StoreError} (hanswer : g.answer = .error e) :
    Checks [g] (if g.applies then .error e else .ok ()) := by
  cases happlies : g.applies with
  | true => exact .refused happlies hanswer
  | false => exact .next happlies .passed

theorem refusal (applies : Bool) (cause : Refusal) :
    Checks [.refusal (α := α) applies cause] (if applies then .error cause.toError else .ok ()) :=
  single rfl

/-- A check that is written as a throw, and the checks after it. -/
theorem thrown {applies : Bool} {cause : Refusal} {p : Prop} [Decidable p]
    (hp : applies = true ↔ p) {gates : List (Gate α)} {f : Unit → Except StoreError Unit}
    (h : Checks gates (f ())) :
    Checks (.refusal applies cause :: gates)
      (if p then throw cause.toError >>= f else f () : Except StoreError Unit) := by
  by_cases hthrown : p
  · rw [if_pos hthrown]
    exact .refused (hp.2 hthrown) rfl
  · rw [if_neg hthrown]
    exact .next (Bool.eq_false_iff.2 fun happlies => hthrown (hp.1 happlies)) h

/-- One sequence of checks after another. -/
theorem bind {gates gates' : List (Gate α)} {r : Except StoreError Unit}
    {f : Unit → Except StoreError Unit} (h : Checks gates r) (h' : Checks gates' (f ())) :
    Checks (gates ++ gates') (r >>= f) := by
  induction h with
  | passed => exact h'
  | refused happlies hanswer => exact .refused happlies hanswer
  | next happlies _ ih => exact .next happlies ih

/-- The same checks of every member of a list, in order. -/
theorem forM {xs : List β} {gates : β → List (Gate α)} {check : β → Except StoreError Unit}
    (h : ∀ x, Checks (gates x) (check x)) : Checks (xs.flatMap gates) (xs.forM check) := by
  induction xs with
  | nil => exact .passed
  | cons x xs ih => exact (h x).bind ih

end Checks

end Gate

/-! ### Operations behind gates -/

/-- An operation answers by the first of some gates that applies, and when none does it goes on with
a tenant's transaction. -/
inductive Operation.Gated : List (Gate α) → Operation α → Prop where
  | opens {β : Type} (id : String) (user : Option String) (ending : Ending) (work : Work β)
    (next : β → Operation α) : Gated [] (.within (.tenant id user ending) work next)
  | settled {g : Gate α} {gates : List (Gate α)} (happlies : g.applies = true) :
    Gated (g :: gates) (.ofExcept g.answer)
  | passed {g : Gate α} {gates : List (Gate α)} {o : Operation α} (happlies : g.applies = false)
    (hrest : Gated gates o) : Gated (g :: gates) o

namespace Operation.Gated

variable {gates gates' : List (Gate α)} {o : Operation α}

/-- An operation after a sequence of checks. -/
theorem check {r : Except StoreError Unit} {f : Unit → Operation α} (h : Gate.Checks gates r)
    (ho : (f ()).Gated gates') : ((liftM r : Operation Unit) >>= f).Gated (gates ++ gates') := by
  induction h with
  | passed => exact ho
  | @refused g rest e happlies hanswer =>
    have hsettled : Gated (g :: (rest ++ gates')) (.ofExcept g.answer) := .settled happlies
    rw [hanswer] at hsettled
    exact hsettled
  | next happlies _ ih => exact .passed happlies ih

/-- An operation whose last gates are those of a sequence of checks. -/
theorem lastCheck {r : Except StoreError Unit} {f : Unit → Operation α} (h : Gate.Checks gates r)
    (ho : (f ()).Gated []) : ((liftM r : Operation Unit) >>= f).Gated gates := by
  have hgated := check h ho
  rwa [List.append_nil] at hgated

/-- An operation behind a short cut. -/
theorem shortcut {applies : Bool} {nothing : α} {p : Prop} [Decidable p] (hp : applies = true ↔ p)
    (ho : applies = false → o.Gated gates) :
    (if p then .done nothing else o : Operation α).Gated (.shortcut applies nothing :: gates) := by
  by_cases hcut : p
  · rw [if_pos hcut]
    exact .settled (g := .shortcut applies nothing) (hp.2 hcut)
  · have happlies := Bool.eq_false_iff.2 fun happlies => hcut (hp.1 happlies)
    rw [if_neg hcut]
    exact .passed happlies (ho happlies)

/-- Work for a tenant, and what is made of its answer. -/
theorem forTenant (id : String) (user : Option String) (work : Work β) (f : β → Operation α) :
    (Operation.forTenant id user work >>= f).Gated [] := .opens id user .commit work _

variable [Server σ]

/-- An operation that is settled answers at once; it needs no connection, and the pool stays as it
is. -/
theorem run_of_verdict (h : o.Gated gates) {r : Except StoreError α}
    (hverdict : Gate.verdict? gates = some r) (p : Pool σ) : o.run p = (r, p) := by
  induction h with
  | opens => cases hverdict
  | @settled g rest happlies =>
    rw [Gate.verdict?_cons_of_applies happlies, Option.some.injEq] at hverdict
    subst hverdict
    cases g.answer with
    | ok a => rfl
    | error e => rfl
  | passed happlies _ ih =>
    rw [Gate.verdict?_cons_of_not happlies] at hverdict
    exact ih hverdict

/-- An operation that is not settled goes on with a tenant's transaction. -/
theorem exists_within (h : o.Gated gates) (hverdict : Gate.verdict? gates = none) :
    ∃ (β : Type) (id : String) (user : Option String) (ending : Ending) (work : Work β)
      (next : β → Operation α), o = .within (.tenant id user ending) work next := by
  induction h with
  | opens id user ending work next => exact ⟨_, id, user, ending, work, next, rfl⟩
  | settled happlies => rw [Gate.verdict?_cons_of_applies happlies] at hverdict; cases hverdict
  | passed happlies _ ih =>
    rw [Gate.verdict?_cons_of_not happlies] at hverdict
    exact ih hverdict

end Operation.Gated

/-! ### Going to the database -/

variable [Server σ]

/-- An operation takes a connection, and a new one is told its search path; the first statement
after that opens a transaction.  Without a connection the operation fails. -/
structure Operation.Opens (o : Operation α) (p : Pool σ) : Prop where
  unconnected : ∀ f p', p.acquire = (.error f, p') → o.run p = (.error f.classify, p')
  connecting : ∀ c p', p.acquire = (.ok c, p') →
    p.wire.Grows (· = .simple (Schema.searchPath p.schema)) c.wire ∧
      (p.idle.isSome → c.wire = p.wire)
  begins : ∀ c p', p.acquire = (.ok c, p') → ∃ reply rest,
    (o.run p).2.wire.log = c.wire.log ++ ⟨.simple "BEGIN", reply⟩ :: rest

namespace Channel

/-- A tenant's transaction on a connection that is as good as new starts with its opening. -/
theorem perform_begins {c : Channel σ} (h : c.link = .fresh) (work : Work α) (id : String)
    (user : Option String) (ending : Ending) : ∃ (reply : Reply) (w : Wire σ),
      w.log = c.wire.log ++ [⟨.simple "BEGIN", reply⟩] ∧
        w.Grows (fun _ => True) (c.perform work (.tenant id user ending)).2.wire := by
  obtain ⟨w₀, link⟩ := c
  cases h
  obtain ⟨r, w, hlog, hentered⟩ := enter_cases (c := ⟨w₀, 0, [], true⟩) rfl rfl
  refine ⟨r, w, hlog, ?_⟩
  rw [perform_tenant]
  rcases hentered with ⟨-, henter⟩ | ⟨f, -, henter⟩
  · rw [henter]
    have hset : w.Grows (fun _ => True) ((⟨w, 1, [], true⟩ : Channel σ).setContext id user).wire :=
      setContext_grows (fun _ => trivial) trivial (⟨w, 1, [], true⟩ : Channel σ)
    have hrun := work.sends_any.grows ((⟨w, 1, [], true⟩ : Channel σ).setContext id user)
      fun _ _ => trivial
    have hclose := conclude_grows (P := fun _ => True) (fun _ => trivial) ending
      (work.run ((⟨w, 1, [], true⟩ : Channel σ).setContext id user))
    exact hset.trans (hrun.trans hclose)
  · rw [henter]
    exact .refl _

end Channel

/-- The connection of a pool at rest is as good as new when it is taken. -/
theorem Pool.AtRest.link_eq {p p' : Pool σ} (h : p.AtRest) {c : Channel σ}
    (hacquire : p.acquire = (.ok c, p')) : c.link = .fresh := by
  have hacquired := h.acquired (P := fun _ => True) trivial
  rw [hacquire] at hacquired
  cases hacquired with
  | given hsent => rfl

theorem Pool.acquire_of_idle {p p' : Pool σ} (h : p.idle.isSome) {c : Channel σ}
    (hacquire : p.acquire = (.ok c, p')) : c.wire = p.wire := by
  rw [acquire] at hacquire
  split at hacquire
  · cases hacquire
  · split at hacquire
    · cases hacquire
      rfl
    · next hnone =>
      rw [hnone] at h
      cases h

theorem Pool.acquire_sends_searchPath {p p' : Pool σ} {c : Channel σ}
    (hacquire : p.acquire = (.ok c, p')) :
    p.wire.Grows (· = .simple (Schema.searchPath p.schema)) c.wire := by
  have hconnect := Wire.connect_grows (P := (· = .simple (Schema.searchPath p.schema))) rfl
    p.attempts p.wire
  rw [acquire] at hacquire
  split at hacquire
  · cases hacquire
  · split at hacquire
    · cases hacquire
      exact .refl _
    · generalize p.wire.connect p.schema p.attempts = connected at *
      obtain ⟨failure | link, w⟩ := connected
      · cases hacquire
      · cases hacquire
        exact hconnect

/-- **An operation that is not settled opens a transaction first**, whatever the server answers. -/
theorem Operation.Gated.opens_of_verdict {gates : List (Gate α)} {o : Operation α}
    (h : o.Gated gates) (hverdict : Gate.verdict? gates = none) {p : Pool σ} (hp : p.AtRest) :
    o.Opens p := by
  obtain ⟨β, id, user, ending, work, next, rfl⟩ := h.exists_within hverdict
  refine ⟨?_, ?_, ?_⟩
  · intro f p' hacquire
    rw [Operation.run, Pool.perform, hacquire]
  · intro c p' hacquire
    exact ⟨Pool.acquire_sends_searchPath hacquire, fun hidle => Pool.acquire_of_idle hidle hacquire⟩
  · intro c p' hacquire
    obtain ⟨reply, w, hlog, hperform⟩ :=
      Channel.perform_begins (hp.link_eq hacquire) work id user ending
    have hrelease := Pool.release_grows (P := fun _ => True) (fun _ => trivial)
      (c.perform work (.tenant id user ending)).2 p'
    have hrest : w.Grows (fun _ => True)
        ((Operation.within (.tenant id user ending) work next).run p).2.wire := by
      refine (hperform.trans hrelease).trans ?_
      rw [Operation.run, Pool.perform, hacquire]
      dsimp only
      generalize c.perform work (.tenant id user ending) = performed
      obtain ⟨e | b, c'⟩ := performed
      · exact .refl _
      · exact (next b).sends_any.grows (fun _ => trivial) (fun _ _ _ _ => trivial) _
    obtain ⟨rest, hlog', -⟩ := hrest
    exact ⟨reply, rest, by rw [hlog', hlog, List.append_assoc]; rfl⟩

end KnowledgeBase
