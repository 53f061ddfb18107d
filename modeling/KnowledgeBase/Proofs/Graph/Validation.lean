import KnowledgeBase.Graph.Store

/-!
# What the checks of a write establish

A check either passes or names the first thing that is wrong.  Here each check is turned into the
condition under which it passes, so that what follows a check can use the condition.

## Main results

* `requireTenant_eq_ok`, `requireText_eq_ok`, `requireEmbedding_eq_ok` — the shared checks.
* `Node.validate_eq_ok`, `Edge.validate_eq_ok` — the checks of a node and of an edge.
* `Graph.validate_eq_ok` — the checks of a write of both.
-/

namespace KnowledgeBase

variable {ε α β : Type}

/-! ### Sequences of checks -/

/-- A sequence of checks passes when each of them does. -/
theorem Except.bind_eq_ok {x : Except ε α} {f : α → Except ε β} {b : β} :
    (x >>= f) = .ok b ↔ ∃ a, x = .ok a ∧ f a = .ok b := by
  cases x with
  | error e => simp [bind, Except.bind]
  | ok a => simp [bind, Except.bind]

/-- It fails with the first of them that does. -/
theorem Except.bind_eq_error {x : Except ε α} {f : α → Except ε β} {e : ε} :
    (x >>= f) = .error e ↔ x = .error e ∨ ∃ a, x = .ok a ∧ f a = .error e := by
  cases x with
  | error e => simp [bind, Except.bind]
  | ok a => simp [bind, Except.bind]

/-- A check that carries no value, followed by others. -/
theorem Except.check_bind_eq_ok {x : Except ε Unit} {f : Unit → Except ε β} {b : β} :
    (x >>= f) = .ok b ↔ x = .ok () ∧ f () = .ok b := by
  rw [Except.bind_eq_ok]
  exact ⟨fun ⟨(), hx, hf⟩ => ⟨hx, hf⟩, fun ⟨hx, hf⟩ => ⟨(), hx, hf⟩⟩

/-- A check of every member of a list. -/
theorem Except.forM_eq_ok {check : α → Except ε Unit} {xs : List α} :
    xs.forM check = .ok () ↔ ∀ x ∈ xs, check x = .ok () := by
  induction xs with
  | nil => simp [pure, Except.pure]
  | cons x xs ih =>
    rw [List.forM_eq_forM] at ih
    rw [List.forM_eq_forM, List.forM_cons, Except.check_bind_eq_ok, ih, List.forall_mem_cons]

/-! ### The shared checks -/

theorem requireTenant_eq_ok {tenant : String} :
    requireTenant tenant = .ok () ↔ Text.isBlank tenant = false := by
  unfold requireTenant
  split <;> simp_all

theorem requireText_eq_ok {field value : String} :
    requireText field value = .ok () ↔ Text.isBlank value = false := by
  unfold requireText
  split <;> simp_all

theorem requireDimension_eq_ok {field : String} {vector : List Float32} {expected : Nat} :
    requireDimension field vector expected = .ok () ↔ vector.length = expected := by
  unfold requireDimension
  split <;> simp_all

theorem requireEmbedding_eq_ok {field : String} {embedding : Option (List Float32)}
    {expected : Nat} :
    requireEmbedding field embedding expected = .ok () ↔
      ∀ v ∈ embedding, v.length = expected := by
  cases embedding with
  | none => simp [requireEmbedding]
  | some v => simp [requireEmbedding, requireDimension_eq_ok]

/-- What is thrown ends a sequence of checks. -/
theorem Except.throw_bind_ne_ok {e : ε} {f : α → Except ε β} {b : β} :
    (throw e >>= f : Except ε β) ≠ .ok b := by
  simp [throw, throwThe, MonadExceptOf.throw, bind, Except.bind]

/-! ### Nodes and edges -/

theorem Node.validate_eq_ok {dimension : Nat} {tenant : String} {n : Node} :
    n.validate dimension tenant = .ok () ↔
      Text.isBlank n.id = false ∧ Text.isBlank n.content = false ∧
        (∀ owner ∈ n.tenant, owner = tenant) ∧ (∀ name ∈ n.sourceType, name ∈ sourceTypes) ∧
          ∀ v ∈ n.embedding, v.length = dimension := by
  unfold validate
  rw [Except.check_bind_eq_ok, Except.check_bind_eq_ok, requireText_eq_ok, requireText_eq_ok]
  have hembedding := @requireEmbedding_eq_ok "node embedding" n.embedding dimension
  refine and_congr_right fun _ => and_congr_right fun _ => ?_
  cases n.tenant with
  | none =>
    cases n.sourceType with
    | none => simp [hembedding]
    | some name =>
      by_cases hname : name ∈ sourceTypes
      · simp [hname, hembedding]
      · simp [hname, Except.throw_bind_ne_ok]
  | some owner =>
    by_cases howner : owner = tenant
    · cases n.sourceType with
      | none => simp [howner, hembedding]
      | some name =>
        by_cases hname : name ∈ sourceTypes
        · simp [howner, hname, hembedding]
        · simp [howner, hname, Except.throw_bind_ne_ok]
    · simp [howner, Except.throw_bind_ne_ok]

theorem Edge.validate_eq_ok {tenant : String} {e : Edge} :
    e.validate tenant = .ok () ↔
      Text.isBlank e.source = false ∧ Text.isBlank e.target = false ∧
        Text.isBlank e.relation = false ∧ (∀ owner ∈ e.tenant, owner = tenant) ∧
          Double.isFinite e.weight = true := by
  unfold validate
  rw [Except.check_bind_eq_ok, Except.check_bind_eq_ok, Except.check_bind_eq_ok,
    requireText_eq_ok, requireText_eq_ok, requireText_eq_ok]
  refine and_congr_right fun _ => and_congr_right fun _ => and_congr_right fun _ => ?_
  have hweight : (if (!Double.isFinite e.weight) = true then throw Refusal.weightNotFinite.toError
      else pure () : Except StoreError Unit) = .ok () ↔ Double.isFinite e.weight = true := by
    cases Double.isFinite e.weight with
    | true => simp [pure, Except.pure]
    | false => simp [throw, throwThe, MonadExceptOf.throw]
  cases e.tenant with
  | none => simp only [hweight]; simp
  | some owner =>
    by_cases howner : owner = tenant
    · subst howner
      simp only [ne_eq, not_true, if_false, hweight]
      simp
    · simp [howner, Except.throw_bind_ne_ok]

/-- A write of nodes and edges passes when the tenant is given and each of them passes. -/
theorem Graph.validate_eq_ok {dimension : Nat} {tenant : String} {nodes : List Node}
    {edges : List Edge} :
    Graph.validate dimension tenant nodes edges = .ok () ↔
      Text.isBlank tenant = false ∧ (∀ n ∈ nodes, n.validate dimension tenant = .ok ()) ∧
        ∀ e ∈ edges, e.validate tenant = .ok () := by
  unfold validate
  rw [Except.check_bind_eq_ok, Except.check_bind_eq_ok, requireTenant_eq_ok, Except.forM_eq_ok,
    Except.forM_eq_ok]

end KnowledgeBase
