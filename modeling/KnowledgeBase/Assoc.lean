/-!
# Association lists

Values under distinct names, in the order in which the names were first set.

## Main definitions

* `Assoc`, `Assoc.get?`, `Assoc.set` — the list, reading and writing under a name.
* `Assoc.ofList` — a list in which a later value of a name replaces an earlier one.

## Main results

* `Assoc.get?_set` — what a set name reads back as.
-/

namespace KnowledgeBase

/-- Values under names. -/
abbrev Assoc (α : Type) := List (String × α)

namespace Assoc

variable {α : Type}

/-- The value under a name. -/
def get? (name : String) : Assoc α → Option α
  | [] => none
  | (n, v) :: rest => if n = name then some v else get? name rest

/-- Sets the value under a name, in place if the name is there, else at the end. -/
def set (name : String) (v : α) : Assoc α → Assoc α
  | [] => [(name, v)]
  | (n, w) :: rest => if n = name then (n, v) :: rest else (n, w) :: set name v rest

/-- The values of a list in which a later one of the same name replaces an earlier one. -/
def ofList (members : List (String × α)) : Assoc α :=
  members.foldl (fun found (n, v) => set n v found) []

@[simp] theorem get?_nil (name : String) : get? name ([] : Assoc α) = none := rfl

@[simp] theorem get?_cons (name n : String) (v : α) (rest : Assoc α) :
    get? name ((n, v) :: rest) = if n = name then some v else get? name rest := rfl

theorem get?_set (name other : String) (v : α) (found : Assoc α) :
    get? other (set name v found) = if name = other then some v else get? other found := by
  induction found with
  | nil => simp [set]
  | cons head rest ih =>
    obtain ⟨n, w⟩ := head
    by_cases hn : n = name
    · subst hn
      by_cases ho : n = other <;> simp [set, ho]
    · by_cases ho : n = other
      · subst ho
        simp [set, hn, Ne.symm hn]
      · simp [set, hn, ho, ih]

end Assoc

end KnowledgeBase
