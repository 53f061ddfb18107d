import KnowledgeBase.Search.Hybrid
import KnowledgeBase.Proofs.Sql.Placeholder

/-!
# What a scope adds to the two rankings

The text of a ranking and the values that are bound to it are built apart from each other, and the
same filter stands at different placeholders depending on which others are set.  A scope is
therefore read as a list of filters, and both rankings are shown to hold one condition for each of
them, numbered on from `$4`, with the value of that filter bound there.

## Main definitions

* `Filter`, `Scope.filters` — what a scope asks of rows, one part after the other.
* `Sql.scopesOf` — the conditions of a scope that the words of a text show.
* `Search.Narrowed` — a ranking with exactly the filters of its scope.

## Main results

* `Scope.mem_filters` — a filter is listed where the scope sets it, and nowhere else.
* `Search.vectorStatement_narrowed`, `Search.textStatement_narrowed` — both rankings are narrowed by
  the same text.
-/

namespace KnowledgeBase

open Sql

/-! ### Filters -/

/-- One thing that a scope can ask of rows. -/
inductive Filter where
  /-- To belong to the user, or to no user. -/
  | user (id : String)
  /-- To stand at the path or below it. -/
  | path (path : LabelPath)
  /-- To be of one of the types. -/
  | sources (types : List String)

namespace Filter

/-- The column that is looked at. -/
def column : Filter → String
  | user _ => "user_id"
  | path _ => "taxonomy_path"
  | sources _ => "source_type"

/-- The value that is bound. -/
def value : Filter → Value
  | user id => .text id
  | path p => .text p.text
  | sources types => .textArray types

/-- The condition whose placeholder has the number `k`. -/
def text (k : Nat) : Filter → String
  | user _ => " AND (user_id = $" ++ toString k ++ " OR user_id IS NULL)"
  | path _ => " AND taxonomy_path <@ $" ++ toString k ++ "::ltree"
  | sources _ => " AND source_type = ANY($" ++ toString k ++ ")"

/-- The scope sets this filter.  An empty list of types sets none. -/
def SetBy (scope : Scope) : Filter → Prop
  | user id => scope.user = some id
  | path p => scope.path = some p
  | sources types => scope.sourceTypes = types ∧ types ≠ []

/-- The columns in the order of their conditions. -/
def columns : List String := ["user_id", "taxonomy_path", "source_type"]

/-- The condition as the rankings hold it, before it has a number. -/
def condition : Filter → Search.Condition
  | user id => ⟨" AND (user_id = $", " OR user_id IS NULL)", toValue id⟩
  | path p => ⟨" AND taxonomy_path <@ $", "::ltree", toValue p.text⟩
  | sources types => ⟨" AND source_type = ANY($", ")", toValue types⟩

theorem value_condition (f : Filter) : f.condition.value = f.value := by
  cases f <;> rfl

theorem text_eq (k : Nat) (f : Filter) :
    f.text k = f.condition.before ++ toString k ++ f.condition.after := by
  cases f <;> rfl

end Filter

namespace Scope

/-- The filters that a scope sets, in the order of their conditions. -/
def filters (s : Scope) : List Filter :=
  (s.user.map Filter.user).toList ++ (s.path.map Filter.path).toList
    ++ if s.sourceTypes = [] then [] else [.sources s.sourceTypes]

/-- A filter is listed where the scope sets it, and nowhere else. -/
theorem mem_filters {s : Scope} {f : Filter} : f ∈ s.filters ↔ f.SetBy s := by
  obtain ⟨user, path, types⟩ := s
  by_cases htypes : types = []
  · subst htypes
    cases f <;> simp [filters, Filter.SetBy, eq_comm]
  · cases f with
    | user id => simp [filters, Filter.SetBy, htypes, eq_comm]
    | path p => simp [filters, Filter.SetBy, htypes, eq_comm]
    | sources listed =>
      simp only [filters, Filter.SetBy, htypes, if_false, List.mem_append, Option.mem_toList,
        Option.map_eq_some_iff, reduceCtorEq, and_false, exists_false, false_or,
        List.mem_singleton, Filter.sources.injEq]
      exact ⟨fun h => ⟨h.symm, h ▸ htypes⟩, fun h => h.1.symm⟩

/-- Every column is looked at once at most, and in the same order. -/
theorem columns_filters (s : Scope) : (s.filters.map Filter.column).Sublist Filter.columns := by
  obtain ⟨user, path, types⟩ := s
  cases user <;> cases path <;> cases types <;>
    simp [filters, Filter.column, Filter.columns]

/-- The text of the filters, numbered on from `$4`. -/
def suffix (s : Scope) : String := String.join ((s.filters.zipIdx 4).map fun p => p.1.text p.2)

/-- The columns of the filters with the numbers of their placeholders. -/
def places (s : Scope) : List (String × Nat) := (s.filters.zipIdx 4).map fun p => (p.1.column, p.2)

theorem length_places (s : Scope) : s.places.length = s.filters.length := by
  simp [places]

end Scope

namespace Sql

/-- The conditions of a scope that the words of a text show: the columns that are compared with a
placeholder, each with its number. -/
def scopesOf : List String → List (String × Nat)
  | "user_id" :: "=" :: value :: rest =>
    ((placeholder? value).map fun k => ("user_id", k)).toList ++ scopesOf rest
  | "taxonomy_path" :: "<" :: "@" :: value :: rest =>
    ((placeholder? value).map fun k => ("taxonomy_path", k)).toList ++ scopesOf rest
  | "source_type" :: "=" :: "ANY" :: "(" :: value :: rest =>
    ((placeholder? value).map fun k => ("source_type", k)).toList ++ scopesOf rest
  | _ :: rest => scopesOf rest
  | [] => []

end Sql

/-! ### The rankings -/

namespace Search

theorem conditions_eq (s : Scope) : conditions s = s.filters.map Filter.condition := by
  obtain ⟨user, path, types⟩ := s
  cases user <;> cases path <;> cases types <;> rfl

/-- The values of a scope are those of its filters. -/
theorem scopeValues_eq (s : Scope) : scopeValues s = s.filters.map Filter.value := by
  rw [scopeValues, conditions_eq, List.map_map]
  exact List.map_congr_left fun f _ => f.value_condition

theorem clause_eq (n : Nat) (filters : List Filter) :
    clause n (filters.map Filter.condition)
      = String.join ((filters.zipIdx n).map fun p => p.1.text p.2) := by
  induction filters generalizing n with
  | nil => rfl
  | cons f rest ih =>
    rw [List.map_cons, clause, ih, List.zipIdx_cons, List.map_cons, String.join_cons,
      Filter.text_eq]

/-- The text of a scope is that of its filters. -/
theorem scopeClause_eq (s : Scope) : scopeClause s = s.suffix := by
  rw [scopeClause, conditions_eq, clause_eq, Scope.suffix]

example : Scope.suffix ⟨some "u1", none, ["qa", "web"]⟩ =
    " AND (user_id = $4 OR user_id IS NULL) AND source_type = ANY($5)" := by
  decide +kernel

/-- The texts that scopes add, each with the places in it. -/
def scopeTexts : List (String × List (String × Nat)) :=
  [("", []),
    (" AND source_type = ANY($4)", [("source_type", 4)]),
    (" AND taxonomy_path <@ $4::ltree", [("taxonomy_path", 4)]),
    (" AND taxonomy_path <@ $4::ltree AND source_type = ANY($5)",
      [("taxonomy_path", 4), ("source_type", 5)]),
    (" AND (user_id = $4 OR user_id IS NULL)", [("user_id", 4)]),
    (" AND (user_id = $4 OR user_id IS NULL) AND source_type = ANY($5)",
      [("user_id", 4), ("source_type", 5)]),
    (" AND (user_id = $4 OR user_id IS NULL) AND taxonomy_path <@ $5::ltree",
      [("user_id", 4), ("taxonomy_path", 5)]),
    (" AND (user_id = $4 OR user_id IS NULL) AND taxonomy_path <@ $5::ltree" ++
        " AND source_type = ANY($6)",
      [("user_id", 4), ("taxonomy_path", 5), ("source_type", 6)])]

/-- What a scope adds to a text depends only on which of its parts are set. -/
theorem scopeClause_mem (s : Scope) : (scopeClause s, s.places) ∈ scopeTexts := by
  obtain ⟨user, path, types⟩ := s
  have h4 : toString 4 = "4" := rfl
  have h5 : toString 5 = "5" := rfl
  have h6 : toString 6 = "6" := rfl
  cases user <;> cases path <;> cases types <;>
    simp [scopeTexts, scopeClause, conditions, clause, Scope.places, Scope.filters, Filter.column,
      h4, h5, h6, -Nat.toString_eq_repr]

/-- A ranking with exactly the filters of its scope.  The text around them is the same for all
requests; the tenant, what is looked for and the number of candidates are bound before them. -/
structure Narrowed (around : String × String) (looked : Value) (r : Request) (st : Statement) :
    Prop where
  text : st.sql = around.1 ++ r.scope.suffix ++ around.2
  binds : st.binds = [.text r.tenant, looked, .int8 (widen r.candidateK)]
    ++ r.scope.filters.map Filter.value
  /-- The text shows no other conditions of a scope. -/
  shown : scopesOf (tokens st.sql) = r.scope.places
  /-- The number of a condition is the place of the value of its filter. -/
  bound : ∀ f k, (f, k) ∈ r.scope.filters.zipIdx 4 → st.binds[k - 1]? = some f.value

/-- The values of the filters are bound from the fourth place on. -/
theorem bound_of_binds {s : Scope} {a b c : Value} {f : Filter} {k : Nat}
    (h : (f, k) ∈ s.filters.zipIdx 4) :
    ([a, b, c] ++ s.filters.map Filter.value)[k - 1]? = some f.value := by
  obtain ⟨hk, hf⟩ := List.mk_mem_zipIdx_iff_le_and_getElem?_sub.1 h
  have hlength : [a, b, c].length ≤ k - 1 := by
    simp only [List.length_cons, List.length_nil]
    omega
  have hplace : k - 1 - [a, b, c].length = k - 4 := by
    simp only [List.length_cons, List.length_nil]
    omega
  rw [List.getElem?_append_right hlength, hplace, List.getElem?_map, hf, Option.map_some]

/-- A statement is narrowed if its text and its values go on with those of the scope, and the text
around them shows no condition of a scope. -/
theorem Narrowed.of_eq {around : String × String} {looked : Value} {r : Request} {st : Statement}
    (h : st = .prepared (around.1 ++ scopeClause r.scope ++ around.2)
      ([.text r.tenant, looked, .int8 (widen r.candidateK)] ++ scopeValues r.scope))
    (hshown : ∀ entry ∈ scopeTexts,
      scopesOf (tokens (around.1 ++ entry.1 ++ around.2)) = entry.2) :
    Narrowed around looked r st := by
  subst h
  refine ⟨?_, ?_, ?_, ?_⟩
  · rw [Statement.sql, scopeClause_eq]
  · rw [Statement.binds, scopeValues_eq]
  · rw [Statement.sql]
    exact hshown (scopeClause r.scope, r.scope.places) (scopeClause_mem r.scope)
  · intro f k hf
    rw [Statement.binds, scopeValues_eq]
    exact bound_of_binds hf

/-- The text of the ranking by similarity, before and after the filters. -/
def vectorAround : String × String :=
  ("SELECT id, (1 - (embedding <=> $2))::float8 AS score FROM knowledge_nodes " ++
    "WHERE tenant_id = $1 AND node_kind = 'chunk' AND embedding IS NOT NULL",
    " ORDER BY embedding <=> $2, id LIMIT $3")

/-- The text of the lexical ranking, before and after the filters. -/
def textAround : String × String :=
  ("SELECT id, ts_rank_cd(" ++ Schema.lexicalDocument ++ ", query)::float8 AS score " ++
    "FROM knowledge_nodes, websearch_to_tsquery('simple', $2) AS query " ++
    "WHERE tenant_id = $1 AND node_kind = 'chunk' AND " ++ Schema.lexicalDocument ++ " @@ query",
    " ORDER BY score DESC, id LIMIT $3")

-- the texts are read character by character
set_option maxRecDepth 1000

theorem vectorStatement_narrowed (r : Request) :
    Narrowed vectorAround (.vector r.vector) r (vectorStatement r) := by
  refine .of_eq rfl ?_
  unfold vectorAround tokens
  simp only [scopeTexts, List.forall_mem_cons, -String.reduceAppend]
  refine ⟨?_, ?_, ?_, ?_, ?_, ?_, ?_, ?_, List.forall_mem_nil _⟩
  all_goals
    repeat rw [String.toList_append]
    repeat rw [String.toList_ofList]
    rfl

theorem textStatement_narrowed (r : Request) :
    Narrowed textAround (.text (Text.trim r.text)) r (textStatement r) := by
  refine .of_eq rfl ?_
  unfold textAround tokens Schema.lexicalDocument
  simp only [scopeTexts, List.forall_mem_cons, -String.reduceAppend]
  refine ⟨?_, ?_, ?_, ?_, ?_, ?_, ?_, ?_, List.forall_mem_nil _⟩
  all_goals
    repeat rw [String.toList_append]
    repeat rw [String.toList_ofList]
    rfl

end Search

end KnowledgeBase
