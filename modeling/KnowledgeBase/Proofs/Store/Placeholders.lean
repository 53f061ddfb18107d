import KnowledgeBase.Proofs.Store.Vocabulary

/-!
# Placeholders and the values bound to them

The text of a statement and the list of its values are written apart from each other, and nothing
but their order connects them.  Here every statement that is sent is shown to bind as many values as
its text has placeholders, and both rankings of a search to bind the values of their scope where
its conditions stand.

## Main definitions

* `Sql.placeholders` — the numbers of the placeholders in a text.
* `Sql.Statement.Numbered` — a statement whose placeholders are those of its values.

## Main results

* `Call.Issued.numbered`, `Schema.Own.numbered` — the statements of tenants and of the schema.
* `Call.sent_numbered` — **every statement that is sent binds its placeholders**, and a search
  narrows both its rankings by all its filters.
-/

namespace KnowledgeBase

open Sql

variable {s : StoreSettings} {dim : Nat} {tenant : String}

/-! ### Numbered statements -/

namespace Sql

/-- The numbers of the placeholders in a text, in their order and as often as they occur. -/
def placeholders (sql : String) : List Nat := (tokens sql).filterMap placeholder?

/-- The placeholders of the text run from `$1` to the number of values, without gaps and without
others.  Only statements that are prepared bind values. -/
def Statement.Numbered : Statement → Prop
  | .simple _ => True
  | .prepared sql binds => ∀ k, k ∈ placeholders sql ↔ 1 ≤ k ∧ k ≤ binds.length

/-- Whether numbers are those from one to `n`. -/
def coverUpTo (n : Nat) (numbers : List Nat) : Bool :=
  numbers.all (fun k => 1 ≤ k ∧ k ≤ n) && (List.range' 1 n).all fun k => numbers.contains k

/-- A statement is numbered if the characters of its text show all its placeholders. -/
theorem Statement.Numbered.of_text {sql : String} {binds : List Value}
    (h : coverUpTo binds.length ((tokensFrom [] sql.toList).filterMap placeholder?) = true) :
    (prepared sql binds).Numbered := by
  simp only [coverUpTo, Bool.and_eq_true, List.all_eq_true, decide_eq_true_eq,
    List.contains_iff_mem, List.mem_range'_1] at h
  obtain ⟨hwithin, hall⟩ := h
  intro k
  constructor
  · exact hwithin k
  · intro ⟨hfirst, hlast⟩
    exact hall k ⟨hfirst, by omega⟩

end Sql

-- the texts are read character by character
set_option maxRecDepth 1000

/-! ### Statements of a tenant -/

namespace Call

/-- A ranking binds three values and those of its scope, which are as many as its conditions. -/
theorem numbered_ranking {before after : String} {a b c : Value} (scope : Scope)
    (h : ∀ entry ∈ Search.scopeTexts, coverUpTo (3 + entry.2.length)
      ((tokensFrom [] (before ++ entry.1 ++ after).toList).filterMap placeholder?) = true) :
    (Statement.prepared (before ++ Search.scopeClause scope ++ after)
      ([a, b, c] ++ Search.scopeValues scope)).Numbered := by
  have hcount : ([a, b, c] ++ Search.scopeValues scope).length = 3 + scope.places.length := by
    rw [List.length_append, Search.scopeValues_eq, List.length_map, Scope.length_places]
    rfl
  refine .of_text ?_
  rw [hcount]
  exact h (Search.scopeClause scope, scope.places) (Search.scopeClause_mem scope)

theorem numbered_vectorRanking (r : Search.Request) : (Search.vectorStatement r).Numbered := by
  refine numbered_ranking r.scope ?_
  simp only [Search.scopeTexts, List.forall_mem_cons, -String.reduceAppend]
  refine ⟨?_, ?_, ?_, ?_, ?_, ?_, ?_, ?_, List.forall_mem_nil _⟩
  all_goals
    repeat rw [String.toList_append]
    repeat rw [String.toList_ofList]
    rfl

theorem numbered_textRanking (r : Search.Request) : (Search.textStatement r).Numbered := by
  refine numbered_ranking r.scope ?_
  unfold Schema.lexicalDocument
  simp only [Search.scopeTexts, List.forall_mem_cons, -String.reduceAppend]
  refine ⟨?_, ?_, ?_, ?_, ?_, ?_, ?_, ?_, List.forall_mem_nil _⟩
  all_goals
    repeat rw [String.toList_append]
    repeat rw [String.toList_ofList]
    rfl

theorem numbered_post (p : News.Post) : (News.postStatement p).Numbered := by
  refine .of_text ?_
  unfold News.conflictClause
  split
  all_goals
    repeat rw [String.toList_append]
    repeat rw [String.toList_ofList]
    rfl

theorem numbered_deletion (days : UInt32) (ids : Option (List Uuid)) :
    (Memory.deleteStatement tenant days ids).Numbered := by
  cases ids with
  | none =>
    refine .of_text ?_
    repeat rw [String.toList_append]
    repeat rw [String.toList_ofList]
    rfl
  | some _ =>
    refine .of_text ?_
    rw [String.toList_ofList]
    rfl

theorem numbered_entries (domain : Option Catalog.Domain) :
    (Catalog.entriesStatement tenant domain).Numbered := by
  cases domain
  all_goals
    refine .of_text ?_
    unfold Catalog.columns
    repeat rw [String.toList_append]
    repeat rw [String.toList_ofList]
    rfl

/-- **Every statement of a tenant is numbered.** -/
theorem Issued.numbered {st : Statement} (h : Issued dim tenant st) : st.Numbered := by
  cases h with
  | vectorRanking r => exact numbered_vectorRanking r
  | textRanking r => exact numbered_textRanking r
  | post p => exact numbered_post p
  | deletion days ids => exact numbered_deletion days ids
  | entries domain => exact numbered_entries domain
  | _ =>
    refine .of_text ?_
    -- some of the texts refer to a list of columns
    try unfold Node.columns
    try unfold Memory.episodeColumns
    try unfold Memory.beliefColumns
    try unfold Trace.columns
    try unfold News.factColumns
    repeat rw [String.toList_append]
    repeat rw [String.toList_ofList]
    rfl

end Call

/-! ### Statements of the schema -/

theorem numbered_context (id : String) (user : Option String) :
    (contextStatement id user).Numbered := by
  refine .of_text ?_
  rw [String.toList_append]
  repeat rw [String.toList_ofList]
  rfl

namespace Schema

/-- **Every statement of the schema is numbered.** -/
theorem Own.numbered {st : Statement} (h : Own s st) : st.Numbered := by
  cases h with
  | path => trivial
  | change _ => trivial
  | versions =>
    refine .of_text ?_
    rw [String.toList_ofList]
    rfl
  | record x =>
    refine .of_text ?_
    unfold recordText
    repeat rw [String.toList_append]
    repeat rw [String.toList_ofList]
    rfl
  | latest =>
    refine .of_text ?_
    rw [String.toList_ofList]
    rfl

end Schema

/-! ### Every statement -/

namespace Call

/-- The operation sends numbered statements, in frames of whatever kind. -/
theorem sends_numbered (s : StoreSettings) (c : Call) :
    ∃ F, (c.operation s).Sends F Statement.Numbered := by
  cases htenant : c.tenant? with
  | some tenant => exact ⟨_, (sends_issued s htenant).mono fun _ => Issued.numbered⟩
  | none =>
    cases c with
    | ensureSchema => exact ⟨_, Schema.ensure_sends.mono fun _ => Schema.Own.numbered⟩
    | schemaVersion =>
      exact ⟨_, (Schema.recordedVersion_sends (s := s)).mono fun _ => Schema.Own.numbered⟩
    | changeDimension dim => exact ⟨_, Schema.changeDimension_sends fun _ _ => trivial⟩
    | _ => cases htenant

/-- **Placeholders are bound, and no filter is lost.**  Whatever operation runs, with whatever
arguments and settings, after whatever was done before and whatever the server answers: the
placeholders of every statement that is sent are `$1` to `$n`, where `n` values are bound.  Both
rankings of a search go on with the same text, which holds one condition for each filter that the
scope sets and none for the others, for the user, the path and the types in that order; they are
numbered on from `$4`, and at each of the numbers the value of its filter is bound. -/
theorem sent_numbered :
    (∀ {σ : Type} [Server σ] (s : StoreSettings) (c : Call) (p : Pool σ),
      ∀ e ∈ (c.operation s).sent p, e.statement.Numbered) ∧
    ∀ r : Search.Request,
      Search.Narrowed Search.vectorAround (.vector r.vector) r (Search.vectorStatement r) ∧
      Search.Narrowed Search.textAround (.text (Text.trim r.text)) r (Search.textStatement r) ∧
      (∀ f, f ∈ r.scope.filters ↔ f.SetBy r.scope) ∧
      (r.scope.filters.map Filter.column).Sublist Filter.columns := by
  refine ⟨?_, fun r => ⟨?_, ?_, ?_, ?_⟩⟩
  · intro σ _ s c p
    obtain ⟨F, hsends⟩ := sends_numbered s c
    exact hsends.sent (fun _ => trivial) (fun id user _ _ => numbered_context id user) p
  · exact Search.vectorStatement_narrowed r
  · exact Search.textStatement_narrowed r
  · exact fun f => Scope.mem_filters
  · exact Scope.columns_filters r.scope

end Call

end KnowledgeBase
