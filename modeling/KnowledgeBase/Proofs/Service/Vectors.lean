import KnowledgeBase.Service.Basic
import KnowledgeBase.Proofs.Store.Gates
import KnowledgeBase.Proofs.Search.Pipeline

/-!
# Vectors that reach the database

A column of embeddings has one dimension, that of the deployment.  Vectors enter an operation with
nodes, turns, entries, facts, posts and queries, or come from the embedder of the service; each way
is closed by a check, so that only vectors of that dimension are ever bound.

## Main definitions

* `Sql.Statement.vectors`, `Sql.Statement.Fits` — the vectors that a statement binds, and that they
  have a dimension.
* `Call.vectors` — the vectors that are handed to an operation.

## Main results

* `Call.Issued.fits` — the statements of operations for a tenant bind fitting vectors only.
* `Call.run_of_misfit` — an operation that holds a vector of another length leaves the pool as it
  is.
* `Service.vectors_fit` — **the same of every operation of the store and of the service.**
-/

namespace KnowledgeBase

open Sql

variable {s : StoreSettings} {dim : Nat} {tenant : String}

/-! ### Vectors of a statement -/

/-- The vector that a value is, if it is one. -/
def Sql.Value.vector? : Value → Option (List Float32)
  | .vector xs => some xs
  | _ => none

/-- The vectors that a statement binds. -/
def Sql.Statement.vectors (st : Statement) : List (List Float32) := st.binds.filterMap Value.vector?

/-- Every vector that a statement binds has the dimension. -/
def Sql.Statement.Fits (dim : Nat) (st : Statement) : Prop := ∀ v ∈ st.vectors, v.length = dim

/-- A type of which no value is bound as a vector. -/
class Sql.Unvectored (α : Type) [Cell α] : Prop where
  vector? : ∀ a : α, (toValue a).vector? = none

namespace Sql.Unvectored

instance : Unvectored String := ⟨fun _ => rfl⟩

instance : Unvectored Int32 := ⟨fun _ => rfl⟩

instance : Unvectored Int64 := ⟨fun _ => rfl⟩

instance : Unvectored Float := ⟨fun _ => rfl⟩

instance : Unvectored Uuid := ⟨fun _ => rfl⟩

instance : Unvectored (List Uuid) := ⟨fun _ => rfl⟩

instance : Unvectored Timestamp := ⟨fun _ => rfl⟩

instance : Unvectored (List String) := ⟨fun _ => rfl⟩

instance : Unvectored Json := ⟨fun _ => rfl⟩

instance : Unvectored Metadata := ⟨fun _ => rfl⟩

instance : Unvectored (List Json) := ⟨fun _ => rfl⟩

instance {α : Type} [Cell α] [Unvectored α] : Unvectored (Option α) where
  vector?
    | none => rfl
    | some a => Unvectored.vector? a

end Sql.Unvectored

/-- A value that is a vector has the dimension. -/
def Sql.Value.Fits (dim : Nat) (value : Value) : Prop := ∀ v ∈ value.vector?, v.length = dim

namespace Sql.Value

@[simp] theorem vector?_toValue {α : Type} [Cell α] [Unvectored α] (a : α) :
    (toValue a).vector? = none := Unvectored.vector? a

@[simp] theorem fits_toValue {α : Type} [Cell α] [Unvectored α] (a : α) : (toValue a).Fits dim := by
  rw [Fits, vector?_toValue]
  exact nofun

@[simp] theorem fits_vector {v : List Float32} : (toValue v).Fits dim ↔ v.length = dim :=
  ⟨fun h => h v rfl, fun h x hx => by cases hx; exact h⟩

@[simp] theorem fits_embedding {v : Option (List Float32)} :
    (toValue v).Fits dim ↔ ∀ x ∈ v, x.length = dim := by
  cases v with
  | none => exact ⟨fun _ => nofun, fun _ => nofun⟩
  | some v => simp

end Sql.Value

namespace Sql.Statement

variable {sql : String} {values : List Value}

/-- A statement fits when each of its values does. -/
theorem Fits.prepared (h : ∀ value ∈ values, value.Fits dim) : (prepared sql values).Fits dim := by
  intro v hv
  obtain ⟨value, hvalue, hvector⟩ := List.mem_filterMap.1 hv
  exact h value hvalue v hvector

theorem fits_simple (sql : String) : (simple sql).Fits dim := List.forall_mem_nil _

theorem fits_context (id : String) (user : Option String) : (contextStatement id user).Fits dim :=
  List.forall_mem_nil _

theorem vectors_eq_nil (h : ∀ value ∈ values, value.vector? = none) :
    (prepared sql values).vectors = [] :=
  List.filterMap_eq_nil_iff.2 h

end Sql.Statement

namespace Search

/-- The conditions of a scope bind no vectors. -/
theorem vector?_of_mem_scopeValues {scope : Scope} :
    ∀ value ∈ scopeValues scope, value.vector? = none := by
  obtain ⟨user, path, types⟩ := scope
  cases user <;> cases path <;> cases types <;> simp [scopeValues, conditions]

theorem vectors_textStatement (r : Request) : (textStatement r).vectors = [] := by
  refine Statement.vectors_eq_nil (List.forall_mem_append.2 ⟨?_, vector?_of_mem_scopeValues⟩)
  simp

theorem vectors_fetchStatement (id : String) (ids : List String) :
    (fetchStatement id ids).vectors = [] :=
  Statement.vectors_eq_nil (by simp)

end Search

/-- **The statements of operations for a tenant bind fitting vectors only.** -/
theorem Call.Issued.fits {st : Statement} (h : Issued dim tenant st) : st.Fits dim := by
  have hscope (scope : Scope) : ∀ value ∈ Search.scopeValues scope, value.Fits dim := by
    intro value hvalue
    rw [Value.Fits, Search.vector?_of_mem_scopeValues value hvalue]
    exact nofun
  cases h with
  | node user n h => exact .prepared (by simpa using h)
  | edge => exact .prepared (by simp)
  | walk => exact .prepared (by simp)
  | nodes => exact .prepared (by simp)
  | aliasOf => exact .prepared (by simp)
  | resolve => exact .prepared (by simp)
  | vectorRanking r _ hv =>
    exact .prepared (List.forall_mem_append.2 ⟨by simpa using hv, hscope _⟩)
  | textRanking => exact .prepared (List.forall_mem_append.2 ⟨by simp, hscope _⟩)
  | fetch => exact .prepared (by simp)
  | episode e _ hv => exact .prepared (by simpa using hv)
  | recentEpisodes => exact .prepared (by simp)
  | oldEpisodes => exact .prepared (by simp)
  | deletion days ids =>
    cases ids with
    | none => exact .prepared (by simp)
    | some ids => exact .prepared (by simp)
  | episodeCount => exact .prepared (by simp)
  | belief => exact .prepared (by simp)
  | beliefs => exact .prepared (by simp)
  | entry e _ hv => exact .prepared (by simpa using hv)
  | entries domain =>
    cases domain with
    | none => exact .prepared (by simp)
    | some domain => exact .prepared (by simp)
  | trace => exact .prepared (by simp)
  | traces => exact .prepared (by simp)
  | raw => exact .prepared (by simp)
  | fact f _ hv => exact .prepared (by simpa using hv)
  | post p _ hv => exact .prepared (by simpa using hv)
  | publication => exact .prepared (by simp)
  | recentFacts => exact .prepared (by simp)
  | similarFacts v limit least hv => exact .prepared (by simpa using hv)
  | similarPosts v limit hv => exact .prepared (by simpa using hv)

/-! ### Operations of the store -/

namespace Call

/-- The vectors that are handed to an operation. -/
def vectors : Call → List (List Float32)
  | upsertGraph _ _ nodes _ => nodes.filterMap Node.embedding
  | searchHybrid r => [r.vector]
  | addEpisode draft => draft.embedding.toList
  | upsertEntry entry => entry.embedding.toList
  | upsertNewsFact fact => fact.embedding.toList
  | searchNewsFacts _ vector _ _ => [vector]
  | upsertPost post => post.embedding.toList
  | searchPosts _ vector _ => [vector]
  | _ => []

/-- An operation that holds a vector of another length is settled before the database, unless it is
a search whose vector is left out. -/
theorem exists_verdict_of_misfit {c : Call} {v : List Float32} (hv : v ∈ c.vectors)
    (hmisfit : v.length ≠ s.dimension) (hused : ∀ r, c = searchHybrid r → v ≠ []) :
    ∃ r, c.verdict? s = some r := by
  have happlies : (v.length != s.dimension) = true := by simpa using hmisfit
  cases c with
  | upsertGraph id user nodes edges =>
    obtain ⟨n, hn, hembedding⟩ := List.mem_filterMap.1 hv
    refine Gate.exists_verdict (g := .dimension "node embedding" v s.dimension) ?_ happlies
    have hnode : .dimension "node embedding" v s.dimension ∈
        Gate.node (α := Unit) s.dimension id n := by
      simp [Gate.node, Gate.embedding, hembedding]
    refine List.mem_append_left _ (List.mem_cons_of_mem _ (List.mem_append_left _ ?_))
    exact List.mem_flatMap.2 ⟨n, hn, hnode⟩
  | searchHybrid r =>
    cases List.mem_singleton.1 hv
    have hnonempty : r.vector.isEmpty = false := by simpa using hused r rfl
    refine Gate.exists_verdict (g := .refusal (!r.vector.isEmpty && r.vector.length != s.dimension)
      (.wrongDimension "query_vector" r.vector.length s.dimension)) ?_ ?_
    · exact List.mem_cons_of_mem _ (List.mem_cons_of_mem _ List.mem_cons_self)
    · simpa [Gate.applies, hnonempty] using hmisfit
  | addEpisode draft =>
    refine Gate.exists_verdict (g := .dimension "episode embedding" v s.dimension) ?_ happlies
    simp [gates, Gate.embedding, Option.mem_toList.1 hv]
  | upsertEntry entry =>
    refine Gate.exists_verdict (g := .dimension "taxonomy embedding" v s.dimension) ?_ happlies
    simp [gates, Gate.embedding, Option.mem_toList.1 hv]
  | upsertNewsFact fact =>
    refine Gate.exists_verdict (g := .dimension "fact embedding" v s.dimension) ?_ happlies
    simp [gates, Gate.embedding, Option.mem_toList.1 hv]
  | searchNewsFacts id vector limit least =>
    cases List.mem_singleton.1 hv
    exact Gate.exists_verdict (g := .dimension "query vector" v s.dimension)
      (by simp [gates]) happlies
  | upsertPost post =>
    refine Gate.exists_verdict (g := .dimension "post embedding" v s.dimension) ?_ happlies
    simp [gates, Gate.embedding, Option.mem_toList.1 hv]
  | searchPosts id vector limit =>
    cases List.mem_singleton.1 hv
    exact Gate.exists_verdict (g := .dimension "query vector" v s.dimension)
      (by simp [gates]) happlies
  | _ => cases hv

variable {σ : Type} [Server σ]

/-- What an operation for a tenant sends binds fitting vectors only. -/
theorem sent_fits {c : Call} (h : c.tenant?.isSome) (p : Pool σ) :
    ∀ e ∈ (c.operation s).sent p, e.statement.Fits s.dimension := by
  obtain ⟨id, htenant⟩ := Option.isSome_iff_exists.1 h
  refine ((sends_issued s htenant).mono fun _ hst => hst.fits).sent ?_ ?_ p
  · exact Statement.fits_simple
  · exact fun id user _ _ => Statement.fits_context id user

/-- An operation that holds a vector of another length leaves the pool as it is. -/
theorem run_of_misfit {c : Call} {v : List Float32} (hv : v ∈ c.vectors)
    (hmisfit : v.length ≠ s.dimension) (hused : ∀ r, c = searchHybrid r → v ≠ []) (p : Pool σ) :
    ∃ answer, (c.operation s).run p = (answer, p) := by
  obtain ⟨answer, hverdict⟩ := exists_verdict_of_misfit hv hmisfit hused
  have htenant : c.tenant?.isSome := by
    cases c with
    | ensureSchema => cases hv
    | schemaVersion => cases hv
    | changeDimension dim => cases hv
    | _ => rfl
  exact ⟨answer, (gated s htenant).run_of_verdict hverdict p⟩

end Call

/-! ### Searches without a vector -/

namespace Search

theorem hybrid_sends_unvectored {r : Request} (h : r.vector = []) :
    (hybrid s r).Sends (Frame.IsFor r.tenant none) (·.vectors = []) := by
  unfold hybrid
  split
  · exact .done _
  · split
    · exact .done _
    · refine .check fun _ _ => ?_
      refine (ranking_sends fun huseful => ?_).bind fun _ => ?_
      · simp [h] at huseful
      refine (ranking_sends fun _ => vectors_textStatement r).bind fun _ => ?_
      simp only
      split
      · exact .done _
      · refine (Operation.Sends.forTenant ⟨rfl, rfl⟩ (.rows (vectors_fetchStatement _ _))).bind ?_
        exact fun _ => .check fun _ _ => .done _

/-- A search whose vector is empty is not refused for it and binds no vector; it is the same
pipeline as any search, with its vector ranking left out. -/
structure LeavesOutVector {σ : Type} [Server σ] (s : StoreSettings) (r : Request) (p : Pool σ) :
    Prop where
  accepted : ∀ e, (Call.searchHybrid r).verdict? s ≠ some (.error e)
  unvectored : ∀ e ∈ (hybrid s r).sent p, e.statement.vectors = []
  pipeline : ∀ n, Text.isBlank r.tenant = false → r.effectiveLimit = some n →
    Pipeline r n.toNat (data ((hybrid s r).sent p)) ((hybrid s r).run p).1

theorem leavesOutVector {σ : Type} [Server σ] {r : Request} (h : r.vector = []) (p : Pool σ) :
    LeavesOutVector s r p := by
  refine ⟨?_, ?_, ?_⟩
  · intro e hverdict
    obtain ⟨g, hg, hanswer⟩ := Option.map_eq_some_iff.1 hverdict
    have happlies : g.applies = true := List.find?_some hg
    have hmem := List.mem_of_find?_eq_some hg
    simp only [Call.gates, List.mem_cons, List.not_mem_nil, or_false] at hmem
    rcases hmem with rfl | rfl | rfl | rfl
    · cases hanswer
    · cases hanswer
    · simp [Gate.applies, h] at happlies
    · cases hanswer
  · exact (hybrid_sends_unvectored h).sent (fun _ => rfl) (fun _ _ _ _ => rfl) p
  · intro n htenant hlimit
    have hsends := (hybrid_sends s r).mono fun _ => Call.Issued.isData
    exact Pipeline.of_exchange htenant hlimit (Operation.exchange hsends p)

end Search

/-! ### Operations of the service -/

namespace Service

variable {σ ε : Type} [Server σ] [Embedder ε]

omit [Server σ] in
/-- Embedding sends nothing. -/
theorem pool_embed (now : Nat) (text : String) (v : Service σ ε) :
    (v.embed now text).2.pool = v.pool ∧ (v.embed now text).2.settings = v.settings := by
  rw [embed]
  generalize Embedder.embedOne now text v.embedder = embedded
  obtain ⟨e | vector, embedder⟩ := embedded
  · exact ⟨rfl, rfl⟩
  · simp only
    split
    · exact ⟨rfl, rfl⟩
    · exact ⟨rfl, rfl⟩

omit [Server σ] in
/-- A vector of another length is refused. -/
theorem embed_of_misfit {now : Nat} {text : String} {v : Service σ ε} {vector : Embedding}
    (h : (Embedder.embedOne now text v.embedder).1 = .ok vector)
    (hmisfit : vector.length ≠ v.settings.store.dimension) :
    (v.embed now text).1 =
      .error (.embedding (.dimension v.settings.store.dimension vector.length)) := by
  rw [embed]
  generalize Embedder.embedOne now text v.embedder = embedded at *
  obtain ⟨e | found, embedder⟩ := embedded
  · cases h
  · cases h
    simp [hmisfit]

omit [Embedder ε] in
/-- An operation of the store for a tenant adds statements that bind fitting vectors only. -/
theorem perform_fits {α : Type} {F : Frame → Prop} {o : Operation α}
    (ho : o.Sends F (Call.Issued dim tenant)) (v : Service σ ε) :
    v.pool.wire.Grows (Statement.Fits dim) (v.perform o).2.pool.wire :=
  (ho.mono fun _ hst => hst.fits).grows Statement.fits_simple
    (fun id user _ _ => Statement.fits_context id user) v.pool

theorem searchText_fits (now : Nat) (id text : String) (o : SearchOptions) (v : Service σ ε) :
    v.pool.wire.Grows (Statement.Fits v.settings.store.dimension)
      (v.searchText now id text o).2.pool.wire := by
  obtain ⟨hpool, hsettings⟩ := v.pool_embed now text
  rw [searchText]
  split
  · exact .refl _
  · generalize v.embed now text = embedded at *
    obtain ⟨e | vector, v'⟩ := embedded
    · exact hpool ▸ .refl _
    · simp only at hpool hsettings ⊢
      rw [← hpool, ← hsettings]
      exact perform_fits (Search.hybrid_sends _ _) v'

theorem recordTurn_fits (now : Nat) (turn : Uuid) (id user : String) (session : Option String)
    (content : String) (v : Service σ ε) :
    v.pool.wire.Grows (Statement.Fits v.settings.store.dimension)
      (v.recordTurn now turn id user session content).2.pool.wire := by
  obtain ⟨hpool, hsettings⟩ := v.pool_embed now content
  rw [recordTurn]
  split
  · exact perform_fits (Memory.addEpisode_sends _ _) v
  · generalize v.embed now content = embedded at *
    obtain ⟨e | vector, v'⟩ := embedded
    · exact hpool ▸ .refl _
    · simp only at hpool hsettings ⊢
      rw [← hpool, ← hsettings]
      exact perform_fits (Memory.addEpisode_sends _ _) v'

/-- A search whose text was given a vector of another length ends before the store. -/
theorem searchText_of_misfit {now : Nat} {text : String} {v : Service σ ε} {vector : Embedding}
    (htext : Text.isBlank text = false)
    (h : (Embedder.embedOne now text v.embedder).1 = .ok vector)
    (hmisfit : vector.length ≠ v.settings.store.dimension) (id : String) (o : SearchOptions) :
    (v.searchText now id text o).1 =
        .error (.embedding (.dimension v.settings.store.dimension vector.length)) ∧
      (v.searchText now id text o).2.pool = v.pool := by
  have hpool := (v.pool_embed now text).1
  have hrefused := embed_of_misfit h hmisfit
  rw [searchText, if_neg (by simp [htext])]
  generalize v.embed now text = embedded at *
  obtain ⟨result, v'⟩ := embedded
  cases hrefused
  exact ⟨rfl, hpool⟩

/-- So does a turn whose content was. -/
theorem recordTurn_of_misfit {now : Nat} {content : String} {v : Service σ ε} {vector : Embedding}
    (hcontent : Text.isBlank content = false)
    (h : (Embedder.embedOne now content v.embedder).1 = .ok vector)
    (hmisfit : vector.length ≠ v.settings.store.dimension) (turn : Uuid) (id user : String)
    (session : Option String) :
    (v.recordTurn now turn id user session content).1 =
        .error (.embedding (.dimension v.settings.store.dimension vector.length)) ∧
      (v.recordTurn now turn id user session content).2.pool = v.pool := by
  have hpool := (v.pool_embed now content).1
  have hrefused := embed_of_misfit h hmisfit
  rw [recordTurn, if_neg (by simp [hcontent])]
  generalize v.embed now content = embedded at *
  obtain ⟨result, v'⟩ := embedded
  cases hrefused
  exact ⟨rfl, hpool⟩

/-- **Only vectors of the dimension of the deployment reach the database.**  This holds of every
operation of the store for a tenant, of searches by text and of recorded turns, whatever the
arguments, the replies and the embedder.  An operation that holds a vector of another length sends
nothing; only the empty vector of a hybrid search is no vector: it leaves the vector ranking out. -/
theorem vectors_fit {σ ε : Type} [Server σ] [Embedder ε] :
    (∀ (s : StoreSettings) (c : Call) (p : Pool σ), c.tenant?.isSome →
      (∀ e ∈ (c.operation s).sent p, e.statement.Fits s.dimension) ∧
      (∀ x ∈ c.vectors, x.length ≠ s.dimension → (∀ r, c = .searchHybrid r → x ≠ []) →
        ∃ answer, (c.operation s).run p = (answer, p)) ∧
      ∀ r, c = .searchHybrid r → r.vector = [] → Search.LeavesOutVector s r p) ∧
    (∀ (v : Service σ ε) (now : Nat) (id text : String) (o : SearchOptions),
      v.pool.wire.Grows (Statement.Fits v.settings.store.dimension)
        (v.searchText now id text o).2.pool.wire ∧
      ∀ x, Text.isBlank text = false → (Embedder.embedOne now text v.embedder).1 = .ok x →
        x.length ≠ v.settings.store.dimension →
          (v.searchText now id text o).1 =
              .error (.embedding (.dimension v.settings.store.dimension x.length)) ∧
            (v.searchText now id text o).2.pool = v.pool) ∧
    ∀ (v : Service σ ε) (now : Nat) (turn : Uuid) (id user : String) (session : Option String)
      (content : String),
      v.pool.wire.Grows (Statement.Fits v.settings.store.dimension)
        (v.recordTurn now turn id user session content).2.pool.wire ∧
      ∀ x, Text.isBlank content = false → (Embedder.embedOne now content v.embedder).1 = .ok x →
        x.length ≠ v.settings.store.dimension →
          (v.recordTurn now turn id user session content).1 =
              .error (.embedding (.dimension v.settings.store.dimension x.length)) ∧
            (v.recordTurn now turn id user session content).2.pool = v.pool := by
  refine ⟨?_, ?_, ?_⟩
  · intro s c p h
    exact ⟨Call.sent_fits h p, fun x hx hmisfit hused => Call.run_of_misfit hx hmisfit hused p,
      fun r _ hempty => Search.leavesOutVector hempty p⟩
  · intro v now id text o
    exact ⟨v.searchText_fits now id text o,
      fun x htext h hmisfit => searchText_of_misfit htext h hmisfit id o⟩
  · intro v now turn id user session content
    exact ⟨v.recordTurn_fits now turn id user session content,
      fun x hcontent h hmisfit => recordTurn_of_misfit hcontent h hmisfit turn id user session⟩

/-- A service whose embedder makes vectors of two numbers. -/
def narrow : Service Replies ByteEmbedder :=
  ⟨.default, Pool.ofSettings ⟨[]⟩ .default, ⟨2, 2, .faithful, []⟩⟩

/-- A search by text ends before the store. -/
theorem vectors_fit_narrow :
    (narrow.searchText 0 "acme" "rust" ⟨.all, none, none, none⟩).1 =
      .error (.embedding (.dimension narrow.settings.store.dimension 2)) :=
  ((vectors_fit.2.1 narrow 0 "acme" "rust" ⟨.all, none, none, none⟩).2
    (ByteEmbedder.vector 2 "rust") (by decide) (by rfl) (by decide)).1

end Service

end KnowledgeBase
