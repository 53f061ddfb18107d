import KnowledgeBase.Proofs.Connection.Balance
import KnowledgeBase.Proofs.Connection.Unread
import KnowledgeBase.Proofs.Schema.Texts
import KnowledgeBase.Proofs.Store.Vocabulary

/-!
# Calls do not disturb one another

Calls are made one after the other on one pool, and each is answered by a server of its own.  None
of them begins a transaction except through its frames, so that each leaves the connection without a
transaction, and the next call finds nothing of the ones before but a connection that may be open.

## Main definitions

* `Call.serve` — calls one after the other, each with its server.
* `Pool.Isolated` — no transaction is left from earlier calls, and later calls do not depend on
  them.

## Main results

* `Call.begins_nothing` — no call sends `BEGIN` but to open a transaction of a frame.
* `Call.serve_isolated` — whatever was called before, and however it failed, the pool is isolated.
-/

namespace KnowledgeBase

open Sql

variable {σ : Type} {s : StoreSettings}

/-! ### No statement of a call begins a transaction -/

namespace Schema

/-- A text opens with its own words. -/
theorem ne_of_opens {words sql other : String} (h : Opens words sql)
    (hother : ¬ Opens words other) : sql ≠ other := by
  rintro rfl
  exact hother h

theorem IsFrame.ne_begin {sql : String} (h : IsFrame sql) : sql ≠ "BEGIN" := by
  obtain ⟨words, hwords, hopens⟩ := h
  have hnone : ∀ words ∈ frameOpenings, ¬ Opens words "BEGIN" := by decide +kernel
  exact ne_of_opens hopens (hnone words hwords)

theorem IsChange.ne_begin {version : Int32} {sql : String} (h : IsChange version sql) :
    sql ≠ "BEGIN" := by
  obtain ⟨words, hwords, hopens⟩ := h
  have hnone : ∀ change ∈ changeOpenings, ¬ Opens change.2 "BEGIN" := by decide +kernel
  exact ne_of_opens hopens (hnone _ hwords)

theorem ne_begin_of_mem_texts {schema sql : String} {dim : Nat} {m : Modules}
    (h : sql ∈ texts schema dim m) : sql ≠ "BEGIN" := by
  rcases mem_texts.1 h with rfl | h | h | h | ⟨x, hx, h⟩ | h
  · exact (isFrame_createSchema schema).ne_begin
  · exact (isFrame_extensions _ h).ne_begin
  · exact (isFrame_layout dim m _ h).ne_begin
  · have hnone : "BEGIN" ∉ versionTexts := by decide +kernel
    exact fun heq => hnone (heq ▸ h)
  · exact (isChange_of_mem hx h).ne_begin
  · exact (isFrame_policies schema m.tenantTables _ h).ne_begin

theorem Own.ne_begin {st : Statement} (h : Own s st) : st ≠ .simple "BEGIN" := by
  rintro rfl
  rcases h.sql_mem with h | h
  · injection h with htext
    exact (isFrame_searchPath s.schema).ne_begin htext.symm
  · exact ne_begin_of_mem_texts h rfl

theorem ne_begin_of_mem_resizeTexts {m : Modules} {dim : Nat} {sql : String}
    (h : sql ∈ resizeTexts m dim) : sql ≠ "BEGIN" := by
  obtain ⟨c, -, hc⟩ := List.mem_flatMap.1 h
  rcases List.mem_append.1 hc with hc | hc
  · simp only [List.mem_cons, List.not_mem_nil, or_false] at hc
    rcases hc with rfl | rfl
    · have hopens := Opens.append_right "DROP INDEX IF EXISTS " c.index
      exact ne_of_opens hopens (by decide +kernel)
    · have hopens := (((Opens.append_right "ALTER TABLE " c.table).append
        " ALTER COLUMN embedding TYPE ").append (vectorType dim)).append " USING NULL"
      exact ne_of_opens hopens (by decide +kernel)
  · rw [embeddingIndex] at hc
    split at hc
    · rw [Option.toList_some, List.mem_singleton] at hc
      have hopens := ((Opens.append_right "CREATE INDEX IF NOT EXISTS " c.index).append
        " ON ").append (c.table ++ " USING hnsw (embedding vector_cosine_ops)")
      rw [hc]
      exact ne_of_opens hopens (by decide +kernel)
    · cases hc

end Schema

/-- **No call sends `BEGIN` itself.** -/
theorem Call.begins_nothing (s : StoreSettings) (c : Call) :
    ∃ F, (c.operation s).Sends F fun st => st ≠ .simple "BEGIN" := by
  cases htenant : c.tenant? with
  | some tenant =>
    -- every statement of such a call names the tenant, and `BEGIN` names none
    refine ⟨_, (sends_issued s htenant).mono ?_⟩
    rintro st hissued rfl
    cases hissued.namesTenant
  | none =>
    cases c with
    | ensureSchema => exact ⟨_, Schema.ensure_sends.mono fun _ => Schema.Own.ne_begin⟩
    | schemaVersion =>
      exact ⟨_, (Schema.recordedVersion_sends (s := s)).mono fun _ => Schema.Own.ne_begin⟩
    | changeDimension dim =>
      refine ⟨_, Schema.changeDimension_sends fun sql hsql heq => ?_⟩
      injection heq with htext
      exact Schema.ne_begin_of_mem_resizeTexts hsql htext
    | _ => cases htenant

/-! ### Calls one after the other -/

variable [Server σ]

/-- Calls one after the other, each answered by a server of its own. -/
def Call.serve (s : StoreSettings) (turns : List (Call × σ)) (p : Pool σ) : Pool σ :=
  turns.foldl (fun p turn => ((turn.1.operation s).run (p.facing turn.2)).2) p

/-- Calls that were made before have left nothing but a connection. -/
structure Pool.Isolated (s : StoreSettings) (p : Pool σ) : Prop where
  /-- No level of a transaction is open on the connection, and nothing waits to be sent. -/
  atRest : p.AtRest
  /-- Every transaction that was opened was committed or rolled back before the next one, unless its
  connection was lost, which no ordinary failure of a statement does. -/
  balanced : Balanced p.wire.log
  /-- On a connection that is open a call does what it does on a new one. -/
  kept : p.idle.isSome → ∀ (c : Call) (server : σ),
    (c.operation s).effect (p.facing server) = (c.operation s).effect (.opened server s)
  /-- Without a connection a call does what it does on a new pool. -/
  unconnected : p.idle = none → ∀ (c : Call) (server : σ),
    (c.operation s).effect (p.facing server) = (c.operation s).effect (.ofSettings server s)

namespace Pool

/-- What every call preserves. -/
structure Orderly (s : StoreSettings) (p : Pool σ) : Prop where
  atRest : p.AtRest
  unopened : p.Unopened
  kept : p.Kept s

namespace Orderly

variable {p : Pool σ}

omit [Server σ] in
theorem facing (h : p.Orderly s) (server : σ) : (p.facing server).Orderly s := by
  refine ⟨h.atRest, ⟨h.unopened.apart, h.unopened.ended⟩, ?_⟩
  have hkept := h.kept
  rw [Kept] at hkept ⊢
  rw [hkept]
  rfl

/-- **A call leaves a pool in order**, whatever it is answered. -/
theorem call (h : p.Orderly s) (c : Call) : ((c.operation s).run p).2.Orderly s := by
  obtain ⟨F, hsends⟩ := c.begins_nothing s
  exact ⟨h.atRest.run _, hsends.unopened h.unopened h.atRest, h.kept.run _⟩

theorem serve (h : p.Orderly s) (turns : List (Call × σ)) : (Call.serve s turns p).Orderly s := by
  induction turns generalizing p with
  | nil => exact h
  | cons turn rest ih => exact ih ((h.facing turn.2).call turn.1)

theorem isolated (h : p.Orderly s) : p.Isolated s := by
  have heffect (c : Call) (server : σ) : (c.operation s).effect (p.facing server) =
      (c.operation s).effect (if p.idle.isSome then opened server s else ofSettings server s) :=
    (h.facing server).kept.effect_eq (h.facing server).atRest (c.operation s)
  refine ⟨h.atRest, h.unopened.apart.balanced h.unopened.ended, ?_, ?_⟩
  · intro hidle c server
    rw [heffect c server, if_pos hidle]
  · intro hidle c server
    rw [heffect c server, hidle]
    rfl

end Orderly

omit [Server σ] in
theorem orderly_ofSettings (server : σ) (s : StoreSettings) : (ofSettings server s).Orderly s :=
  ⟨nofun, ⟨apart_nil, not_leftOpen_nil⟩, kept_ofSettings server s⟩

theorem orderly_warm (server : σ) (s : StoreSettings) :
    (ofSettings server s).warm.2.Orderly s := by
  have h := orderly_ofSettings server s
  exact ⟨h.atRest.perform _ _, h.unopened.perform h.atRest (.done ()) _, h.kept.perform _ _⟩

end Pool

/-- **Calls do not leak the state of transactions.**  Whether a store was opened without a
connection or with one, and whatever was called before with whatever replies and failures, no level
is open on the connection that is kept, and every transaction on the record was ended before the
next one was begun.  So what a call comes to, its result and what it sends, depends on its server
and on whether there is a connection; where there is none, one is opened and told the schema
first. -/
theorem Call.serve_isolated (s : StoreSettings) (server : σ) (turns : List (Call × σ)) :
    (serve s turns (.ofSettings server s)).Isolated s ∧
      (serve s turns (Pool.ofSettings server s).warm.2).Isolated s ∧
        ∀ (c : Call) (server : σ),
          (c.operation s).Connected server s ((c.operation s).effect (.ofSettings server s)) :=
  ⟨((Pool.orderly_ofSettings server s).serve turns).isolated,
    ((Pool.orderly_warm server s).serve turns).isolated, fun c server =>
    (c.operation s).connected server s⟩

end KnowledgeBase
