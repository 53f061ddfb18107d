import KnowledgeBase.Proofs.Connection.Atomicity
import KnowledgeBase.Proofs.Store.TenantScope

/-!
# Writes take effect as a whole or not at all

Each write of the store checks its input and then does all of its work in one transaction of its
tenant.  Hence it is all or nothing, as long as the savepoint in which its context is set is not
refused.

## Main definitions

* `Call.isWrite` — the writes of the store.
* `Operation.OneWrite` — an operation that does all of its work in one transaction.

## Main results

* `Call.oneWrite` — every write does all of its work in one transaction.
* `Call.allOrNothing_iff` — a write is all or nothing exactly if no savepoint is refused.
-/

namespace KnowledgeBase

open Sql

variable {σ α β : Type} [Server σ]

/-! ### One transaction -/

/-- An operation that is refused, has nothing to do, or does all of its work in one transaction and
answers when that is committed. -/
inductive Operation.OneWrite : Operation α → Prop where
  | done (a : α) : OneWrite (.done a)
  | fail (e : StoreError) : OneWrite (.fail e)
  | within {γ : Type} {id : String} {user : Option String} {work : Work γ} {next : γ → Operation α}
    (hwork : work.Begins) (hnext : ∀ b, ∃ a, next b = .done a) :
    OneWrite (.within (.tenant id user .commit) work next)

namespace Operation.OneWrite

theorem check {r : Except StoreError α} {f : α → Operation β} (h : ∀ a, (f a).OneWrite) :
    ((liftM r : Operation α) >>= f).OneWrite := by
  cases r with
  | ok a => exact h a
  | error e => exact .fail e

theorem forTenant {id : String} {user : Option String} {w : Work α} (h : w.Begins) :
    (Operation.forTenant id user w).OneWrite := .within h fun a => ⟨a, rfl⟩

/-- What is answered may be made of what the work answers. -/
theorem forTenant_map {id : String} {user : Option String} {w : Work α} (h : w.Begins)
    (f : α → β) : (Operation.forTenant id user w >>= fun a => .done (f a)).OneWrite :=
  .within h fun a => ⟨f a, rfl⟩

/-- An operation that does its work in one transaction comes to what that transaction comes to. -/
theorem outcome {o : Operation α} (h : o.OneWrite) {F : Frame → Prop}
    (hsends : o.Sends F fun s => s.isData = true) {p : Pool σ} (hp : p.AtRest) :
    (∀ e ∈ o.sent p, ¬ e.RefusesSavepoint) ∧
        AllOrNothing (o.run p).1.isOk (o.sent p) (o.run p).2.idle ∨
      (∃ e ∈ o.sent p, e.RefusesSavepoint) ∧
        ((∀ e ∈ o.sent p, e.reply.isLost = false) →
          ¬ AllOrNothing (o.run p).1.isOk (o.sent p) (o.run p).2.idle) := by
  cases h with
  | done a =>
    have hsent : (Operation.done a).sent p = [] := sent_eq (by simp [run])
    rw [hsent]
    exact .inl ⟨List.forall_mem_nil _, .of_no_data (List.forall_mem_nil _) (.inl rfl)⟩
  | fail e =>
    have hsent : (Operation.fail e : Operation α).sent p = [] := sent_eq (by simp [run])
    rw [hsent]
    exact .inl ⟨List.forall_mem_nil _, .of_no_data (List.forall_mem_nil _) (.inl rfl)⟩
  | @within γ id user work next hwork hnext =>
    cases hsends with
    | within _ hdata _ =>
      obtain ⟨sent, hlog, hcases⟩ := Pool.outcome hp hdata id user
      have hrun : ((Operation.within (.tenant id user .commit) work next).run p).1.isOk =
            (p.perform (.tenant id user .commit) work).1.isOk ∧
          ((Operation.within (.tenant id user .commit) work next).run p).2 =
            (p.perform (.tenant id user .commit) work).2 := by
        rw [run]
        rcases p.perform (.tenant id user .commit) work with ⟨e | b, p'⟩
        · exact ⟨rfl, rfl⟩
        · obtain ⟨a, ha⟩ := hnext b
          simp only [ha]
          exact ⟨rfl, rfl⟩
      rw [hrun.1, hrun.2, sent_eq (hrun.2 ▸ hlog)]
      exact hcases.imp_right fun h => ⟨h.1, h.2 hwork⟩

end Operation.OneWrite

/-! ### The writes of the store -/

open Operation.OneWrite (check forTenant forTenant_map)

variable (s : StoreSettings)

namespace Graph

theorem sendEffective_begins (st : Statement) (refusal : Refusal) :
    (sendEffective st refusal).Begins := (Work.Begins.affected st).bind _

/-- Nodes and edges are written by work that starts with a statement, if there are any. -/
theorem writes_begins {tenant : String} {user : Option String} {nodes : List Node}
    {edges : List Edge} (hsome : ¬ (nodes.isEmpty && edges.isEmpty) = true) :
    (writeNodes tenant user nodes >>= fun _ => writeEdges tenant edges).Begins := by
  cases nodes with
  | cons n rest => exact ((sendEffective_begins _ _).bind _).bind _
  | nil =>
    cases edges with
    | cons e rest => exact (sendEffective_begins _ _).bind _
    | nil => exact absurd rfl hsome

theorem upsert_oneWrite (tenant : String) (user : Option String) (nodes : List Node)
    (edges : List Edge) : (upsert s tenant user nodes edges).OneWrite := by
  refine check fun _ => ?_
  split
  · exact .done ()
  · next hsome => exact forTenant (writes_begins hsome)

theorem upsertAlias_oneWrite (tenant : String) (a : Alias) : (upsertAlias tenant a).OneWrite :=
  check fun _ => check fun _ => check fun _ => forTenant (sendEffective_begins _ _)

end Graph

namespace Memory

theorem addEpisode_oneWrite (e : Episode.Draft) : (addEpisode s e).OneWrite :=
  check fun _ => check fun _ => check fun _ => check fun _ => forTenant_map (.send _) _

theorem deleteEpisodes_oneWrite (tenant : String) (days : UInt32) (ids : Option (List Uuid)) :
    (deleteEpisodes tenant days ids).OneWrite := by
  refine check fun _ => ?_
  split
  · exact .done 0
  · exact forTenant (.affected _)

theorem upsertBelief_oneWrite (tenant user key : String) (value : Json) (confidence : Float)
    (source : Option Uuid) : (upsertBelief tenant user key value confidence source).OneWrite :=
  check fun _ => check fun _ => check fun _ => check fun _ => forTenant_map (.send _) _

end Memory

theorem Catalog.upsert_oneWrite (e : Catalog.Entry) : (Catalog.upsert s e).OneWrite :=
  check fun _ => check fun _ => check fun _ => check fun _ => forTenant_map (.send _) _

theorem Trace.append_oneWrite (id : Uuid) (t : Trace.Draft) : (Trace.append id t).OneWrite :=
  check fun _ => check fun _ => forTenant_map (.send _) _

namespace News

theorem upsertRaw_oneWrite (i : RawItem) : (upsertRaw s i).OneWrite :=
  check fun _ => check fun _ => check fun _ => check fun _ => forTenant (.scalar _)

theorem upsertFact_oneWrite (f : Fact) : (upsertFact s f).OneWrite :=
  check fun _ => check fun _ => check fun _ => check fun _ => check fun _ => forTenant (.scalar _)

theorem upsertPost_oneWrite (p : Post) : (upsertPost s p).OneWrite :=
  check fun _ => check fun _ => check fun _ => check fun _ => check fun _ =>
    forTenant ((Work.Begins.scalar? _).bind _)

theorem markPublished_oneWrite (tenant id : String) (message : Int64) :
    (markPublished s tenant id message).OneWrite :=
  check fun _ => check fun _ => check fun _ => forTenant_map (.affected _) _

end News

namespace Call

/-- The writes of the store. -/
def isWrite : Call → Bool
  | upsertGraph .. | upsertAlias .. | addEpisode _ | deleteEpisodes .. | upsertBelief ..
  | upsertEntry _ | appendTrace .. | upsertRaw _ | upsertNewsFact _ | upsertPost _
  | markPublished .. => true
  | _ => false

/-- **Every write does all of its work in one transaction.** -/
theorem oneWrite {c : Call} (h : c.isWrite = true) : (c.operation s).OneWrite := by
  cases c with
  | upsertGraph id user nodes edges => exact Graph.upsert_oneWrite s id user nodes edges
  | upsertAlias id name => exact Graph.upsertAlias_oneWrite id name
  | addEpisode draft => exact Memory.addEpisode_oneWrite s draft
  | deleteEpisodes id days ids => exact Memory.deleteEpisodes_oneWrite id days ids
  | upsertBelief id user key value confidence source =>
    exact Memory.upsertBelief_oneWrite id user key value confidence source
  | upsertEntry entry => exact Catalog.upsert_oneWrite s entry
  | appendTrace id draft => exact Trace.append_oneWrite id draft
  | upsertRaw item => exact News.upsertRaw_oneWrite s item
  | upsertNewsFact fact => exact News.upsertFact_oneWrite s fact
  | upsertPost post => exact News.upsertPost_oneWrite s post
  | markPublished id post message => exact News.markPublished_oneWrite s id post message
  | _ => cases h

theorem tenant?_of_isWrite {c : Call} (h : c.isWrite = true) :
    ∃ tenant, c.tenant? = some tenant := by
  cases c with
  | ensureSchema => cases h
  | schemaVersion => cases h
  | changeDimension dim => cases h
  | _ => exact ⟨_, rfl⟩

/-- A statement that names its tenant is a data statement. -/
theorem Issued.isData {dim : Nat} {tenant : String} {st : Statement} (h : Issued dim tenant st) :
    st.isData = true := by
  cases h.namesTenant with
  | intro k htext _ _ => rw [Statement.isData, htext]; rfl

/-- **Writes are all or nothing**, whatever the replies and whatever was done before, exactly if the
savepoint in which the context is set is not refused.  Broken connections are left out. -/
theorem allOrNothing_iff {c : Call} (hwrite : c.isWrite = true) {p : Pool σ}
    (hp : p.Reachable s) (hlost : ∀ e ∈ (c.operation s).sent p, e.reply.isLost = false) :
    AllOrNothing ((c.operation s).run p).1.isOk ((c.operation s).sent p)
        ((c.operation s).run p).2.idle ↔
      ∀ e ∈ (c.operation s).sent p, ¬ e.RefusesSavepoint := by
  obtain ⟨tenant, htenant⟩ := tenant?_of_isWrite hwrite
  have hsends := (sends_issued s htenant).mono fun _ => Issued.isData
  rcases (oneWrite s hwrite).outcome hsends hp.atRest with ⟨hnot, hall⟩ | ⟨hrefused, hstray⟩
  · exact ⟨fun _ => hnot, fun _ => hall⟩
  · refine ⟨fun hall => absurd hall (hstray hlost), ?_⟩
    intro hnot
    obtain ⟨e, he, hrefuses⟩ := hrefused
    exact absurd hrefuses (hnot e he)

/-- An alias to write. -/
def newAlias : Call := upsertAlias "acme" ⟨"Bob", "n1", "crm"⟩

/-- Writing an alias while every statement succeeds. -/
theorem allOrNothing_iff_newAlias :
    (newAlias.isWrite = true ∧ (Pool.replying []).Reachable .default ∧
      ∀ e ∈ (newAlias.operation .default).sent (Pool.replying []), e.reply.isLost = false) ∧
    (AllOrNothing ((newAlias.operation .default).run (Pool.replying [])).1.isOk
        ((newAlias.operation .default).sent (Pool.replying []))
        ((newAlias.operation .default).run (Pool.replying [])).2.idle ↔
      ∀ e ∈ (newAlias.operation .default).sent (Pool.replying []), ¬ e.RefusesSavepoint) := by
  have hlost : ((newAlias.operation .default).sent (Pool.replying [])).all
      (fun e => !e.reply.isLost) = true := rfl
  have hlost : ∀ e ∈ (newAlias.operation .default).sent (Pool.replying []),
      e.reply.isLost = false := fun e he => by simpa using List.all_eq_true.1 hlost e he
  exact ⟨⟨rfl, .opened _, hlost⟩, allOrNothing_iff .default rfl (.opened _) hlost⟩

/-- **A refused savepoint costs the transaction.**  The alias is written outside any, and the call
succeeds without a commit. -/
theorem not_allOrNothing_newAlias :
    ((newAlias.operation .default).run
        (Pool.replying [.done 0, .done 0, .error "53200" "out of memory"])).1.isOk = true ∧
      ¬ AllOrNothing true
        ((newAlias.operation .default).sent
          (Pool.replying [.done 0, .done 0, .error "53200" "out of memory"]))
        ((newAlias.operation .default).run
          (Pool.replying [.done 0, .done 0, .error "53200" "out of memory"])).2.idle := by
  refine ⟨rfl, ?_⟩
  intro h
  -- the insertion is the fifth statement, behind the roll-back that the driver sends
  have hinsert := h.within.2.2.2.2.1 (@Issued.isData 0 "acme" _ (.aliasOf ⟨"Bob", "n1", "crm"⟩))
  cases hinsert

end Call

end KnowledgeBase
