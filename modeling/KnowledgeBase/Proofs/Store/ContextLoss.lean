import KnowledgeBase.Proofs.Connection.ContextLoss
import KnowledgeBase.Proofs.Connection.Exchange
import KnowledgeBase.Proofs.Store.Categories
import KnowledgeBase.Proofs.Store.Writes

/-!
# Calls without the context of their tenant

Every statement of a call for a tenant names the tenant itself, and goes to the tables whether or
not the context could be set for the policies of the database.  Two runs of a call that differ only
in the failures of the context are compared here.

## Main results

* `Call.context_unnoticed` — both runs have the same result and send the same data statements.
-/

namespace KnowledgeBase

open Sql

variable {σ : Type} {s : StoreSettings}

/-- The data statements are among those that reach the server behind a wavering one. -/
theorem Sql.data_filter_plain (sent : List Sent) :
    data (sent.filter fun e => e.statement.role = .plain) = data sent := by
  rw [data, data, List.filter_filter]
  apply List.filter_congr
  intro e _
  by_cases hdata : e.statement.isData = true
  · simp [hdata, Statement.role_of_isData hdata]
  · simp [hdata]

namespace Call

variable [Server σ]

/-- The programs of a call for a tenant send data statements only, and stop at the first failure. -/
theorem reaches_plain {c : Call} {tenant : String} (h : c.tenant? = some tenant) :
    (c.operation s).Sends (Frame.IsFor tenant c.user?) (fun st => st.role = .plain) ∧
      (c.operation s).Faithful := by
  refine ⟨(sends_issued s h).mono fun _ hissued => Statement.role_of_isData hissued.isData, ?_⟩
  apply faithful
  rintro rfl
  cases h

/-- **Losing the context of a tenant changes nothing else.**  A call for a tenant is answered twice
by the same server, in front of which the savepoints of the context, the statements that set it and
the releases of the savepoints fail as listed, each time by another list, and what commits or rolls
back succeeds.  Both times the call has the same result and sends the same data statements with the
same values, in the same order and with the same replies. -/
theorem context_unnoticed (s : StoreSettings) {c : Call} {tenant : String}
    (h : c.tenant? = some tenant) {p : Pool (Wavering σ)} (hp : p.Reachable s) (base : σ)
    (failures failures' : List (Option (String × String))) :
    ((c.operation s).run (p.facing ⟨base, failures⟩)).1 =
        ((c.operation s).run (p.facing ⟨base, failures'⟩)).1 ∧
      data ((c.operation s).sent (p.facing ⟨base, failures⟩)) =
        data ((c.operation s).sent (p.facing ⟨base, failures'⟩)) := by
  obtain ⟨hsends, hstops⟩ := reaches_plain (s := s) h
  have hrest (failures : List (Option (String × String))) :
      (p.facing ⟨base, failures⟩).AtRest := hp.atRest
  -- the server behind sees the same pool, whatever fails in front of it
  have hplain (failures : List (Option (String × String))) :
      (p.facing ⟨base, failures⟩).plain = p.plain.facing base := rfl
  have hresult (failures : List (Option (String × String))) :
      ((c.operation s).run (p.facing ⟨base, failures⟩)).1 =
        ((c.operation s).unframed.run (p.plain.facing base)).1 := by
    rw [← hplain failures, Operation.run_plain hsends hstops (hrest failures)]
    rfl
  have hsent (failures : List (Option (String × String))) :
      data ((c.operation s).sent (p.facing ⟨base, failures⟩)) =
        data ((c.operation s).unframed.sent (p.plain.facing base)) := by
    rw [← hplain failures, ← Operation.sent_plain hsends hstops (hrest failures),
      data_filter_plain]
  constructor
  · rw [hresult failures, hresult failures']
  · rw [hsent failures, hsent failures']

/-- A new pool of the default settings, over a server that answers every statement with success
but for some about the context. -/
def unsteady (failures : List (Option (String × String))) : Pool (Wavering Replies) :=
  Pool.ofSettings ⟨⟨[]⟩, failures⟩ .default

/-- What is sent to read beliefs while the savepoint of the context is refused. -/
def withoutSavepoint : List Sent :=
  ((beliefs "acme" "u1").operation .default).sent (unsteady [some ("53200", "out of memory")])

/-- What is sent to read them while the context is refused. -/
def withoutContext : List Sent :=
  ((beliefs "acme" "u1").operation .default).sent (unsteady [none, some ("42501", "not allowed")])

/-- The one run loses its transaction, and the other keeps it and commits. -/
theorem context_unnoticed_beliefs :
    ((beliefs "acme" "u1").tenant? = some "acme" ∧ (unsteady []).Reachable .default) ∧
      withoutSavepoint.length = 5 ∧ withoutContext.length = 7 ∧
        data withoutSavepoint = data withoutContext := by
  refine ⟨⟨rfl, .opened _⟩, by decide +kernel, by decide +kernel, ?_⟩
  exact (context_unnoticed (s := .default) (p := unsteady []) rfl (.opened _) ⟨[]⟩
    [some ("53200", "out of memory")] [none, some ("42501", "not allowed")]).2

end Call

end KnowledgeBase
