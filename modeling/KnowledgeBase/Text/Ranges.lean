/-!
# Ranges of characters

A class of characters is a list of closed ranges of code points, in ascending order and apart.

## Main definitions

* `Text.Ranges`, `Text.Ranges.has` — a class and its membership test.
-/

namespace KnowledgeBase.Text

/-- Closed ranges of code points. -/
abbrev Ranges := List (Nat × Nat)

/-- Whether a character lies in one of the ranges. -/
def Ranges.has (ranges : Ranges) (c : Char) : Bool :=
  ranges.any fun (low, high) => low ≤ c.toNat && c.toNat ≤ high

end KnowledgeBase.Text
