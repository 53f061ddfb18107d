/-!
# Hexadecimal digits in text

## Main definitions

* `Text.hexValue?` — the value of a digit of either case.
* `Text.hexNumber?` — the number that digits write.
-/

namespace KnowledgeBase.Text

/-- The value of a hexadecimal digit of either case. -/
def hexValue? (c : Char) : Option Nat :=
  if '0' ≤ c ∧ c ≤ '9' then some (c.toNat - 0x30)
  else if 'a' ≤ c ∧ c ≤ 'f' then some (c.toNat - 0x57)
  else if 'A' ≤ c ∧ c ≤ 'F' then some (c.toNat - 0x37)
  else none

/-- The number written by hexadecimal digits, after the digits that make up `n`. -/
def hexNumber? (n : Nat) : List Char → Option Nat
  | [] => some n
  | c :: cs => (hexValue? c).bind fun d => hexNumber? (16 * n + d) cs

end KnowledgeBase.Text
