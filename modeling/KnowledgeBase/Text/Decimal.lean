import KnowledgeBase.Number.Binary

/-!
# Decimal numbers in text

Unsigned numbers are digits of ASCII, perhaps after a plus sign, below a bound.

## Main definitions

* `Text.NumberFault` — why a text is no number.
* `Text.readNumber` — reads a number below a bound.
* `Text.parseWord?` — an unsigned number of sixty-four bits.
-/

namespace KnowledgeBase.Text

/-- Why a text is no number. -/
inductive NumberFault where
  | empty
  | digit
  | tooLarge
deriving DecidableEq

/-- The sentence that names the fault. -/
def NumberFault.message : NumberFault → String
  | empty => "cannot parse integer from empty string"
  | digit => "invalid digit found in string"
  | tooLarge => "number too large to fit in target type"

/-- Reads digits after those that make up `n`.  The first digit at which the number reaches the
bound is a fault, whatever follows it. -/
def readDigits (bound n : Nat) : List Char → Except NumberFault Nat
  | [] => .ok n
  | c :: cs =>
    if c.isDigit then
      let n := 10 * n + (c.toNat - 0x30)
      if n < bound then readDigits bound n cs else .error .tooLarge
    else .error .digit

/-- Reads a number below a bound. -/
def readNumber (bound : Nat) (s : String) : Except NumberFault Nat :=
  match s.toList with
  | [] => .error .empty
  | '+' :: ds => if ds.isEmpty then .error .digit else readDigits bound 0 ds
  | ds => readDigits bound 0 ds

/-- Reads an unsigned number of sixty-four bits: digits of ASCII, perhaps after a plus sign. -/
def parseWord? (s : String) : Option UInt64 :=
  match readNumber (2 ^ 64) s with
  | .ok n => some (UInt64.ofNat n)
  | .error _ => none

end KnowledgeBase.Text
