/-!
# Punycode

A label with characters outside ASCII is carried in one of ASCII: first its own ASCII characters and
a hyphen, then numbers in base thirty-six that say which characters go in, and where.  A number ends
with the first digit below a threshold, and the thresholds adapt to the numbers before.

## Main definitions

* `Punycode.decode?` — the label that is carried.
-/

namespace KnowledgeBase.Punycode

/-- The value of a digit: letters of either case from zero, then the decimal digits. -/
def digit? (c : Char) : Option Nat :=
  if 'a' ≤ c ∧ c ≤ 'z' then some (c.toNat - 0x61)
  else if 'A' ≤ c ∧ c ≤ 'Z' then some (c.toNat - 0x41)
  else if '0' ≤ c ∧ c ≤ '9' then some (c.toNat - 0x30 + 26)
  else none

/-- The threshold of the digit at a position, which moves in steps of thirty-six. -/
def threshold (position bias : Nat) : Nat := max 1 (min 26 (position - bias))

/-- Divides by thirty-five until little is left, counting the steps of position. -/
def shrink : Nat → Nat → Nat → Nat × Nat
  | 0, delta, position => (delta, position)
  | fuel + 1, delta, position =>
    if delta ≤ 455 then (delta, position) else shrink fuel (delta / 35) (position + 36)

/-- The bias after a number, when a label has `count` characters.  The first number counts less. -/
def adapt (first : Bool) (delta count : Nat) : Nat :=
  let delta := delta / if first then 700 else 2
  let delta := delta + delta / count
  let (delta, position) := shrink delta delta 0
  position + 36 * delta / (delta + 38)

/-- What has been read of a label. -/
structure Reading where
  /-- The characters so far. -/
  label : List Char
  /-- The last code point put in. -/
  code : Nat
  bias : Nat
  /-- The place after the last one put in. -/
  start : Nat
  /-- That place with what has been read of the current number. -/
  place : Nat
  /-- The weight of the next digit of the current number. -/
  weight : Nat
  /-- The position of the next digit of the current number. -/
  position : Nat

/-- A label of ASCII before the first number. -/
def Reading.ofAscii (label : List Char) : Reading := ⟨label, 0x80, 72, 0, 0, 1, 36⟩

/-- Puts in the character that a complete number tells, if it is one. -/
def Reading.insert? (r : Reading) (place : Nat) : Option Reading :=
  let count := r.label.length + 1
  let code := r.code + place / count
  let index := place % count
  if code < 0xD800 || (0xDFFF < code && code < 0x110000) then
    some {
      label := r.label.take index ++ Char.ofNat code :: r.label.drop index
      code
      bias := adapt (r.start == 0) (place - r.start) count
      start := index + 1
      place := index + 1
      weight := 1
      position := 36 }
  else none

/-- Reads a digit. -/
def Reading.step? (r : Reading) (c : Char) : Option Reading :=
  (digit? c).bind fun d =>
    let place := r.place + d * r.weight
    let t := threshold r.position r.bias
    if d < t then r.insert? place
    else some { r with place, weight := r.weight * (36 - t), position := r.position + 36 }

/-- The part before the last hyphen and the part after it.  A hyphen with nothing before it belongs
to the second part. -/
def parts (cs : List Char) : List Char × List Char :=
  let numbers := (cs.reverse.takeWhile (· != '-')).reverse
  let ascii := cs.take (cs.length - numbers.length - 1)
  if ascii.isEmpty then ([], cs) else (ascii, numbers)

/-- The label that is carried, if the last number is complete. -/
def decode? (cs : List Char) : Option (List Char) :=
  let (ascii, numbers) := parts cs
  match numbers.foldlM Reading.step? (Reading.ofAscii ascii) with
  | some r => if r.position = 36 then some r.label else none
  | none => none

end KnowledgeBase.Punycode
