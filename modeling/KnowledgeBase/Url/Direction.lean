import KnowledgeBase.Text.Alphanumeric
import KnowledgeBase.Text.Mark

/-!
# Direction of domain names

A name with letters that run from right to left must read the same however it is laid out.  So each
of its labels starts with a letter that fixes the direction, ends with a letter or a digit, and
keeps letters of the other direction out.

## Main definitions

* `Domain.Direction`, `Domain.direction` — how a character runs.
* `Domain.directionsFit` — whether the labels of a name keep the rule.
-/

namespace KnowledgeBase.Domain

open Text

/-- How a character runs. -/
inductive Direction where
  /-- A letter that runs from left to right, or a sign that takes up room beside one. -/
  | left
  /-- A letter that runs from right to left. -/
  | right
  /-- A digit whose numbers run from left to right. -/
  | digit
  /-- A digit whose numbers run like the letters around them. -/
  | arabicDigit
  /-- A mark, which runs like the letter that it belongs to. -/
  | mark
  /-- A symbol, which runs like its surroundings. -/
  | neutral
deriving DecidableEq

/-- The ranges of letters that run from right to left.  Marks and digits are told apart first. -/
def rightRanges : Ranges := [
  (0x5BE, 0x5F4), (0x608, 0x608), (0x60B, 0x60B), (0x60D, 0x60D), (0x61B, 0x64A), (0x66D, 0x6D5),
  (0x6E5, 0x6E6), (0x6EE, 0x6EF), (0x6FA, 0x7F5), (0x7FA, 0x8C9), (0xFB1D, 0xFB28),
  (0xFB2A, 0xFBC2), (0xFBD3, 0xFD3D), (0xFD50, 0xFD8F), (0xFD92, 0xFDC7), (0xFDF0, 0xFDFC),
  (0xFE71, 0xFEFC), (0x10800, 0x1091B), (0x10920, 0x10B35), (0x10B40, 0x10D23), (0x10D4A, 0x10D8F),
  (0x10E80, 0x10EC7), (0x10F00, 0x10FF6), (0x1E800, 0x1EEBB)]

/-- The digits whose numbers run from left to right. -/
def digitRanges : Ranges := [
  (0x30, 0x39), (0x6F0, 0x6F9), (0x102E1, 0x102FB), (0x10D40, 0x10D49)]

/-- The digits whose numbers run like the letters around them. -/
def arabicDigitRanges : Ranges := [
  (0x660, 0x669), (0x66B, 0x66C), (0x10D30, 0x10D39), (0x10E60, 0x10E7E)]

/-- How a character runs. -/
def direction (c : Char) : Direction :=
  if isMark c then if spacingRanges.has c then .left else .mark
  else if digitRanges.has c then .digit
  else if arabicDigitRanges.has c then .arabicDigit
  else if rightRanges.has c then .right
  else if isAlphanumeric c then .left
  else .neutral

/-- Whether a label keeps the rule, given how its characters run. -/
def labelFits (ds : List Direction) : Bool :=
  let last := (ds.reverse.dropWhile (· == .mark)).head?
  match ds.head? with
  | none => true
  | some .left =>
    (last == some .left || last == some .digit)
      && !ds.contains .right && !ds.contains .arabicDigit
  | some .right =>
    (last == some .right || last == some .digit || last == some .arabicDigit)
      && !ds.contains .left && !(ds.contains .digit && ds.contains .arabicDigit)
  | some _ => false

/-- Whether the labels of a name keep the rule, which binds names with anything in them that runs
from right to left. -/
def directionsFit (labels : List (List Char)) : Bool :=
  let ds := labels.map (·.map direction)
  let binds := ds.any fun label => label.contains .right || label.contains .arabicDigit
  !binds || ds.all labelFits

end KnowledgeBase.Domain
