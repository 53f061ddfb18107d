import KnowledgeBase.Json.Record
import KnowledgeBase.Text.Split

/-!
# Paths of labels

A path is one or more labels joined by single dots.  A label is 1 to 256 letters, digits and
underscores of ASCII.

## Main definitions

* `LabelPath.labels` — the parts between the dots.
* `LabelPath.isLabel` — the rule for one label.
* `LabelPath.fault?` — the first broken rule of a text, if any.
* `LabelPath` — a text without a fault; `LabelPath.ofText` — checks one.

## Main results

* `LabelPath.ofText_text` — a path is read back from its own text.
-/

namespace KnowledgeBase

namespace LabelPath

/-- The parts between the dots, at least one. -/
def labels (cs : List Char) : List (List Char) := Text.split '.' cs

/-- A letter or digit of ASCII, or an underscore. -/
def isLabelChar (c : Char) : Bool := c.isAlphanum || c == '_'

/-- Label characters, at least one and of at most 256 bytes together. -/
def isLabel (label : List Char) : Bool :=
  !label.isEmpty && (String.ofList label).utf8ByteSize ≤ 256 && label.all isLabelChar

/-- The first rule that a text breaks as a path. -/
def fault? (text : String) : Option Refusal :=
  if text.isEmpty then some .emptyPath
  else ((labels text.toList).find? fun l => !isLabel l).map fun l =>
    .badLabel text (String.ofList l)

end LabelPath

/-- A dot-separated path of labels. -/
structure LabelPath where
  text : String
  wellFormed : LabelPath.fault? text = none
deriving DecidableEq

namespace LabelPath

/-- Checks a text. -/
def ofText (text : String) : Except Refusal LabelPath :=
  match h : fault? text with
  | none => .ok ⟨text, h⟩
  | some r => .error r

@[simp] theorem ofText_text (p : LabelPath) : ofText p.text = .ok p := by
  unfold ofText
  split
  · rfl
  · next r h => simp [p.wellFormed] at h

/-- A path is written as text and checked when read. -/
instance codec : Codec LabelPath where
  encode p := .str p.text
  decode j := do
    let s ← Json.readText j
    (ofText s).mapError .refused

end LabelPath

end KnowledgeBase
