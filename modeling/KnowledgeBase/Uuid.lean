import KnowledgeBase.Number.Double
import KnowledgeBase.Text.Hex

/-!
# Universally unique identifiers

An identifier is a number of one hundred and twenty-eight bits, written as thirty-two lower-case
hexadecimal digits in groups of eight, four, four, four and twelve.  It is read in that form,
without the hyphens, between braces, or after `urn:uuid:`, with letters of either case.

## Main definitions

* `Uuid` — the number.
* `Uuid.text` — its hyphenated form.
* `Uuid.parse?` — reads any of the four forms.
-/

namespace KnowledgeBase

/-- An identifier of one hundred and twenty-eight bits. -/
structure Uuid where
  value : BitVec 128
deriving DecidableEq

namespace Uuid

/-- The identifier whose bits are all zero. -/
def nil : Uuid := ⟨0⟩

/-- Thirty-two digits with hyphens after the eighth, twelfth, sixteenth and twentieth. -/
def hyphenate (ds : List Char) : List Char :=
  ds.take 8 ++ '-' :: (ds.drop 8).take 4 ++ '-' :: (ds.drop 12).take 4 ++ '-' :: (ds.drop 16).take 4
    ++ '-' :: ds.drop 20

/-- The lower-case hyphenated form. -/
def text (u : Uuid) : String :=
  String.ofList (hyphenate (Double.hexDigits 32 u.value.toNat))

/-- Reads thirty-two digits. -/
def ofDigits? (ds : List Char) : Option Uuid :=
  if ds.length = 32 then (Text.hexNumber? 0 ds).map fun n => ⟨BitVec.ofNat 128 n⟩ else none

/-- Takes the hyphens out of the hyphenated form. -/
def dehyphenate? (cs : List Char) : Option (List Char) :=
  let ds := cs.take 8 ++ (cs.drop 9).take 4 ++ (cs.drop 14).take 4 ++ (cs.drop 19).take 4
      ++ cs.drop 24
  if cs.length = 36 && hyphenate ds == cs then some ds else none

/-- Reads the hyphenated form. -/
def ofHyphenated? (cs : List Char) : Option Uuid :=
  (dehyphenate? cs).bind ofDigits?

/-- Reads one of the four forms. -/
def parse? (s : String) : Option Uuid :=
  let cs := s.toList
  match cs with
  | '\x7b' :: rest =>
    if rest.getLast? = some '\x7d' then ofHyphenated? rest.dropLast else none
  | _ =>
    if cs.length = 32 then ofDigits? cs
    else if cs.length = 45 then
      if (cs.take 9).map Char.toLower = "urn:uuid:".toList then ofHyphenated? (cs.drop 9) else none
    else ofHyphenated? cs

end Uuid

end KnowledgeBase
