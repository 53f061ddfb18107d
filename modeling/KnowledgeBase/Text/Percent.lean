import KnowledgeBase.Text.Hex
import KnowledgeBase.Text.Utf8

/-!
# Percent-encoded bytes

A percent sign and two hexadecimal digits stand for a byte.  A percent sign before anything else
stands for itself.

## Main definitions

* `Percent.decode` — the bytes that are meant.
* `Percent.read` — their characters, with replacements.
-/

namespace KnowledgeBase.Percent

/-- The byte of two hexadecimal digits. -/
def byte? (high low : UInt8) : Option UInt8 :=
  (Text.hexNumber? 0 [Char.ofNat high.toNat, Char.ofNat low.toNat]).map UInt8.ofNat

/-- The bytes that are meant. -/
def decode : List UInt8 → List UInt8
  | [] => []
  | [b] => [b]
  | [b, c] => [b, c]
  | b :: high :: low :: bs =>
    match if b = 0x25 then byte? high low else none with
    | some meant => meant :: decode bs
    | none => b :: decode (high :: low :: bs)

/-- The bytes that characters mean. -/
def bytes (cs : List Char) : List UInt8 := decode (Utf8.bytes cs)

/-- The characters that are meant, with replacements for bytes that are no text. -/
def read (cs : List Char) : List Char := Utf8.read (bytes cs)

end KnowledgeBase.Percent
