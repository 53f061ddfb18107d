import KnowledgeBase.Number.Binary

/-!
# Bytes as text

Text in UTF-8 is a row of sequences of one to four bytes.  Bytes that are no such row are reported
by the first place that is at fault, or read with replacement characters in place of what is at
fault.

## Main definitions

* `Utf8.bytes` — the bytes of characters.
* `Utf8.sequence` — the sequence that bytes begin with.
* `Utf8.Fault`, `Utf8.fault?` — the first place that is no text.
* `Utf8.read` — the characters of bytes, with replacements.
-/

namespace KnowledgeBase.Utf8

/-- The bytes of characters. -/
def bytes (cs : List Char) : List UInt8 := (String.ofList cs).toUTF8.toList

/-- The ranges of the bytes that follow a leading byte.  The narrower ones leave out long forms,
surrogates and what lies above the last code point. -/
def followers? (lead : UInt8) : Option (List (UInt8 × UInt8)) :=
  let any : UInt8 × UInt8 := (0x80, 0xBF)
  if lead < 0x80 then some []
  else if 0xC2 ≤ lead && lead ≤ 0xDF then some [any]
  else if lead = 0xE0 then some [(0xA0, 0xBF), any]
  else if lead = 0xED then some [(0x80, 0x9F), any]
  else if 0xE1 ≤ lead && lead ≤ 0xEF then some [any, any]
  else if lead = 0xF0 then some [(0x90, 0xBF), any, any]
  else if 0xF1 ≤ lead && lead ≤ 0xF3 then some [any, any, any]
  else if lead = 0xF4 then some [(0x80, 0x8F), any, any]
  else none

/-- Reads bytes in the given ranges after `read` others.  The answer is the length of the whole, or
where it breaks off: after some bytes, or at the end of the text. -/
def follow (read : Nat) : List (UInt8 × UInt8) → List UInt8 → Except (Option Nat) Nat
  | [], _ => .ok read
  | _ :: _, [] => .error none
  | (low, high) :: ranges, b :: bs =>
    if low ≤ b && b ≤ high then follow (read + 1) ranges bs else .error (some read)

/-- The length of the sequence that starts with a leading byte, or where it breaks off. -/
def sequence (lead : UInt8) (rest : List UInt8) : Except (Option Nat) Nat :=
  match followers? lead with
  | some ranges => follow 1 ranges rest
  | none => .error (some 1)

/-! ### Faults -/

/-- The first place that is no text. -/
structure Fault where
  /-- The number of bytes before it. -/
  index : Nat
  /-- The number of bytes at fault, unless the text ends within a sequence. -/
  length : Option Nat
deriving DecidableEq

/-- The sentence that names the fault. -/
def Fault.message (f : Fault) : String :=
  match f.length with
  | some n => "invalid utf-8 sequence of " ++ toString n ++ " bytes from index " ++ toString f.index
  | none => "incomplete utf-8 byte sequence from index " ++ toString f.index

/-- The first fault from an index on, where `skip` bytes of a sequence are still to be passed. -/
def faultFrom (index skip : Nat) : List UInt8 → Option Fault
  | [] => none
  | b :: bs =>
    match skip with
    | skip + 1 => faultFrom (index + 1) skip bs
    | 0 =>
      match sequence b bs with
      | .ok n => faultFrom (index + 1) (n - 1) bs
      | .error length => some ⟨index, length⟩

/-- The first fault of bytes that should be text. -/
def fault? (bs : List UInt8) : Option Fault := faultFrom 0 0 bs

/-! ### Reading -/

/-- The character of a sequence, whose leading byte keeps fewer bits the longer it is. -/
def charOf (lead : UInt8) (rest : List UInt8) : Char :=
  let first := if rest.isEmpty then lead.toNat else lead.toNat % 2 ^ (6 - rest.length)
  Char.ofNat (rest.foldl (fun n b => 64 * n + b.toNat % 64) first)

/-- Reads on, where `skip` bytes of a sequence are still to be passed. -/
def readFrom (skip : Nat) : List UInt8 → List Char
  | [] => []
  | b :: bs =>
    match skip with
    | skip + 1 => readFrom skip bs
    | 0 =>
      match sequence b bs with
      | .ok n => charOf b (bs.take (n - 1)) :: readFrom (n - 1) bs
      | .error (some n) => '\uFFFD' :: readFrom (n - 1) bs
      | .error none => ['\uFFFD']

/-- The characters of bytes.  Each stretch at fault becomes one replacement character. -/
def read (bs : List UInt8) : List Char := readFrom 0 bs

end KnowledgeBase.Utf8
