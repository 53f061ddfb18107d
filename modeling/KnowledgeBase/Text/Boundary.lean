/-!
# Cutting text after some bytes

A character takes one to four bytes, so that a text may not be cut after any number of its bytes,
but only where a character begins or where the text ends.

## Main definitions

* `Text.charOffsets` — the characters of a text, each with the number of bytes before it.
* `Text.IsBoundary` — the places where a text may be cut.
* `Text.firstBytes` — what stands before such a place.

## Main results

* `Text.getElem?_charOffsets` — the bytes before a character are those of the characters before it.
* `Text.isBoundary_of_append`, `Text.firstBytes_of_append` — a text may be cut after any beginning
  of it, and what stands before the cut is that beginning.
-/

namespace KnowledgeBase.Text

/-! ### Offsets -/

/-- Characters, each with the number of bytes before it, when `before` of them stand before the
first. -/
def offsetsFrom (before : Nat) : List Char → List (Nat × Char)
  | [] => []
  | c :: cs => (before, c) :: offsetsFrom (before + c.utf8Size) cs

/-- The characters of a text, each with the number of bytes before it. -/
def charOffsets (text : String) : List (Nat × Char) := offsetsFrom 0 text.toList

theorem getElem?_offsetsFrom (before : Nat) (cs : List Char) (i : Nat) :
    (offsetsFrom before cs)[i]? =
      cs[i]?.map fun c => (before + (String.ofList (cs.take i)).utf8ByteSize, c) := by
  induction cs generalizing before i with
  | nil => rfl
  | cons d cs ih =>
    cases i with
    | zero => simp [offsetsFrom]
    | succ i => simp [offsetsFrom, ih, Nat.add_assoc]

theorem getElem?_charOffsets (text : String) (i : Nat) :
    (charOffsets text)[i]? =
      text.toList[i]?.map fun c => ((String.ofList (text.toList.take i)).utf8ByteSize, c) := by
  rw [charOffsets, getElem?_offsetsFrom]
  simp only [Nat.zero_add]

/-! ### Cuts -/

/-- A text may be cut after some bytes if it ends there or the next byte is the first of a
character. -/
def IsBoundary (text : String) (n : Nat) : Prop :=
  n = text.utf8ByteSize ∨ ∃ h : n < text.toByteArray.size, text.toByteArray[n].IsUTF8FirstByte

instance (text : String) (n : Nat) : Decidable (IsBoundary text n) :=
  inferInstanceAs (Decidable (_ ∨ _))

/-- What stands before a cut is text. -/
theorem isBoundary_iff {text : String} {n : Nat} :
    IsBoundary text n ↔ String.Pos.Raw.IsValid text ⟨n⟩ := by
  rw [String.Pos.Raw.isValid_iff_isUTF8FirstByte, String.Pos.Raw.ext_iff]
  rfl

/-- The first bytes of a text. -/
def firstBytes (text : String) (n : Nat) (h : IsBoundary text n) : String :=
  String.fromUTF8 (text.toByteArray.extract 0 n) (isBoundary_iff.1 h).isValidUTF8_extract_zero

/-- A text may be cut after a beginning of it. -/
theorem isBoundary_of_append {text s t : String} (h : s ++ t = text) :
    IsBoundary text s.utf8ByteSize :=
  isBoundary_iff.2 (String.Pos.Raw.isValid_iff_exists_append.2 ⟨s, t, h.symm, rfl⟩)

/-- What stands before the cut is that beginning. -/
theorem firstBytes_of_append {text s t : String} (h : s ++ t = text)
    (hcut : IsBoundary text s.utf8ByteSize) : firstBytes text s.utf8ByteSize hcut = s := by
  have hbytes : text.toByteArray.extract 0 s.utf8ByteSize = s.toByteArray := by
    rw [← h, String.toByteArray_append]
    exact ByteArray.extract_append_eq_left String.size_toByteArray.symm
  exact String.toByteArray_inj.1 hbytes

/-- The first characters of a text are a beginning of it. -/
theorem ofList_take_append_drop (text : String) (i : Nat) :
    String.ofList (text.toList.take i) ++ String.ofList (text.toList.drop i) = text := by
  rw [← String.ofList_append, List.take_append_drop, String.ofList_toList]

end KnowledgeBase.Text
