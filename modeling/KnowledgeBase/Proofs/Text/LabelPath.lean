import KnowledgeBase.LabelPath
import KnowledgeBase.Proofs.Text.ByteOrder

/-!
# The grammar of paths

A path is one or more labels joined by single dots.  The check takes a text apart at its dots and
stops at the first part that is no label; the grammar speaks of labels that are put together.  Both
come to the same because a label has no dot in it.  The check counts bytes and the grammar counts
characters, which is the same because the characters of a label have one byte each.

## Main definitions

* `LabelPath.IsLabel`, `LabelPath.Grammar` — labels, and the texts that are made of them.
* `LabelPath.FirstFault` — the first part of a text that is no label.

## Main results

* `Text.split_eq_splitOn` — splitting is that of the library.
* `LabelPath.isLabel_iff` — the rule for a label.
* `LabelPath.exists_ofText_iff` — **a text is accepted exactly if it is of the grammar.**
* `LabelPath.ofText_eq_error_iff` — what is said of a text that is refused.
* `LabelPath.decode_eq_ok_iff` — documents hold paths as texts, and the same texts.
-/

namespace KnowledgeBase

/-- What succeeds is the same with other errors. -/
theorem Except.mapError_eq_ok {ε δ α : Type} {f : ε → δ} {x : Except ε α} {a : α} :
    x.mapError f = .ok a ↔ x = .ok a := by
  cases x with
  | ok b => exact ⟨fun h => by cases h; rfl, fun h => by cases h; rfl⟩
  | error e => exact iff_of_false (by intro h; cases h) (by intro h; cases h)

namespace Text

theorem splitFrom_eq (sep : Char) (piece cs : List Char) :
    splitFrom sep piece cs = List.splitOnPPrepend (· == sep) cs piece := by
  induction cs generalizing piece with
  | nil => rfl
  | cons c cs ih =>
    rw [splitFrom, List.splitOnPPrepend_cons_eq_if, ih, List.splitOnP_eq_splitOnPPrepend]
    simp [ih]

/-- Splitting a text is splitting its list of characters. -/
theorem split_eq_splitOn (sep : Char) (cs : List Char) : split sep cs = cs.splitOn sep :=
  splitFrom_eq sep [] cs

/-- There is no separator in a piece. -/
theorem not_mem_of_mem_split {sep : Char} {cs piece : List Char} (h : piece ∈ split sep cs) :
    sep ∉ piece := by
  rw [split_eq_splitOn] at h
  induction cs generalizing piece with
  | nil =>
    rw [List.splitOn_nil, List.mem_singleton] at h
    simp [h]
  | cons c cs ih =>
    rw [List.splitOn_cons_eq_if_modifyHead] at h
    split at h
    · rcases List.mem_cons.1 h with rfl | h
      · exact List.not_mem_nil
      · exact ih h
    · next hsep =>
      cases hrest : cs.splitOn sep with
      | nil => exact absurd hrest (List.splitOn_ne_nil _ _)
      | cons first rest =>
        rw [hrest] at h ih
        rcases List.mem_cons.1 h with rfl | h
        · have hsep : sep ≠ c := fun heq => hsep (beq_iff_eq.2 heq.symm)
          exact List.not_mem_cons_of_ne_of_not_mem hsep (ih List.mem_cons_self)
        · exact ih (List.mem_cons_of_mem _ h)

end Text

namespace LabelPath

/-! ### Labels -/

/-- A letter or digit of ASCII, or an underscore. -/
def IsLabelChar (c : Char) : Prop :=
  'A' ≤ c ∧ c ≤ 'Z' ∨ 'a' ≤ c ∧ c ≤ 'z' ∨ '0' ≤ c ∧ c ≤ '9' ∨ c = '_'

/-- One to 256 of these characters. -/
structure IsLabel (label : String) : Prop where
  pos : 1 ≤ label.length
  le : label.length ≤ 256
  chars : ∀ c ∈ label.toList, IsLabelChar c

theorem isLabelChar_iff {c : Char} : isLabelChar c = true ↔ IsLabelChar c := by
  rw [isLabelChar, Char.isAlphanum, Bool.or_eq_true, Bool.or_eq_true, Text.isAlpha_iff,
    Text.isDigit_iff, beq_iff_eq, IsLabelChar, or_assoc, or_assoc]

theorem IsLabelChar.utf8Size {c : Char} (h : IsLabelChar c) : c.utf8Size = 1 := by
  refine Text.utf8Size_of_le ?_
  rcases h with ⟨-, h⟩ | ⟨-, h⟩ | ⟨-, h⟩ | rfl
  · exact Char.le_trans h (by decide)
  · exact h
  · exact Char.le_trans h (by decide)
  · decide

theorem IsLabelChar.ne_dot {c : Char} (h : IsLabelChar c) : c ≠ '.' := by
  rintro rfl
  exact absurd (isLabelChar_iff.2 h) (by decide)

/-- **The rule for a label.** -/
theorem isLabel_iff {label : String} : isLabel label.toList = true ↔ IsLabel label := by
  have hbytes (h : ∀ c ∈ label.toList, IsLabelChar c) : label.utf8ByteSize = label.length := by
    rw [Text.utf8ByteSize_eq_length fun c hc => (h c hc).utf8Size, String.length_toList]
  have hpos : label.toList.isEmpty = false ↔ 1 ≤ label.length := by
    rw [← String.length_toList, List.isEmpty_eq_false_iff, ← List.length_pos_iff]
    rfl
  simp only [isLabel, Bool.and_eq_true, Bool.not_eq_true', decide_eq_true_eq, List.all_eq_true,
    isLabelChar_iff, String.ofList_toList, hpos]
  constructor
  · rintro ⟨⟨hpos, hle⟩, hchars⟩
    exact ⟨hpos, hbytes hchars ▸ hle, hchars⟩
  · rintro ⟨hpos, hle, hchars⟩
    exact ⟨⟨hpos, hbytes hchars ▸ hle⟩, hchars⟩

theorem IsLabel.dot_not_mem {label : String} (h : IsLabel label) : '.' ∉ label.toList :=
  fun hdot => (h.chars _ hdot).ne_dot rfl

/-! ### Parts -/

/-- The parts of a text between its dots. -/
def parts (text : String) : List String := (labels text.toList).map String.ofList

theorem toList_intercalate (ls : List String) :
    (".".intercalate ls).toList = ['.'].intercalate (ls.map String.toList) :=
  String.toList_intercalate

theorem map_toList_parts (text : String) :
    (parts text).map String.toList = text.toList.splitOn '.' := by
  have hid : String.toList ∘ String.ofList = id := funext fun _ => String.toList_ofList
  rw [parts, List.map_map, hid, List.map_id, labels, Text.split_eq_splitOn]

/-- A text is made of its parts. -/
theorem intercalate_parts (text : String) : ".".intercalate (parts text) = text := by
  rw [← String.toList_inj, toList_intercalate, map_toList_parts, List.intercalate_splitOn]

/-- What is put together has these parts again. -/
theorem parts_intercalate {ls : List String} (hne : ls ≠ []) (h : ∀ l ∈ ls, '.' ∉ l.toList) :
    parts (".".intercalate ls) = ls := by
  refine (List.map_inj_right fun _ _ h => String.toList_injective h).1 ?_
  rw [map_toList_parts, toList_intercalate]
  exact List.splitOn_intercalate '.' (List.forall_mem_map.2 h) (by simpa using hne)

theorem dot_not_mem_of_mem_parts {text part : String} (h : part ∈ parts text) :
    '.' ∉ part.toList := by
  obtain ⟨cs, hcs, rfl⟩ := List.mem_map.1 h
  rw [String.toList_ofList]
  exact Text.not_mem_of_mem_split hcs

theorem parts_ne_nil (text : String) : parts text ≠ [] := by
  intro h
  have hsplit := map_toList_parts text
  rw [h] at hsplit
  exact List.splitOn_ne_nil _ _ hsplit.symm

/-! ### The grammar -/

/-- One or more labels joined by single dots. -/
def Grammar (text : String) : Prop :=
  ∃ labels : List String, labels ≠ [] ∧ (∀ l ∈ labels, IsLabel l) ∧ text = ".".intercalate labels

/-- The first part of a text between dots that is no label. -/
def FirstFault (text bad : String) : Prop :=
  ∃ before after : List String, text = ".".intercalate (before ++ bad :: after) ∧
    (∀ part ∈ before ++ bad :: after, '.' ∉ part.toList) ∧
    (∀ l ∈ before, IsLabel l) ∧ ¬ IsLabel bad

theorem grammar_iff {text : String} : Grammar text ↔ ∀ part ∈ parts text, IsLabel part := by
  constructor
  · rintro ⟨labels, hne, hlabels, rfl⟩
    rwa [parts_intercalate hne fun l hl => (hlabels l hl).dot_not_mem]
  · exact fun h => ⟨parts text, parts_ne_nil text, h, (intercalate_parts text).symm⟩

/-- Nothing is a part that is no label. -/
theorem not_grammar_empty : ¬ Grammar "" := by
  intro h
  have hlabel : IsLabel "" := grammar_iff.1 h "" List.mem_cons_self
  exact absurd hlabel.pos (by decide)

theorem firstFault_iff {text bad : String} :
    FirstFault text bad ↔
      (parts text).find? (fun part => !isLabel part.toList) = some bad := by
  have hlabel (l : String) : (!isLabel l.toList) = false ↔ IsLabel l := by
    rw [Bool.not_eq_false', isLabel_iff]
  have hfault (l : String) : (!isLabel l.toList) = true ↔ ¬ IsLabel l := by
    rw [← hlabel, Bool.not_eq_false]
  simp only [List.find?_eq_some_iff_append, hfault, Bool.not_not, isLabel_iff]
  constructor
  · rintro ⟨before, after, rfl, hdots, hbefore, hbad⟩
    exact ⟨hbad, before, after, parts_intercalate (by simp) hdots, hbefore⟩
  · rintro ⟨hbad, before, after, hparts, hbefore⟩
    refine ⟨before, after, ?_, ?_, hbefore, hbad⟩
    · rw [← hparts, intercalate_parts]
    · intro part hpart
      exact dot_not_mem_of_mem_parts (hparts ▸ hpart)

/-! ### The check -/

theorem fault?_eq (text : String) :
    fault? text = if text = "" then some .emptyPath
      else ((parts text).find? fun part => !isLabel part.toList).map (.badLabel text) := by
  simp only [fault?, String.isEmpty_iff, parts, List.find?_map, Option.map_map]
  congr 1
  simp [Function.comp_def]

/-- A text without a fault is of the grammar. -/
theorem fault?_eq_none_iff {text : String} : fault? text = none ↔ Grammar text := by
  rw [fault?_eq]
  split
  · next hempty => simp [hempty, not_grammar_empty]
  · simp [grammar_iff, isLabel_iff]

/-- **What is said of a text with a fault**: that it is empty, or which part of it is no label. -/
theorem fault?_eq_some_iff {text : String} {refusal : Refusal} :
    fault? text = some refusal ↔
      text = "" ∧ refusal = .emptyPath ∨
        text ≠ "" ∧ ∃ bad, FirstFault text bad ∧ refusal = .badLabel text bad := by
  rw [fault?_eq]
  split
  · next hempty => simp [hempty, eq_comm]
  · next hsome =>
    simp only [hsome, false_and, false_or, ne_eq, not_false_eq_true, true_and, firstFault_iff,
      Option.map_eq_some_iff]
    simp only [eq_comm]

example : fault? "book..ch-3" = some (.badLabel "book..ch-3" "") := by decide +kernel

theorem ofText_eq_ok_iff {text : String} {p : LabelPath} : ofText text = .ok p ↔ p.text = text := by
  constructor
  · intro h
    unfold ofText at h
    split at h
    · cases h
      rfl
    · cases h
  · rintro rfl
    exact ofText_text p

theorem ofText_eq_error_iff {text : String} {refusal : Refusal} :
    ofText text = .error refusal ↔ fault? text = some refusal := by
  unfold ofText
  split
  · next h => simp [h]
  · next h => simp [h]

/-- A path is of the grammar. -/
theorem grammar_text (p : LabelPath) : Grammar p.text := fault?_eq_none_iff.1 p.wellFormed

/-- **A text is accepted exactly if it is of the grammar.** -/
theorem exists_ofText_iff {text : String} : (∃ p, ofText text = .ok p) ↔ Grammar text := by
  constructor
  · rintro ⟨p, h⟩
    rw [← ofText_eq_ok_iff.1 h]
    exact p.grammar_text
  · intro h
    exact ⟨⟨text, fault?_eq_none_iff.2 h⟩, ofText_eq_ok_iff.2 rfl⟩

/-- A document holds a path as its text. -/
theorem decode_eq_ok_iff {j : Json} {p : LabelPath} :
    Codec.decode j = .ok p ↔ ∃ text, j = .str text ∧ ofText text = .ok p := by
  cases j with
  | str text =>
    change (ofText text).mapError DecodeError.refused = .ok p ↔ _
    rw [Except.mapError_eq_ok]
    simp
  | _ => exact iff_of_false (by intro h; cases h) (by rintro ⟨text, h, -⟩; cases h)

end LabelPath

end KnowledgeBase
