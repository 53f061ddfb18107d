import KnowledgeBase.Uuid
import KnowledgeBase.Timestamp

/-!
# Numbers written in digits

What is written with a fixed number of digits is read back: hexadecimal digits, the identifiers made
of them, and decimal digits after leading zeros.

## Main results

* `Text.hexNumber?_hexDigits` — hexadecimal digits write the number that they were made of.
* `Uuid.parse?_text` — an identifier is read back from its text.
* `Timestamp.digits_padded` — so is a padded number.
-/

namespace KnowledgeBase

/-! ### Hexadecimal digits -/

namespace Text

theorem hexValue?_hexDigit : ∀ d < 16, hexValue? (Double.hexDigit d) = some d := by decide

theorem hexNumber?_append (n : Nat) (cs ds : List Char) :
    hexNumber? n (cs ++ ds) = (hexNumber? n cs).bind fun m => hexNumber? m ds := by
  induction cs generalizing n with
  | nil => rfl
  | cons c cs ih =>
    rw [List.cons_append, hexNumber?, hexNumber?]
    cases hexValue? c with
    | none => rfl
    | some d => exact ih _

/-- **Digits write the number that they were made of**, as far as they go. -/
theorem hexNumber?_hexDigits (width n : Nat) :
    hexNumber? 0 (Double.hexDigits width n) = some (n % 16 ^ width) := by
  induction width generalizing n with
  | zero =>
    rw [Nat.pow_zero, Nat.mod_one]
    rfl
  | succ width ih =>
    have hdigit := hexValue?_hexDigit (n % 16) (Nat.mod_lt _ (by decide))
    rw [Double.hexDigits, hexNumber?_append, ih, Option.bind_some, hexNumber?, hdigit,
      Option.bind_some, hexNumber?, Nat.pow_succ', Nat.mod_mul, Nat.add_comm]

end Text

@[simp] theorem Double.length_hexDigits (width n : Nat) : (hexDigits width n).length = width := by
  induction width generalizing n with
  | zero => rfl
  | succ width ih => rw [hexDigits, List.length_append, ih, List.length_singleton]

/-! ### Identifiers -/

namespace Uuid

variable {a b c d e : List Char}

theorem hyphenate_append (ha : a.length = 8) (hb : b.length = 4) (hc : c.length = 4)
    (hd : d.length = 4) : hyphenate (a ++ (b ++ (c ++ (d ++ e)))) =
      a ++ '-' :: b ++ '-' :: c ++ '-' :: d ++ '-' :: e := by
  simp [hyphenate, List.drop_append, List.drop_eq_nil_of_le, ha, hb, hc, hd]

/-- The five groups of digits. -/
theorem eq_groups (ds : List Char) :
    ds.take 8 ++ ((ds.drop 8).take 4 ++ ((ds.drop 12).take 4 ++ ((ds.drop 16).take 4 ++
      ds.drop 20))) = ds := by
  have hgroup (n m : Nat) : (ds.drop n).take m ++ ds.drop (n + m) = ds.drop n := by
    rw [← List.drop_drop]
    exact List.take_append_drop m (ds.drop n)
  rw [hgroup 16 4, hgroup 12 4, hgroup 8 4, List.take_append_drop]

/-- The hyphens are taken out again. -/
theorem dehyphenate?_hyphenate {ds : List Char} (h : ds.length = 32) :
    dehyphenate? (hyphenate ds) = some ds := by
  have ha : (ds.take 8).length = 8 := by simp [h]
  have hb : ((ds.drop 8).take 4).length = 4 := by simp [h]
  have hc : ((ds.drop 12).take 4).length = 4 := by simp [h]
  have hd : ((ds.drop 16).take 4).length = 4 := by simp [h]
  have he : (ds.drop 20).length = 12 := by simp [h]
  rw [← eq_groups ds]
  generalize ds.take 8 = a at *
  generalize (ds.drop 8).take 4 = b at *
  generalize (ds.drop 12).take 4 = c at *
  generalize (ds.drop 16).take 4 = d at *
  generalize ds.drop 20 = e at *
  rw [hyphenate_append ha hb hc hd]
  simp [dehyphenate?, List.drop_append, List.drop_eq_nil_of_le, hyphenate_append, ha, hb, hc, hd,
    he]

theorem length_hyphenate {ds : List Char} (h : ds.length = 32) : (hyphenate ds).length = 36 := by
  simp [hyphenate, h]

theorem ofDigits?_hexDigits (u : Uuid) :
    ofDigits? (Double.hexDigits 32 u.value.toNat) = some u := by
  have hvalue : u.value.toNat % 16 ^ 32 = u.value.toNat := Nat.mod_eq_of_lt u.value.isLt
  rw [ofDigits?, if_pos (Double.length_hexDigits ..), Text.hexNumber?_hexDigits, hvalue,
    Option.map_some, BitVec.ofNat_toNat, BitVec.setWidth_eq]

/-- **An identifier is read back from its text.** -/
theorem parse?_text (u : Uuid) : parse? u.text = some u := by
  have hlength := Double.length_hexDigits 32 u.value.toNat
  have hread : ofHyphenated? (hyphenate (Double.hexDigits 32 u.value.toNat)) = some u := by
    rw [ofHyphenated?, dehyphenate?_hyphenate hlength, Option.bind_some, ofDigits?_hexDigits]
  obtain ⟨n, hnumber⟩ : ∃ n, Text.hexNumber? 0 (Double.hexDigits 32 u.value.toNat) = some n :=
    ⟨_, Text.hexNumber?_hexDigits ..⟩
  have hhyphenated := length_hyphenate hlength
  rw [text, parse?, String.toList_ofList]
  generalize Double.hexDigits 32 u.value.toNat = ds at *
  split
  · next rest heq =>
    -- no digit is a brace
    exfalso
    cases ds with
    | nil => cases hlength
    | cons c cs =>
      have hhead := congrArg List.head? heq
      rw [hyphenate, List.take_succ_cons] at hhead
      obtain rfl : c = '\x7b' := Option.some.inj hhead
      have hbrace : Text.hexNumber? 0 ('\x7b' :: cs) = none := rfl
      rw [hbrace] at hnumber
      cases hnumber
  · rw [if_neg (by omega), if_neg (by omega)]
    exact hread

end Uuid

/-! ### Decimal digits -/

namespace Timestamp

theorem length_padded {width n : Nat} (hw : 0 < width) (hn : n < 10 ^ width) :
    (padded width n).length = width := by
  have hle := (Nat.length_toDigits_le_iff (by decide) hw).2 hn
  rw [padded, List.length_append, List.length_replicate, Nat.sub_add_cancel hle]

theorem isDigit_of_mem_padded {width n : Nat} {c : Char} (hc : c ∈ padded width n) :
    c.isDigit := by
  rcases List.mem_append.1 hc with hzero | hdigit
  · rw [List.eq_of_mem_replicate hzero]
    decide
  · exact Nat.isDigit_of_mem_toDigits (by decide) (by decide) hdigit

/-- Padding does not change the number. -/
theorem foldl_padded (width n : Nat) :
    (padded width n).foldl (fun n c => 10 * n + (c.toNat - 0x30)) 0 = n := by
  have hfold : Nat.ofDigitChars 10 (padded width n) 0 =
      (padded width n).foldl (fun n c => 10 * n + (c.toNat - 0x30)) 0 :=
    Nat.ofDigitChars_eq_foldl
  rw [padded, Nat.ofDigitChars_append, Nat.ofDigitChars_replicate_zero, Nat.mul_zero,
    Nat.ofDigitChars_ten_toDigits] at hfold
  exact hfold.symm

theorem takeWhile_padded (width n : Nat) (rest : List Char) :
    (padded width n ++ rest).takeWhile Char.isDigit =
      padded width n ++ rest.takeWhile Char.isDigit :=
  List.takeWhile_append_of_pos fun _ => isDigit_of_mem_padded

/-- **A padded number is read back** by as many digits. -/
theorem digits_padded {width n : Nat} (hw : 0 < width) (hn : n < 10 ^ width) (rest : List Char) :
    digits width (padded width n ++ rest) = some (n, rest) := by
  have hlength := length_padded hw hn
  have htake : (padded width n ++ rest).take width = padded width n ++ [] := by
    rw [List.take_append_of_le_length (Nat.le_of_eq hlength.symm), List.append_nil]
    exact List.take_of_length_le (Nat.le_of_eq hlength)
  have hne : (padded width n).isEmpty = false := by
    rw [List.isEmpty_eq_false_iff_exists_mem]
    exact List.exists_mem_of_length_pos (by omega)
  rw [digits, htake, takeWhile_padded, List.takeWhile_nil, List.append_nil]
  simp only [hne, Bool.false_eq_true, if_false, foldl_padded]
  rw [List.drop_left]

end Timestamp

end KnowledgeBase
