import KnowledgeBase.Text.Distinct

/-!
# The order of texts is the order of their bytes

Texts are compared by their characters.  UTF-8 keeps the order of characters, so that comparing the
encoded texts byte by byte comes to the same.

## Main definitions

* `Text.bytes` — the UTF-8 bytes of a text.

## Main results

* `Text.lt_iff_bytes_lt` — a text is before another exactly if its bytes are.
* `Text.ascending_bytes` — the distinct texts of a list come by ascending bytes.
-/

namespace KnowledgeBase.Text

/-- The UTF-8 bytes of a text. -/
def bytes (s : String) : List UInt8 := s.toByteArray.data.toList

theorem bytes_eq (s : String) : bytes s = s.toList.flatMap String.utf8EncodeChar := by
  rw [bytes, ← String.utf8Encode_toList, List.utf8Encode, List.toList_data_toByteArray]

/-! ### Characters -/

theorem byte_lt {m n : Nat} (hm : m < 256) (hn : n < 256) :
    UInt8.ofNat m < UInt8.ofNat n ↔ m < n := by
  rw [UInt8.lt_iff_toNat_lt, UInt8.toNat_ofNat', UInt8.toNat_ofNat']
  omega

theorem byte_eq {m n : Nat} (hm : m < 256) (hn : n < 256) :
    UInt8.ofNat m = UInt8.ofNat n ↔ m = n := by
  rw [← UInt8.toNat_inj, UInt8.toNat_ofNat', UInt8.toNat_ofNat']
  omega

/-- Numbers of 21 bits are ordered by their digits to base 64. -/
theorem digits_lt {m n : Nat} (h : m < n) (hn : n < 2097152) :
    m / 262144 % 8 < n / 262144 % 8 ∨ m / 262144 % 8 = n / 262144 % 8 ∧
      (m / 4096 % 64 < n / 4096 % 64 ∨ m / 4096 % 64 = n / 4096 % 64 ∧
        (m / 64 % 64 < n / 64 % 64 ∨ m / 64 % 64 = n / 64 % 64 ∧ m % 64 < n % 64)) := by
  have hsum (k : Nat) (hk : k < 2097152) : k =
      262144 * (k / 262144 % 8) + 4096 * (k / 4096 % 64) + 64 * (k / 64 % 64) + k % 64 := by
    omega
  have hdigit (k : Nat) : k % 64 < 64 := Nat.mod_lt k (by decide)
  have hm := hsum m (by omega)
  have hn := hsum n hn
  have := hdigit (m / 4096)
  have := hdigit (n / 4096)
  have := hdigit (m / 64)
  have := hdigit (n / 64)
  have := hdigit m
  have := hdigit n
  -- from here on the digits are any numbers below 64
  generalize m / 262144 % 8 = a, m / 4096 % 64 = b, m / 64 % 64 = c, m % 64 = d at *
  generalize n / 262144 % 8 = a', n / 4096 % 64 = b', n / 64 % 64 = c', n % 64 = d' at *
  omega

/-- No encoding of a character is a prefix of that of a greater one, so that what follows does not
matter. -/
theorem encode_append_lt {c d : Char} (h : c < d) (xs ys : List UInt8) :
    String.utf8EncodeChar c ++ xs < String.utf8EncodeChar d ++ ys := by
  have hlt : c.val.toNat < d.val.toNat := h
  have hc : c.val.toNat < 1114112 := by
    have := c.valid
    simp only [UInt32.isValidChar, Nat.isValidChar] at this
    omega
  have hd : d.val.toNat < 1114112 := by
    have := d.valid
    simp only [UInt32.isValidChar, Nat.isValidChar] at this
    omega
  simp only [String.utf8EncodeChar]
  generalize c.val.toNat = m at *
  generalize d.val.toNat = n at *
  have hdigits := digits_lt hlt (by omega)
  -- one case for the lengths of both encodings; in each the first byte or a later one decides
  repeat' split
  all_goals
    simp (disch := omega) only [List.cons_append, List.cons_lt_cons_iff, byte_lt, byte_eq]
    omega

/-! ### Characters of ASCII -/

theorem isAlpha_iff {c : Char} : c.isAlpha = true ↔ 'A' ≤ c ∧ c ≤ 'Z' ∨ 'a' ≤ c ∧ c ≤ 'z' := by
  have hupper : c.isUpper = true ↔ 'A' ≤ c ∧ c ≤ 'Z' := decide_eq_true_iff
  have hlower : c.isLower = true ↔ 'a' ≤ c ∧ c ≤ 'z' := by
    change (decide ('a' ≤ c) && decide (c ≤ 'z')) = true ↔ _
    rw [Bool.and_eq_true, decide_eq_true_iff, decide_eq_true_iff]
  change (c.isUpper || c.isLower) = true ↔ _
  rw [Bool.or_eq_true, hupper, hlower]

theorem isDigit_iff {c : Char} : c.isDigit = true ↔ '0' ≤ c ∧ c ≤ '9' := Char.isDigit_iff_toNat

theorem utf8Size_of_le {c : Char} (h : c ≤ 'z') : c.utf8Size = 1 :=
  if_pos (UInt32.le_trans h (by decide))

/-- A text of characters of one byte has as many bytes as characters. -/
theorem utf8ByteSize_eq_length {s : String} (h : ∀ c ∈ s.toList, c.utf8Size = 1) :
    s.utf8ByteSize = s.toList.length := by
  have hbytes : s.utf8ByteSize = (bytes s).length := rfl
  rw [hbytes, bytes_eq, List.length_flatMap]
  simp only [String.length_utf8EncodeChar]
  rw [List.map_congr_left h, List.map_const', List.sum_replicate_nat, Nat.mul_one]

/-! ### Texts -/

theorem flatMap_encode_lt {cs ds : List Char} (h : cs < ds) :
    cs.flatMap String.utf8EncodeChar < ds.flatMap String.utf8EncodeChar := by
  induction cs generalizing ds with
  | nil =>
    obtain _ | ⟨d, ds⟩ := ds
    · exact absurd h (List.lt_irrefl _)
    · have hne : String.utf8EncodeChar d ≠ [] := by
        rw [ne_eq, ← List.length_eq_zero_iff, String.length_utf8EncodeChar]
        exact Nat.ne_of_gt d.utf8Size_pos
      obtain ⟨b, bs, hb⟩ := List.exists_cons_of_ne_nil hne
      rw [List.flatMap_nil, List.flatMap_cons, hb, List.cons_append]
      exact List.nil_lt_cons _ _
  | cons c cs ih =>
    obtain _ | ⟨d, ds⟩ := ds
    · exact absurd h (List.not_lt_nil _)
    · rw [List.flatMap_cons, List.flatMap_cons]
      rcases List.cons_lt_cons_iff.1 h with hcd | ⟨rfl, hrest⟩
      · exact encode_append_lt hcd _ _
      · exact List.append_left_lt (ih hrest)

theorem bytes_lt {s t : String} (h : s < t) : bytes s < bytes t := by
  rw [bytes_eq, bytes_eq]
  exact flatMap_encode_lt (String.lt_iff.1 h)

/-- **Texts are ordered by their bytes.** -/
theorem lt_iff_bytes_lt {s t : String} : s < t ↔ bytes s < bytes t := by
  refine ⟨bytes_lt, ?_⟩
  intro h
  rw [← String.not_le]
  intro hle
  by_cases hst : s = t
  · rw [hst] at h
    exact List.lt_irrefl _ h
  · have hts : t < s := String.not_le.1 fun hst' => hst (String.le_antisymm hst' hle)
    exact List.lt_asymm h (bytes_lt hts)

/-- **The distinct texts of a list come by ascending bytes.** -/
theorem ascending_bytes (xs : List String) : ((ascending xs).map bytes).Pairwise (· < ·) := by
  have hsorted : (ascending xs).Pairwise fun a b => decide (a ≤ b) = true :=
    @List.pairwise_mergeSort _ (fun a b => decide (a ≤ b))
      (fun _ _ _ hab hbc =>
        decide_eq_true (String.le_trans (of_decide_eq_true hab) (of_decide_eq_true hbc)))
      (fun a b => by simpa using String.le_total a b) (distinct xs)
  have hnodup : (ascending xs).Nodup := (List.mergeSort_perm _ _).nodup_iff.2 (distinct_nodup xs)
  refine List.pairwise_map.2 ((hsorted.and hnodup).imp fun {a b} h => ?_)
  rw [← lt_iff_bytes_lt, ← String.not_le]
  exact fun hle => h.2 (String.le_antisymm (of_decide_eq_true h.1) hle)

end KnowledgeBase.Text
