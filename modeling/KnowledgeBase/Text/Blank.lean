/-!
# Blank text

White space is what Unicode gives the property `White_Space`.  A text is blank when nothing is left
of it after trimming.

## Main definitions

* `Text.isSpace` — the property on one character.
* `Text.trim` — a text without the white space at its two ends.
* `Text.isBlank` — a text of white space only.

## Main results

* `isBlank_iff_trim_eq_empty` — blank texts are those that trim to nothing.
-/

namespace KnowledgeBase.Text

/-- The characters with the Unicode property `White_Space`. -/
def isSpace (c : Char) : Bool :=
  let n := c.toNat
  (9 ≤ n && n ≤ 13) || n == 0x20 || n == 0x85 || n == 0xA0 || n == 0x1680
    || (0x2000 ≤ n && n ≤ 0x200A) || n == 0x2028 || n == 0x2029 || n == 0x202F || n == 0x205F
    || n == 0x3000

/-- A list of characters without the white space at its end. -/
def dropTrailingSpace (cs : List Char) : List Char :=
  (cs.reverse.dropWhile isSpace).reverse

/-- A list of characters without the white space at its two ends. -/
def trimChars (cs : List Char) : List Char :=
  dropTrailingSpace (cs.dropWhile isSpace)

/-- A text without the white space at its two ends. -/
def trim (s : String) : String :=
  String.ofList (trimChars s.toList)

/-- A text that is empty or holds white space only. -/
def isBlank (s : String) : Bool :=
  s.toList.all isSpace

theorem dropWhile_eq_nil_iff_all {p : Char → Bool} (cs : List Char) :
    cs.dropWhile p = [] ↔ cs.all p = true := by
  induction cs with
  | nil => simp
  | cons c cs ih => by_cases h : p c <;> simp [h, ih]

theorem trimChars_eq_nil_iff (cs : List Char) : trimChars cs = [] ↔ cs.all isSpace = true := by
  unfold trimChars dropTrailingSpace
  rw [List.reverse_eq_nil_iff, dropWhile_eq_nil_iff_all, List.all_reverse]
  constructor
  · intro h
    rw [← dropWhile_eq_nil_iff_all]
    induction cs with
    | nil => rfl
    | cons c cs ih =>
      by_cases hc : isSpace c
      · simp only [List.dropWhile_cons, hc, ite_true] at h ⊢
        exact ih h
      · simp [hc] at h
  · intro h
    rw [(dropWhile_eq_nil_iff_all cs).2 h]
    rfl

theorem isBlank_iff_trim_eq_empty (s : String) : isBlank s = true ↔ trim s = "" := by
  unfold isBlank trim
  rw [← trimChars_eq_nil_iff]
  constructor
  · intro h; rw [h]
  · intro h
    have := congrArg String.toList h
    simpa using this

end KnowledgeBase.Text
