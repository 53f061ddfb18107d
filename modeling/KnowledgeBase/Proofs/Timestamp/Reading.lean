import KnowledgeBase.Proofs.Text.Digits
import KnowledgeBase.Proofs.Timestamp.Calendar

/-!
# Instants read back

An instant in the years 0 to 9999 that is no leap second is read back from its text to the
nanosecond.

## Main definitions

* `Timestamp.Plain` — in these years, and outside leap seconds.

## Main results

* `Timestamp.readingStep_text` — the parts that are read are the parts that were written.
* `Timestamp.parse?_text` — an instant is read back from its text.
-/

namespace KnowledgeBase.Timestamp

/-- An instant in the years 0 to 9999, outside leap seconds. -/
structure Plain (t : Timestamp) : Prop where
  firstYear : 0 ≤ (civil (t.seconds.fdiv 86400)).1
  lastYear : (civil (t.seconds.fdiv 86400)).1 ≤ 9999
  noLeap : t.nanos < 1000000000

instance (t : Timestamp) : Decidable t.Plain :=
  decidable_of_iff (0 ≤ (civil (t.seconds.fdiv 86400)).1 ∧
      (civil (t.seconds.fdiv 86400)).1 ≤ 9999 ∧ t.nanos < 1000000000)
    ⟨fun ⟨h₁, h₂, h₃⟩ => ⟨h₁, h₂, h₃⟩, fun ⟨h₁, h₂, h₃⟩ => ⟨h₁, h₂, h₃⟩⟩

/-! ### Parts -/

theorem padded_eq_cons {width n : Nat} (hw : 0 < width) (hn : n < 10 ^ width) :
    ∃ c cs, padded width n = c :: cs ∧ c.isDigit := by
  have hlength := length_padded hw hn
  have hdigit : ∀ c ∈ padded width n, c.isDigit := fun _ => isDigit_of_mem_padded
  cases hp : padded width n with
  | nil =>
    rw [hp, List.length_nil] at hlength
    omega
  | cons c cs =>
    rw [hp] at hdigit
    exact ⟨c, cs, rfl, hdigit c List.mem_cons_self⟩

theorem isSpace_of_isDigit {c : Char} (hc : c.isDigit) : Text.isSpace c = false := by
  have hrange : 48 ≤ c.toNat ∧ c.toNat ≤ 57 := by
    simpa [Char.isDigit, UInt32.le_iff_toNat_le] using hc
  simp only [Text.isSpace]
  grind

/-- No white space is skipped before a number. -/
theorem blanks_padded {width n : Nat} (hw : 0 < width) (hn : n < 10 ^ width) (rest : List Char) :
    blanks (padded width n ++ rest) = padded width n ++ rest := by
  obtain ⟨c, cs, hp, hc⟩ := padded_eq_cons hw hn
  rw [hp, List.cons_append, blanks, List.dropWhile_cons, isSpace_of_isDigit hc]
  rfl

/-- A year of four digits is read without a sign. -/
theorem yearStep_padded {n : Nat} (hn : n < 10 ^ 4) (rest : List Char) :
    yearStep (padded 4 n ++ rest) = some ((n : Int), rest) := by
  have hread := digits_padded (by decide) hn rest
  obtain ⟨c, cs, hp, hc⟩ := padded_eq_cons (by decide) hn
  rw [hp, List.cons_append] at hread ⊢
  unfold yearStep
  split
  · next heq =>
    obtain ⟨rfl, -⟩ := List.cons.inj heq
    cases hc
  · next heq =>
    obtain ⟨rfl, -⟩ := List.cons.inj heq
    cases hc
  · rw [hread]
    rfl

theorem fractionStep_padded {width n : Nat} (hw : 0 < width) (hle : width ≤ 9)
    (hn : n < 10 ^ width) : fractionStep ('.' :: (padded width n ++ ['Z'])) =
      some (n * 10 ^ (9 - width), ['Z']) := by
  have hlength := length_padded hw hn
  have htake : (padded width n ++ ['Z']).takeWhile Char.isDigit = padded width n := by
    rw [takeWhile_padded]
    exact List.append_nil _
  have hne : (padded width n).isEmpty = false := by
    rw [List.isEmpty_eq_false_iff_exists_mem]
    exact List.exists_mem_of_length_pos (by omega)
  have hkept : (padded width n).take 9 = padded width n := List.take_of_length_le (by omega)
  rw [fractionStep, htake, hne]
  simp only [Bool.false_eq_true, if_false, hkept, foldl_padded, hlength]
  rw [List.drop_left' hlength]

/-- The fraction is read to the nanosecond. -/
theorem fractionStep_text {nanos : Nat} (h : nanos < 1000000000) :
    fractionStep (fractionText nanos ++ ['Z']) = some (nanos, ['Z']) := by
  rw [fractionText]
  split
  · next hzero =>
    rw [hzero]
    rfl
  split
  · next hmillis =>
    rw [List.cons_append, fractionStep_padded (by decide) (by decide) (by omega)]
    congr 2
    omega
  split
  · next hmicros =>
    rw [List.cons_append, fractionStep_padded (by decide) (by decide) (by omega)]
    congr 2
    omega
  · rw [List.cons_append, fractionStep_padded (by decide) (by decide) h, Nat.sub_self, Nat.pow_zero,
      Nat.mul_one]

/-! ### The whole text -/

/-- The time of day in seconds consists of hours, minutes and seconds. -/
theorem clock_eq (seconds : Int) :
    ((seconds.fmod 86400).toNat / 3600 * 3600 + (seconds.fmod 86400).toNat / 60 % 60 * 60 +
      (seconds.fmod 86400).toNat % 60 : Nat) = seconds.fmod 86400 := by
  have hlow : 0 ≤ seconds.fmod 86400 := Int.fmod_nonneg_of_pos seconds (by decide)
  omega

theorem secondOfDay_lt (seconds : Int) : (seconds.fmod 86400).toNat < 86400 := by
  have hlt := Int.fmod_lt_of_pos seconds (b := 86400) (by decide)
  omega

/-- What is read of a plain instant. -/
def written (t : Timestamp) : Reading :=
  let date := civil (t.seconds.fdiv 86400)
  let s := (t.seconds.fmod 86400).toNat
  ⟨date.1, date.2.1, date.2.2, s / 3600, s / 60 % 60, s % 60, t.nanos, 0⟩

/-- **The parts that are read are the parts that were written.** -/
theorem readingStep_text {t : Timestamp} (h : t.Plain) :
    readingStep t.text.toList = some (t.written, []) := by
  obtain ⟨hfirst, hlast, hnanos⟩ := h
  obtain ⟨⟨-, hmonth⟩, -, hday⟩ := civil_valid (t.seconds.fdiv 86400)
  replace hday := Nat.le_trans hday (daysIn_le _ _)
  have hclock := secondOfDay_lt t.seconds
  have hleap : decide (1000000000 ≤ t.nanos) = false := by
    rw [decide_eq_false_iff_not]
    omega
  rw [text, String.toList_ofList, hleap, Nat.mod_eq_of_lt hnanos, clockText, written]
  generalize civil (t.seconds.fdiv 86400) = date at *
  obtain ⟨year, month, day⟩ := date
  dsimp only at hfirst hlast hmonth hday
  generalize (t.seconds.fmod 86400).toNat = s at *
  have hyear : yearText year = padded 4 year.toNat := by
    have hplain : (0 ≤ year && year ≤ 9999) = true := by
      simp only [Bool.and_eq_true, decide_eq_true_eq]
      exact ⟨hfirst, hlast⟩
    rw [yearText, if_pos hplain]
  have hback : (year.toNat : Int) = year := Int.toNat_of_nonneg hfirst
  have hdigits : year.toNat < 10 ^ 4 := by omega
  have htwo (n : Nat) (hn : n < 10 ^ 2) (rest : List Char) :
      digits 2 (blanks (padded 2 n ++ rest)) = some (n, rest) := by
    rw [blanks_padded (by decide) hn, digits_padded (by decide) hn]
  have hliteral (c : Char) (hc : Text.isSpace c = false) (rest : List Char) :
      literal c (blanks (c :: rest)) = some ((), rest) := by
    rw [blanks, List.dropWhile_cons, hc]
    exact if_pos rfl
  have hmonth' := htwo month (by omega)
  have hday' := htwo day (by omega)
  have hhour := htwo (s / 3600) (by omega)
  have hminute := htwo (s / 60 % 60) (by omega)
  have hsecond := htwo (s % 60) (by omega)
  have hhyphen := hliteral '-' (by decide)
  have hcolon := hliteral ':' (by decide)
  have hoffset : offsetStep (blanks ['Z']) = some (0, []) := by decide
  simp only [hyear, List.cons_append, List.append_assoc, readingStep,
    blanks_padded (by decide) hdigits, yearStep_padded hdigits, hback, hhyphen, hmonth', hday',
    hhour, hminute, hcolon, hsecond, fractionStep_text hnanos, hoffset, Option.bind_eq_bind,
    Option.bind_some, Bool.false_eq_true, if_false, Nat.add_zero]

/-- A day of the years 0 to 9999 lies within eras near that of the year 2000. -/
theorem days_bounds {days : Int} (hfirst : 0 ≤ (civil days).1) (hlast : (civil days).1 ≤ 9999) :
    -1000000 < days ∧ days < 4000000 := by
  obtain ⟨era, d, c, q, y, n, hdays, h⟩ := exists_era days
  rw [civil_eq hdays h] at hfirst hlast
  obtain ⟨hsum, hc, hq, hy, hn, hleap⟩ := h
  dsimp only at hfirst hlast
  split at hfirst <;> split at hlast <;> omega

/-- An instant of the years 0 to 9999 is in the calendar. -/
theorem inCalendar_of_plain {t : Timestamp} (h : t.Plain) : inCalendar t.seconds := by
  obtain ⟨hlow, hhigh⟩ := days_bounds h.firstYear h.lastYear
  have hfirst : dayNumber firstYear 1 1 * 86400 = -8334601228800 := by decide
  have hlast : dayNumber (Timestamp.lastYear + 1) 1 1 * 86400 = 8210266876800 := by decide
  rw [Int.fdiv_eq_ediv_of_nonneg _ (by decide)] at hlow hhigh
  rw [inCalendar, hfirst, hlast, Bool.and_eq_true, decide_eq_true_eq, decide_eq_true_eq]
  omega

/-- **An instant is read back from its text.** -/
theorem parse?_text {t : Timestamp} (h : t.Plain) : parse? t.text = some t := by
  obtain ⟨-, hfirst, hlast⟩ := civil_valid (t.seconds.fdiv 86400)
  have hdate := dayNumber_civil (t.seconds.fdiv 86400)
  have hclock := clock_eq t.seconds
  have hday := secondOfDay_lt t.seconds
  have hcalendar := inCalendar_of_plain h
  have hsum : t.seconds.fdiv 86400 * 86400 + t.seconds.fmod 86400 = t.seconds := by
    have hdivision := Int.fmod_add_mul_fdiv t.seconds 86400
    omega
  have hhour : (t.seconds.fmod 86400).toNat / 3600 < 24 := by omega
  have hminute : (t.seconds.fmod 86400).toNat / 60 % 60 < 60 := by omega
  have hsecond : (t.seconds.fmod 86400).toNat % 60 < 60 := by omega
  have hmin := Nat.min_eq_left (Nat.le_of_lt_succ hsecond)
  have hplain : ((t.seconds.fmod 86400).toNat % 60 = 60) = False := by
    rw [eq_iff_iff, iff_false]
    omega
  rw [parse?, readingStep_text h]
  simp only [written, ofReading?, hdate, hmin, hclock, hsum, Int.sub_zero, hcalendar, hfirst,
    hlast, hhour, hminute, Nat.le_of_lt hsecond, hplain, decide_true, Bool.and_true, if_true,
    if_false, List.all_nil, Nat.add_zero, Int.natAbs_zero]
  rfl

end KnowledgeBase.Timestamp
