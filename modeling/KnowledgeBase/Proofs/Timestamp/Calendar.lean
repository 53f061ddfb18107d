import KnowledgeBase.Timestamp

/-!
# The calendar

Four hundred years, an era, have 146097 days.  They are four centuries of 36524 days and a leap day,
a century is twenty-five times four years of 1461 days but for its last leap day, and a leap day
always ends its year, which begins in March.  From these parts the date of a day is read off, and
the date has the number of the day.

## Main definitions

* `Timestamp.EraDay` — a day of an era by century, group of four years, year, and day of the year.

## Main results

* `Timestamp.EraDay.yearOfEra`, `Timestamp.EraDay.dayOfEra` — the year of a day in an era, and the
  day of the era again.
* `Timestamp.dayNumber_civil` — the date of a day has the number of that day.
* `Timestamp.civil_valid` — it is a date of the calendar.
-/

namespace KnowledgeBase.Timestamp

/-! ### Eras -/

/-- Day `day` of the year `year` among four, which are the group `group` of the century `century` of
an era.  A day 365 is a leap day. -/
structure EraDay (day century group year dayOfYear : Nat) : Prop where
  sum : day = 36524 * century + 1461 * group + 365 * year + dayOfYear
  century_lt : century < 4
  group_lt : group < 25
  year_lt : year < 4
  day_le : dayOfYear ≤ 365
  leap : dayOfYear = 365 → year = 3 ∧ (group < 24 ∨ century = 3)

theorem exists_eraDay {day : Nat} (h : day < 146097) :
    ∃ century group year dayOfYear, EraDay day century group year dayOfYear := by
  obtain ⟨c, hc⟩ : ∃ c, c = min (day / 36524) 3 := ⟨_, rfl⟩
  obtain ⟨q, hq⟩ : ∃ q, q = (day - 36524 * c) / 1461 := ⟨_, rfl⟩
  obtain ⟨s, hs⟩ : ∃ s, s = (day - 36524 * c) % 1461 := ⟨_, rfl⟩
  obtain ⟨y, hy⟩ : ∃ y, y = min (s / 365) 3 := ⟨_, rfl⟩
  have hcentury : 36524 * c ≤ day ∧ (day - 36524 * c < 36524 ∨
      c = 3 ∧ day - 36524 * c ≤ 36524) := by omega
  have hgroup : day - 36524 * c = 1461 * q + s ∧ s ≤ 1460 := by omega
  have hyear : 365 * y ≤ s ∧ (s - 365 * y < 365 ∨ y = 3 ∧ s - 365 * y ≤ 365) := by omega
  refine ⟨c, q, y, s - 365 * y, ?_⟩
  constructor <;> omega

/-- The last day of an era is counted as a century more. -/
theorem century_eq {d c r : Nat} (hd : d = 36524 * c + r) (hc : c < 4)
    (hr : r < 36524 ∨ c = 3 ∧ r = 36524) : d / 36524 = c + d / 146096 := by
  rcases hr with hlt | ⟨rfl, rfl⟩
  · have hcentury : d / 36524 = c := by omega
    have hlast : d / 146096 = 0 := by omega
    omega
  · rw [hd]

namespace EraDay

variable {d c q y n : Nat}

/-- The correction terms make years of a constant length. -/
theorem yearOfEra (h : EraDay d c q y n) :
    (d - d / 1460 + d / 36524 - d / 146096) / 365 = 100 * c + 4 * q + y := by
  obtain ⟨hsum, hc, hq, hy, hn, hleap⟩ := h
  have hrest : 1461 * q + 365 * y + n < 36524 ∨ c = 3 ∧ 1461 * q + 365 * y + n = 36524 := by
    omega
  have hcentury := century_eq (d := d) (by omega) hc hrest
  -- groups of four years seem a day shorter than they are, which tells near their end only
  obtain ⟨e, he⟩ : ∃ e, e = (24 * c + q + 365 * y + n) / 1460 := ⟨_, rfl⟩
  have hfours : d / 1460 = 25 * c + q + e := by omega
  have hlow : e ≤ n := by omega
  have hhigh : n - e < 365 := by omega
  have hdays : d - d / 1460 + d / 36524 - d / 146096 = n - e + 365 * (100 * c + 4 * q + y) := by
    rw [hcentury, hfours]
    clear hrest hfours he hcentury
    omega
  rw [hdays, Nat.add_mul_div_left _ _ (by decide), Nat.div_eq_of_lt hhigh, Nat.zero_add]

/-- The day of the year is counted from the start of the year. -/
theorem dayOfEra (h : EraDay d c q y n) :
    365 * (100 * c + 4 * q + y) + (100 * c + 4 * q + y) / 4 - (100 * c + 4 * q + y) / 100 + n =
      d := by
  obtain ⟨hsum, hc, hq, hy, -, -⟩ := h
  have hfours : (100 * c + 4 * q + y) / 4 = 25 * c + q := by omega
  have hhundreds : (100 * c + 4 * q + y) / 100 = c := by omega
  omega

/-- A year that has a leap day at its end leads up to a leap year. -/
theorem isLeap (h : EraDay d c q y n) (hn : n = 365) (era : Int) :
    isLeap ((100 * c + 4 * q + y : Nat) + era * 400 + 1) := by
  obtain ⟨-, hc, hq, -, -, hleap⟩ := h
  obtain ⟨hy, hlast⟩ := hleap hn
  simp only [Timestamp.isLeap, Bool.and_eq_true, Bool.or_eq_true, beq_iff_eq, bne_iff_ne]
  omega

end EraDay

/-! ### Months -/

/-- The month, counted from March, of a day of the year that begins in March. -/
def monthFromMarch (dayOfYear : Nat) : Nat := (5 * dayOfYear + 2) / 153

/-- The months from March on begin on these days of the year. -/
theorem monthStart_le {n : Nat} (hn : n ≤ 365) :
    monthFromMarch n < 12 ∧ (153 * monthFromMarch n + 2) / 5 ≤ n := by
  rw [monthFromMarch]
  omega

/-- The number of a month, counted from January. -/
def monthOf (m : Nat) : Nat := if m < 10 then m + 3 else m - 9

theorem monthOf_eq {m : Nat} (hm : m < 12) :
    1 ≤ monthOf m ∧ monthOf m ≤ 12 ∧ (monthOf m + 9) % 12 = m := by
  rw [monthOf]
  split <;> omega

/-- No month is longer than in the calendar, and only the leap day makes February long. -/
theorem dayOfMonth_le {n : Nat} (hn : n ≤ 365) {year : Int} (hleap : n = 365 → isLeap year) :
    n - (153 * monthFromMarch n + 2) / 5 + 1 ≤ daysIn year (monthOf (monthFromMarch n)) := by
  have hcommon : ∀ n < 365, n - (153 * monthFromMarch n + 2) / 5 + 1 ≤
      daysIn 1 (monthOf (monthFromMarch n)) := by decide +kernel
  have hlonger (month : Nat) : daysIn 1 month ≤ daysIn year month := by
    have hone : isLeap 1 = false := by decide
    rw [daysIn, daysIn, hone]
    split
    · cases isLeap year <;> decide
    · exact Nat.le_refl _
  rcases Nat.lt_or_eq_of_le hn with hlt | rfl
  · exact Nat.le_trans (hcommon n hlt) (hlonger _)
  · change 29 ≤ daysIn year 2
    rw [daysIn, hleap rfl]
    exact Nat.le_refl _

/-! ### Dates -/

/-- A day number consists of its era and the day of the era. -/
theorem exists_era (days : Int) :
    ∃ era : Int, ∃ d c q y n : Nat, days + 719468 = era * 146097 + d ∧ EraDay d c q y n := by
  have hday : ((days + 719468) % 146097).toNat < 146097 := by omega
  obtain ⟨c, q, y, n, h⟩ := exists_eraDay hday
  refine ⟨(days + 719468) / 146097, _, c, q, y, n, ?_, h⟩
  omega

/-- The date of a day of an era. -/
theorem civil_eq {days era : Int} {d c q y n : Nat} (hdays : days + 719468 = era * 146097 + d)
    (h : EraDay d c q y n) : civil days =
      (if monthOf (monthFromMarch n) ≤ 2 then (100 * c + 4 * q + y : Nat) + era * 400 + 1
        else (100 * c + 4 * q + y : Nat) + era * 400,
      monthOf (monthFromMarch n), n - (153 * monthFromMarch n + 2) / 5 + 1) := by
  have hlt : d < 146097 := by
    obtain ⟨hsum, hc, hq, hy, hn, hleap⟩ := h
    omega
  have hera : (days + 719468).fdiv 146097 = era := by
    rw [Int.fdiv_eq_ediv_of_nonneg _ (by decide)]
    omega
  have hday : (days + 719468 - era * 146097).toNat = d := by omega
  have hyear : d - (365 * (100 * c + 4 * q + y) + (100 * c + 4 * q + y) / 4 -
      (100 * c + 4 * q + y) / 100) = n := by
    have hsum := h.dayOfEra
    omega
  rw [civil]
  simp only [hera, hday, h.yearOfEra, hyear]
  rfl

/-- **The date of a day has the number of that day.** -/
theorem dayNumber_civil (days : Int) :
    dayNumber (civil days).1 (civil days).2.1 (civil days).2.2 = days := by
  obtain ⟨era, d, c, q, y, n, hdays, h⟩ := exists_era days
  obtain ⟨hmonth, hstart⟩ := monthStart_le h.day_le
  obtain ⟨-, -, hback⟩ := monthOf_eq hmonth
  have hsum := h.dayOfEra
  have hyear : 100 * c + 4 * q + y < 400 := by
    have hc := h.century_lt
    have hq := h.group_lt
    have hy := h.year_lt
    omega
  rw [civil_eq hdays h]
  generalize 100 * c + 4 * q + y = year at *
  have hmarch : (if monthOf (monthFromMarch n) ≤ 2 then
      (if monthOf (monthFromMarch n) ≤ 2 then (year : Int) + era * 400 + 1
        else year + era * 400) - 1
      else if monthOf (monthFromMarch n) ≤ 2 then (year : Int) + era * 400 + 1
        else year + era * 400) = year + era * 400 := by
    split <;> omega
  have hera : ((year : Int) + era * 400).fdiv 400 = era := by
    rw [Int.fdiv_eq_ediv_of_nonneg _ (by decide)]
    omega
  rw [dayNumber]
  simp only [hmarch, hera, hback]
  omega

/-- **The date of a day is in the calendar.** -/
theorem civil_valid (days : Int) :
    (1 ≤ (civil days).2.1 ∧ (civil days).2.1 ≤ 12) ∧ 1 ≤ (civil days).2.2 ∧
      (civil days).2.2 ≤ daysIn (civil days).1 (civil days).2.1 := by
  obtain ⟨era, d, c, q, y, n, hdays, h⟩ := exists_era days
  obtain ⟨hfirst, hlast, -⟩ := monthOf_eq (monthStart_le h.day_le).1
  rw [civil_eq hdays h]
  refine ⟨⟨hfirst, hlast⟩, Nat.le_add_left 1 _, dayOfMonth_le h.day_le fun hn => ?_⟩
  -- the leap day is in February
  have hleap := h.isLeap hn era
  subst hn
  exact hleap

theorem daysIn_le (year : Int) (month : Nat) : daysIn year month ≤ 31 := by
  rw [daysIn]
  split
  · split <;> decide
  · split
    · decide
    · split <;> decide

end KnowledgeBase.Timestamp
