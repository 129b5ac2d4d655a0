import Mathlib.Order.Monotone.Basic
import PlotPage.Calendar

/-!
# Dates and day numbers

The days from the first day of the year 1 on are numbered, and dates and numbers determine each
other: a number has a date, which is in the calendar up to the end of the year 9999, and the number
of this date is the number again (`toDays_ofDays`, `isValid_ofDays`).  Of two dates the one with the
earlier year, month or day has the smaller number (`toDays_lt_toDays`).

All of this is about the ends of years and months.  A year ends where the next one begins
(`daysBeforeYear_succ`), and so does a month; everything else is arithmetic.
-/

namespace PlotPage.Date

/-! ### Years -/

def daysInYear (year : Nat) : Nat := if isLeapYear year then 366 else 365

theorem isLeapYear_iff {year : Nat} :
    isLeapYear year = true ↔ year % 4 = 0 ∧ (year % 100 ≠ 0 ∨ year % 400 = 0) := by
  simp [isLeapYear]

section

variable {q c f a : Nat} (hc : c < 4) (hf : f < 25) (ha : a < 4)
include hc hf ha

/-- The last century of a cycle and the last year of four are a day longer, and those before them
are not. -/
theorem daysBeforeYear_cycles : daysBeforeYear (400 * q + 100 * c + 4 * f + a + 1) =
    146097 * q + 36524 * c + 1461 * f + 365 * a := by
  have hfours : (400 * q + 100 * c + 4 * f + a) / 4 = 100 * q + 25 * c + f := by omega
  have hcenturies : (400 * q + 100 * c + 4 * f + a) / 100 = 4 * q + c := by omega
  have hcycles : (400 * q + 100 * c + 4 * f + a) / 400 = q := by omega
  rw [daysBeforeYear, Nat.add_sub_cancel, hfours, hcenturies, hcycles]
  omega

/-- A leap year is the last of four, and if these are the last of a century, that is the last of a
cycle. -/
theorem isLeapYear_cycles : isLeapYear (400 * q + 100 * c + 4 * f + a + 1) = true ↔
    a = 3 ∧ (f = 24 → c = 3) := by
  have hfour : (400 * q + 100 * c + 4 * f + a + 1) % 4 = 0 ↔ a = 3 := by omega
  have hcentury : (400 * q + 100 * c + 4 * f + a + 1) % 100 = 0 ↔ f = 24 ∧ a = 3 := by omega
  have hcycle : (400 * q + 100 * c + 4 * f + a + 1) % 400 = 0 ↔ c = 3 ∧ f = 24 ∧ a = 3 := by omega
  rw [isLeapYear_iff, ne_eq, hfour, hcentury, hcycle]
  omega

theorem daysInYear_cycles : daysInYear (400 * q + 100 * c + 4 * f + a + 1) =
    if a = 3 ∧ (f = 24 → c = 3) then 366 else 365 :=
  if_congr (isLeapYear_cycles hc hf ha) rfl rfl

end

/-- A year ends where the next one begins: of fours, centuries and cycles there is one more after a
year that they divide. -/
theorem daysBeforeYear_succ {year : Nat} (h : 1 ≤ year) :
    daysBeforeYear (year + 1) = daysBeforeYear year + daysInYear year := by
  obtain ⟨k, rfl⟩ : ∃ k, year = k + 1 := ⟨year - 1, by omega⟩
  have hcentury : 100 ∣ k + 1 → 4 ∣ k + 1 := Nat.dvd_trans (by decide)
  have hcycle : 400 ∣ k + 1 → 100 ∣ k + 1 := Nat.dvd_trans (by decide)
  have hle : k / 100 ≤ k / 4 := Nat.div_le_div_left (by decide) (by decide)
  simp only [daysBeforeYear, daysInYear, isLeapYear_iff, Nat.add_sub_cancel, ne_eq,
    ← Nat.dvd_iff_mod_eq_zero]
  by_cases hfour : 4 ∣ k + 1
  · rw [Nat.succ_div_of_dvd hfour]
    by_cases hhundred : 100 ∣ k + 1
    · rw [Nat.succ_div_of_dvd hhundred]
      by_cases hlast : 400 ∣ k + 1
      · rw [Nat.succ_div_of_dvd hlast, if_pos ⟨hfour, Or.inr hlast⟩]
        omega
      · rw [Nat.succ_div_of_not_dvd hlast, if_neg fun h => h.2.elim (· hhundred) hlast]
        omega
    · rw [Nat.succ_div_of_not_dvd hhundred, Nat.succ_div_of_not_dvd (mt hcycle hhundred),
        if_pos ⟨hfour, Or.inl hhundred⟩]
      omega
  · have hhundred := mt hcentury hfour
    rw [Nat.succ_div_of_not_dvd hfour, Nat.succ_div_of_not_dvd hhundred,
      Nat.succ_div_of_not_dvd (mt hcycle hhundred), if_neg fun h => hfour h.1]
    omega

theorem daysBeforeYear_le {year other : Nat} (h : year ≤ other) :
    daysBeforeYear year ≤ daysBeforeYear other := by
  refine monotone_nat_of_le_succ (fun y => ?_) h
  rcases Nat.eq_zero_or_pos y with rfl | hy
  · decide
  · rw [daysBeforeYear_succ hy]
    exact Nat.le_add_right _ _

/-- The year that a day number falls into, and the index of the day in it. -/
theorem yearOfDays_spec {n year index : Nat} (h : yearOfDays n = (year, index)) :
    1 ≤ year ∧ daysBeforeYear year + index = n ∧ index < daysInYear year := by
  obtain ⟨hyear, hindex⟩ := Prod.mk.inj h
  generalize hr : n % 146097 = r at hyear hindex
  generalize hc : min (r / 36524) 3 = c at hyear hindex
  generalize hs : r - c * 36524 = s at hyear hindex
  generalize ha : min (s % 1461 / 365) 3 = a at hyear hindex
  have hcentury : c < 4 ∧ r = c * 36524 + s ∧ s ≤ 36524 ∧ (c < 3 → s < 36524) := by omega
  have hfour : a < 4 ∧ s % 1461 = a * 365 + index ∧ index ≤ 365 ∧ (a < 3 → index < 365) := by omega
  have hf : s / 1461 < 25 := by omega
  obtain rfl : year = 400 * (n / 146097) + 100 * c + 4 * (s / 1461) + a + 1 := by omega
  rw [daysInYear_cycles hcentury.1 hf hfour.1, daysBeforeYear_cycles hcentury.1 hf hfour.1]
  refine ⟨by omega, by omega, ?_⟩
  split <;> omega

/-! ### Months -/

theorem daysBeforeMonth_succ (year : Nat) {month : Nat} (h : 1 ≤ month) :
    daysBeforeMonth year (month + 1) = daysBeforeMonth year month + daysInMonth year month := by
  obtain ⟨k, rfl⟩ : ∃ k, month = k + 1 := ⟨month - 1, by omega⟩
  rfl

theorem daysBeforeMonth_le (year : Nat) {month other : Nat} (h : month ≤ other) :
    daysBeforeMonth year month ≤ daysBeforeMonth year other := by
  refine monotone_nat_of_le_succ (fun m => ?_) h
  rcases Nat.eq_zero_or_pos m with rfl | hm
  · exact Nat.le_refl 0
  · rw [daysBeforeMonth_succ year hm]
    exact Nat.le_add_right _ _

/-- Twelve months are a year. -/
theorem daysBeforeMonth_end (year : Nat) : daysBeforeMonth year 13 = daysInYear year := by
  by_cases h : isLeapYear year = true <;> simp [daysBeforeMonth, daysInMonth, daysInYear, h]

/-- The month that an index falls into is found from the last one on. -/
theorem monthOfDay_spec {year n : Nat} {limit : Nat} (h : n < daysBeforeMonth year (limit + 1))
    {month day : Nat} (hfound : monthOfDay year n limit = (month, day)) :
    1 ≤ month ∧ month ≤ limit ∧ 1 ≤ day ∧ day ≤ daysInMonth year month ∧
      daysBeforeMonth year month + (day - 1) = n := by
  induction limit with
  | zero => exact absurd h (Nat.not_lt_zero n)
  | succ limit ih =>
    rw [monthOfDay] at hfound
    split at hfound
    · next hle =>
      obtain ⟨rfl, rfl⟩ := Prod.mk.inj hfound
      rw [daysBeforeMonth_succ year (by omega)] at h
      omega
    · next hlt =>
      have hmonth := ih (Nat.lt_of_not_le hlt) hfound
      omega

/-! ### Days -/

theorem isValid_iff {d : Date} : d.isValid = true ↔ (1 ≤ d.year ∧ d.year ≤ 9999) ∧
    (1 ≤ d.month ∧ d.month ≤ 12) ∧ 1 ≤ d.day ∧ d.day ≤ daysInMonth d.year d.month := by
  simp only [isValid, Bool.and_eq_true, decide_eq_true_eq, and_assoc]

theorem ofDays_spec (n : Nat) : 1 ≤ (ofDays n).year ∧ (1 ≤ (ofDays n).month ∧
    (ofDays n).month ≤ 12) ∧ (1 ≤ (ofDays n).day ∧
      (ofDays n).day ≤ daysInMonth (ofDays n).year (ofDays n).month) ∧ (ofDays n).toDays = n := by
  obtain ⟨year, index, hyear⟩ : ∃ year index, yearOfDays n = (year, index) := ⟨_, _, rfl⟩
  obtain ⟨month, day, hmonth⟩ : ∃ month day, monthOfDay year index 12 = (month, day) := ⟨_, _, rfl⟩
  have hdate : ofDays n = ⟨year, month, day⟩ := by
    simp only [ofDays, hyear, hmonth]
  obtain ⟨hone, hdays, hindex⟩ := yearOfDays_spec hyear
  rw [← daysBeforeMonth_end] at hindex
  obtain ⟨hfirst, hlast, hday, hlength, hsum⟩ := monthOfDay_spec hindex hmonth
  rw [hdate]
  refine ⟨hone, ⟨hfirst, hlast⟩, ⟨hday, hlength⟩, ?_⟩
  show daysBeforeYear year + daysBeforeMonth year month + (day - 1) = n
  omega

/-- **The date of a day number has this number.** -/
theorem toDays_ofDays (n : Nat) : (ofDays n).toDays = n := (ofDays_spec n).2.2.2

theorem daysBeforeYear_le_toDays (d : Date) : daysBeforeYear d.year ≤ d.toDays := by
  unfold toDays
  omega

/-- The days before a year are those with a date in an earlier year. -/
theorem year_ofDays_lt_iff {n year : Nat} :
    (ofDays n).year < year ↔ n < daysBeforeYear year := by
  obtain ⟨found, index, hfound⟩ : ∃ found index, yearOfDays n = (found, index) := ⟨_, _, rfl⟩
  have hyear : (ofDays n).year = found := by
    simp only [ofDays, hfound]
  obtain ⟨hone, hdays, hindex⟩ := yearOfDays_spec hfound
  rw [hyear]
  constructor
  · intro hlt
    have hend : daysBeforeYear (found + 1) ≤ daysBeforeYear year := daysBeforeYear_le hlt
    rw [daysBeforeYear_succ hone] at hend
    omega
  · intro hlt
    by_contra hle
    have hstart := daysBeforeYear_le (Nat.le_of_not_lt hle)
    omega

theorem isValid_ofDays {n : Nat} (h : n < daysBeforeYear 10000) : (ofDays n).isValid = true := by
  obtain ⟨hyear, hmonth, hday, -⟩ := ofDays_spec n
  exact isValid_iff.mpr ⟨⟨hyear, Nat.le_of_lt_succ (year_ofDays_lt_iff.mpr h)⟩, hmonth, hday⟩

/-- A date is earlier than another one by its year, its month or its day. -/
def Earlier (d e : Date) : Prop :=
  d.year < e.year ∨ d.year = e.year ∧ (d.month < e.month ∨ d.month = e.month ∧ d.day < e.day)

/-- A date is before the end of its month, and so before the end of its year. -/
theorem toDays_lt {d : Date} (h : d.isValid = true) :
    d.toDays < daysBeforeYear d.year + daysBeforeMonth d.year (d.month + 1) ∧
      d.toDays < daysBeforeYear (d.year + 1) := by
  obtain ⟨⟨hyear, -⟩, ⟨hmonth, hlast⟩, hday, hlength⟩ := isValid_iff.mp h
  have hend : daysBeforeMonth d.year (d.month + 1) ≤ daysInYear d.year := by
    rw [← daysBeforeMonth_end]
    exact daysBeforeMonth_le d.year (Nat.succ_le_succ hlast)
  rw [daysBeforeYear_succ hyear]
  have hmonths := daysBeforeMonth_succ d.year hmonth
  unfold toDays
  omega

/-- **An earlier date has a smaller number.** -/
theorem toDays_lt_toDays {d e : Date} (hd : d.isValid = true) (h : d.Earlier e) :
    d.toDays < e.toDays := by
  obtain ⟨hmonth, hyear⟩ := toDays_lt hd
  have hday := (isValid_iff.mp hd).2.2
  rcases h with hlt | ⟨hsame, hlt | ⟨hsame', hlt⟩⟩
  · have hstart : daysBeforeYear (d.year + 1) ≤ daysBeforeYear e.year := daysBeforeYear_le hlt
    have hdays := daysBeforeYear_le_toDays e
    omega
  · rw [hsame] at hmonth
    have hstart : daysBeforeMonth e.year (d.month + 1) ≤ daysBeforeMonth e.year e.month :=
      daysBeforeMonth_le e.year hlt
    have hdays : daysBeforeYear e.year + daysBeforeMonth e.year e.month ≤ e.toDays :=
      Nat.le_add_right _ _
    omega
  · unfold toDays
    rw [hsame, hsame']
    omega

end PlotPage.Date
