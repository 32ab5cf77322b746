import Mathlib.Tactic.IntervalCases
import WorkerMemory.Time.Date

/-! # Days have dates and dates have days

A date is found by cutting an era of 400 years into centuries, groups of four years, years and days.
The last century, group and year of each may be longer than the others.
-/

namespace WorkerMemory.Date

/-! ## The years of an era -/

/-- The century, the group of four years, the year and the day that `d` falls into. -/
structure EraDay (d c q y r : Int) : Prop where
  eq : d = 36524 * c + 1461 * q + 365 * y + r
  century : 0 ≤ c ∧ c ≤ 3
  group : 0 ≤ q ∧ q ≤ 24
  year : 0 ≤ y ∧ y ≤ 3
  day : 0 ≤ r ∧ r ≤ 365
  leapDay : r = 365 → y = 3 ∧ (q = 24 → c = 3)

theorem exists_eraDay {d : Int} (first : 0 ≤ d) (last : d < 146097) :
    ∃ c q y r, EraDay d c q y r := by
  obtain ⟨c, hc⟩ : ∃ c, c = min (d / 36524) 3 := ⟨_, rfl⟩
  obtain ⟨q, hq⟩ : ∃ q, q = (d - 36524 * c) / 1461 := ⟨_, rfl⟩
  obtain ⟨y, hy⟩ : ∃ y, y = min ((d - 36524 * c - 1461 * q) / 365) 3 := ⟨_, rfl⟩
  refine ⟨c, q, y, d - 36524 * c - 1461 * q - 365 * y, ?_, ?_, ?_, ?_, ?_, ?_⟩ <;> omega

variable {d c q y r : Int}

theorem EraDay.yearOfEra (h : EraDay d c q y r) :
    (d - d / 1460 + d / 36524 - d / 146096) / 365 = 100 * c + 4 * q + y := by
  obtain ⟨heq, hc, hq, hy, hr, hleap⟩ := h
  have hcentury : d / 36524 - d / 146096 = c := by
    by_cases hr' : r = 365
    · -- The leap day at the very end of an era belongs to its last century.
      obtain ⟨hy3, hc3⟩ := hleap hr'
      by_cases hq' : q = 24
      · have hc3 := hc3 hq'
        omega
      · have hd : d / 36524 = c := by omega
        omega
    · have hd : d / 36524 = c := by omega
      omega
  have hgroup : d / 1460 = 25 * c + q ∧ 24 * c + q + 365 * y + r < 1460 ∨
      d / 1460 = 25 * c + q + 1 ∧ y = 3 ∧ 1460 ≤ 24 * c + q + 365 * y + r := by
    omega
  omega

theorem EraDay.daysBefore (h : EraDay d c q y r) :
    365 * (100 * c + 4 * q + y) + (100 * c + 4 * q + y) / 4 - (100 * c + 4 * q + y) / 100 =
      d - r := by
  obtain ⟨heq, hc, hq, hy, hr, hleap⟩ := h
  have hgroups : (100 * c + 4 * q + y) / 4 = 25 * c + q := by omega
  have hcenturies : (100 * c + 4 * q + y) / 100 = c := by omega
  omega

theorem EraDay.isLeapYear (h : EraDay d c q y r) (leap : r = 365) (era : Int) :
    isLeapYear (100 * c + 4 * q + y + era * 400 + 1) = true := by
  obtain ⟨heq, hc, hq, hy, hr, hleap⟩ := h
  obtain ⟨hy3, hc3⟩ := hleap leap
  simp only [Date.isLeapYear, Bool.and_eq_true, Bool.or_eq_true, beq_iff_eq, bne_iff_ne]
  constructor <;> omega

/-! ## The months of a year -/

/-- The date a number of days after 1 March of a year. -/
def ofMarch (year day : Int) : Date :=
  let shiftedMonth := (5 * day + 2) / 153
  let month := if shiftedMonth < 10 then shiftedMonth + 3 else shiftedMonth - 9
  { year := if month ≤ 2 then year + 1 else year
    month := month.toNat
    day := (day - (153 * shiftedMonth + 2) / 5 + 1).toNat }

variable {year day : Int}

theorem isValid_ofMarch (first : 0 ≤ day) (last : day ≤ 365)
    (leap : day = 365 → isLeapYear (year + 1) = true) : (ofMarch year day).isValid = true := by
  obtain ⟨m, hm⟩ : ∃ m, m = (5 * day + 2) / 153 := ⟨_, rfl⟩
  have hm0 : 0 ≤ m := by omega
  have hm11 : m ≤ 11 := by omega
  unfold ofMarch isValid
  rw [← hm]
  by_cases february : m = 11
  · subst february
    have hday : isLeapYear (year + 1) = true ∨ day ≠ 365 := by
      by_cases h : day = 365
      · exact .inl (leap h)
      · exact .inr h
    simp only [daysInMonth]
    rcases hday with hleap | hday
    · simp [hleap]
      omega
    · simp
      split <;> omega
  · interval_cases m <;> simp [daysInMonth] <;> omega

theorem toDays_ofMarch (first : 0 ≤ day) (last : day ≤ 365) :
    (ofMarch year day).toDays = year / 400 * 146097 +
      (year % 400 * 365 + year % 400 / 4 - year % 400 / 100 + day) - epochOffset := by
  obtain ⟨m, hm⟩ : ∃ m, m = (5 * day + 2) / 153 := ⟨_, rfl⟩
  have hm0 : 0 ≤ m := by omega
  have hm11 : m ≤ 11 := by omega
  unfold ofMarch toDays
  rw [← hm]
  interval_cases m <;> simp <;> omega

/-! ## Any day -/

theorem exists_ofDays_eq (days : Int) : ∃ c q y r,
    EraDay ((days + epochOffset) % 146097) c q y r ∧
      ofDays days = ofMarch (100 * c + 4 * q + y + (days + epochOffset) / 146097 * 400) r := by
  obtain ⟨c, q, y, r, h⟩ := exists_eraDay (d := (days + epochOffset) % 146097) (by omega) (by omega)
  refine ⟨c, q, y, r, h, ?_⟩
  have hday : (days + epochOffset) % 146097 - (365 * (100 * c + 4 * q + y) +
      (100 * c + 4 * q + y) / 4 - (100 * c + 4 * q + y) / 100) = r := by
    rw [h.daysBefore]
    omega
  unfold ofDays ofMarch
  simp only [h.yearOfEra, hday]

theorem isValid_ofDays (days : Int) : (ofDays days).isValid = true := by
  obtain ⟨c, q, y, r, h, heq⟩ := exists_ofDays_eq days
  rw [heq]
  exact isValid_ofMarch h.day.1 h.day.2 fun leap => h.isLeapYear leap _

theorem toDays_ofDays (days : Int) : (ofDays days).toDays = days := by
  obtain ⟨c, q, y, r, h, heq⟩ := exists_ofDays_eq days
  have hdays := h.daysBefore
  obtain ⟨-, hc, hq, hy, hr, -⟩ := h
  have hyear : (100 * c + 4 * q + y + (days + epochOffset) / 146097 * 400) % 400 =
      100 * c + 4 * q + y := by omega
  have hera : (100 * c + 4 * q + y + (days + epochOffset) / 146097 * 400) / 400 =
      (days + epochOffset) / 146097 := by omega
  rw [heq, toDays_ofMarch hr.1 hr.2, hyear, hera]
  omega

theorem year_ofDays {days : Int} (first : -96465292 ≤ days) (last : days ≤ 95026236) :
    -262143 ≤ (ofDays days).year ∧ (ofDays days).year ≤ 262142 := by
  obtain ⟨c, q, y, r, h, heq⟩ := exists_ofDays_eq days
  obtain ⟨hd, hc, hq, hy, hr, hleap⟩ := h
  rw [heq]
  unfold ofMarch
  unfold epochOffset at *
  simp only
  constructor <;> split <;> omega

end WorkerMemory.Date
