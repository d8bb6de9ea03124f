import StoreGate.Time.Civil

/-!
# The order of calendar dates

Later days have later dates. A day is found in years that begin in March, where the leap day is the
last of its year, so that the days before a year and the days before a month of it are plain sums.

* `Date.yearOfEra_spec` — the year within four hundred years that a day belongs to.
* `Date.InMarchYears`, `Date.ofDays_eq` — where a day lies by the sums, and that its date says so.
* `Date.Before`, `Date.before_iff` — dates compare as the days that they name.
-/

namespace StoreGate

namespace Date

/-! ## Years that begin in March -/

/-- The days before a year that begins in March, counted from the March of the year 0. -/
def yearStart (year : Int) : Int := 365 * year + year / 4 - year / 100 + year / 400

/-- The days before a month of a year that begins in March; months are counted from 0. -/
def monthStart (month : Int) : Int := (153 * month + 2) / 5

theorem yearStart_mono {a b : Int} (h : a ≤ b) : yearStart a ≤ yearStart b := by
  unfold yearStart
  omega

theorem monthStart_mono {a b : Int} (h : a ≤ b) : monthStart a ≤ monthStart b := by
  unfold monthStart
  omega

/-- Eras of four hundred years have equally many days. -/
theorem yearStart_add_era (year era : Int) :
    yearStart (year + era * 400) = yearStart year + era * 146097 := by
  unfold yearStart
  omega

/-- The start of a year of an era, told from its century, the leap cycle and the year within it. -/
theorem yearStart_of_cycle (century cycle k : Int) (hcentury : 0 ≤ century ∧ century ≤ 3)
    (hcycle : 0 ≤ cycle ∧ cycle ≤ 24) (hk : 0 ≤ k ∧ k ≤ 3) :
    yearStart (100 * century + 4 * cycle + k) = 36524 * century + 1461 * cycle + 365 * k := by
  unfold yearStart
  omega

/-- A day of a cycle comes before the year after its own: the next of the cycle, or the first of
the next cycle, century or era. -/
theorem lt_yearStart_next_of_cycle {century cycle k day : Int}
    (hcentury : 0 ≤ century ∧ century ≤ 3) (hcycle : 0 ≤ cycle ∧ cycle ≤ 24) (hk : 0 ≤ k ∧ k ≤ 3)
    (hday : day < 1461) (hin : 1461 * cycle + day < 36524) (hyear : k < 3 → day < 365 * (k + 1)) :
    36524 * century + 1461 * cycle + day < yearStart (100 * century + 4 * cycle + k + 1) := by
  by_cases hthird : k < 3
  · have hnext := yearStart_of_cycle century cycle (k + 1) hcentury hcycle (by omega)
    rw [← Int.add_assoc] at hnext
    have := hyear hthird
    omega
  obtain rfl : k = 3 := by omega
  by_cases hlast : cycle < 24
  · have hnext := yearStart_of_cycle century (cycle + 1) 0 hcentury (by omega) (by omega)
    rw [show 100 * century + 4 * (cycle + 1) + 0 = 100 * century + 4 * cycle + 3 + 1 by omega]
      at hnext
    omega
  obtain rfl : cycle = 24 := by omega
  by_cases hturn : century < 3
  · have hnext := yearStart_of_cycle (century + 1) 0 0 (by omega) (by omega) (by omega)
    rw [show 100 * (century + 1) + 4 * 0 + 0 = 100 * century + 4 * 24 + 3 + 1 by omega] at hnext
    omega
  obtain rfl : century = 3 := by omega
  have hnext : yearStart 400 = 146097 := by decide
  show 36524 * 3 + 1461 * 24 + day < yearStart 400
  omega

/-- The year within an era, from the day within the era. -/
def yearOfEra (day : Int) : Int := (day - day / 1460 + day / 36524 - day / 146096) / 365

/-- The year of a day of an era, told from its century, the leap cycle and the day within it. -/
theorem yearOfEra_of_cycle {century cycle day : Int} (hcentury : 0 ≤ century ∧ century ≤ 3)
    (hcycle : 0 ≤ cycle) (hday : 0 ≤ day ∧ day < 1461) (hin : 1461 * cycle + day < 36524) :
    ∃ k, yearOfEra (36524 * century + 1461 * cycle + day) = 100 * century + 4 * cycle + k ∧
      (0 ≤ k ∧ k ≤ 3) ∧ 365 * k ≤ day ∧ (k < 3 → day < 365 * (k + 1)) := by
  obtain ⟨d, hd⟩ : ∃ d, d = 36524 * century + 1461 * cycle + day := ⟨_, rfl⟩
  have h100 : d / 36524 = century := by omega
  have h400 : d / 146096 = 0 := by omega
  -- leap days are counted a little early, but only within the last year of a cycle
  have h4 : d / 1460 = 25 * century + cycle + (24 * century + cycle + day) / 1460 := by omega
  rw [← hd, yearOfEra, h100, h400, h4]
  exact ⟨(day - (24 * century + cycle + day) / 1460) / 365, by omega, by omega, by omega, by omega⟩

/-- **The year within an era** is the one that the day lies in. -/
theorem yearOfEra_spec {day : Int} (hday : 0 ≤ day ∧ day < 146097) :
    (0 ≤ yearOfEra day ∧ yearOfEra day < 400) ∧ yearStart (yearOfEra day) ≤ day ∧
      day < yearStart (yearOfEra day + 1) := by
  by_cases hlast : day = 146096
  · subst hlast
    decide
  · obtain ⟨century, cycle, rest, rfl, hcentury, hcycle, hrest, hin⟩ :
        ∃ century cycle rest, day = 36524 * century + 1461 * cycle + rest ∧
          (0 ≤ century ∧ century ≤ 3) ∧ (0 ≤ cycle ∧ cycle ≤ 24) ∧ (0 ≤ rest ∧ rest < 1461) ∧
          1461 * cycle + rest < 36524 :=
      ⟨day / 36524, day % 36524 / 1461, day % 36524 % 1461, by omega, by omega, by omega,
        by omega, by omega⟩
    obtain ⟨k, hyear, hk, hlow, hhigh⟩ := yearOfEra_of_cycle hcentury hcycle.1 hrest hin
    rw [hyear]
    refine ⟨by omega, ?_, lt_yearStart_next_of_cycle hcentury hcycle hk hrest.2 hin hhigh⟩
    rw [yearStart_of_cycle _ _ _ hcentury hcycle hk]
    omega

/-! ## Days in years that begin in March -/

/-- A day lies in a year that begins in March, and in a month of it; days and months are counted
from 0. -/
structure InMarchYears (n year month day : Int) : Prop where
  sum : n + 719468 = yearStart year + monthStart month + day
  months : 0 ≤ month ∧ month < 12
  days : 0 ≤ day ∧ monthStart month + day < monthStart (month + 1)
  ended : yearStart year + monthStart month + day < yearStart (year + 1)

/-- The date whose year, month and day are counted in years that begin in March. -/
def ofMarchYears (year month day : Int) : Date :=
  if month < 10 then ⟨year, (month + 3).toNat, (day + 1).toNat⟩
  else ⟨year + 1, (month - 9).toNat, (day + 1).toNat⟩

/-- **Every day** lies in one of the years, and that is how its date is found. -/
theorem ofDays_eq (n : Int) :
    ∃ year month day, InMarchYears n year month day ∧ ofDays n = ofMarchYears year month day := by
  obtain ⟨era, hera⟩ : ∃ era, era = (n + 719468).fdiv 146097 := ⟨_, rfl⟩
  obtain ⟨dayOfEra, hdayOfEra⟩ : ∃ d, d = n + 719468 - era * 146097 := ⟨_, rfl⟩
  obtain ⟨year, hyear⟩ : ∃ y, y = yearOfEra dayOfEra := ⟨_, rfl⟩
  obtain ⟨dayOfYear, hdayOfYear⟩ : ∃ d, d = dayOfEra - (365 * year + year / 4 - year / 100) :=
    ⟨_, rfl⟩
  obtain ⟨month, hmonth⟩ : ∃ m, m = (5 * dayOfYear + 2) / 153 := ⟨_, rfl⟩
  have hdate : ofDays n =
      ofMarchYears (year + era * 400) month (dayOfYear - monthStart month) := by
    subst hmonth hdayOfYear hyear hdayOfEra hera
    rfl
  have hin : 0 ≤ dayOfEra ∧ dayOfEra < 146097 := by
    rw [Int.fdiv_eq_ediv_of_nonneg _ (by decide)] at hera
    omega
  obtain ⟨hyears, hlow, hhigh⟩ := yearOfEra_spec hin
  rw [← hyear] at hyears hlow hhigh
  have hstart : yearStart year = dayOfEra - dayOfYear := by
    unfold yearStart
    omega
  have hlength : dayOfYear < 366 := by
    unfold yearStart at hhigh
    omega
  refine ⟨_, _, _, ⟨?_, ?_, ?_, ?_⟩, hdate⟩
  · rw [yearStart_add_era]
    omega
  · omega
  · unfold monthStart
    omega
  · rw [yearStart_add_era, show year + era * 400 + 1 = year + 1 + era * 400 by omega,
      yearStart_add_era]
    omega

namespace InMarchYears

variable {m n year month day year' month' day' : Int}

/-- A later day has a later year, month or day. -/
theorem lt_of_lt (h : InMarchYears m year month day) (h' : InMarchYears n year' month' day')
    (hlt : m < n) :
    year < year' ∨ year = year' ∧ (month < month' ∨ month = month' ∧ day < day') := by
  have hsum := h.sum
  have hsum' := h'.sum
  rcases Int.lt_trichotomy year year' with hyear | rfl | hyear
  · exact .inl hyear
  · refine .inr ⟨rfl, ?_⟩
    rcases Int.lt_trichotomy month month' with hmonth | rfl | hmonth
    · exact .inl hmonth
    · exact .inr ⟨rfl, by omega⟩
    · have hstart := monthStart_mono (a := month' + 1) (b := month) (by omega)
      have hends := h'.days.2
      have hday := h.days.1
      omega
  · have hstart := yearStart_mono (a := year' + 1) (b := year) (by omega)
    have hfirst := monthStart_mono h.months.1
    have hzero : monthStart 0 = 0 := by decide
    have hends := h'.ended
    have hday := h.days.1
    omega

/-- The numbers of a date are those of a month and of a day of a month. -/
theorem fields_le (h : InMarchYears n year month day) :
    (ofMarchYears year month day).month ≤ 12 ∧ (ofMarchYears year month day).day ≤ 31 := by
  obtain ⟨hlow, hhigh⟩ := h.months
  have hdays := h.days.2
  unfold monthStart at hdays
  unfold ofMarchYears
  split
  · exact ⟨by show (month + 3).toNat ≤ 12; omega, by show (day + 1).toNat ≤ 31; omega⟩
  · exact ⟨by show (month - 9).toNat ≤ 12; omega, by show (day + 1).toNat ≤ 31; omega⟩

end InMarchYears

/-! ## Order -/

/-- Dates by year, then by month, then by day. -/
def Before (a b : Date) : Prop :=
  a.year < b.year ∨ a.year = b.year ∧ (a.month < b.month ∨ a.month = b.month ∧ a.day < b.day)

theorem Before.irrefl (a : Date) : ¬ a.Before a := by
  unfold Before
  omega

theorem Before.asymm {a b : Date} (h : a.Before b) : ¬ b.Before a := by
  unfold Before at *
  omega

/-- **A later day has a later date.** -/
theorem before_of_lt {m n : Int} (h : m < n) : (ofDays m).Before (ofDays n) := by
  obtain ⟨year, month, day, hm, hdate⟩ := ofDays_eq m
  obtain ⟨year', month', day', hn, hdate'⟩ := ofDays_eq n
  have hlt := hm.lt_of_lt hn h
  obtain ⟨hmonth, hmonth'⟩ := And.intro hm.months hn.months
  have hday := hm.days.1
  rw [hdate, hdate']
  unfold ofMarchYears
  -- January and February are the last months of their year, but the first of their date's
  split <;> split <;> simp only [Before] <;> omega

/-- **Dates compare as the days that they name.** -/
theorem before_iff {m n : Int} : (ofDays m).Before (ofDays n) ↔ m < n := by
  refine ⟨fun h => ?_, before_of_lt⟩
  rcases Int.lt_trichotomy m n with hlt | rfl | hgt
  · exact hlt
  · exact absurd h (Before.irrefl _)
  · exact absurd h (before_of_lt hgt).asymm

theorem ofDays_inj {m n : Int} : ofDays m = ofDays n ↔ m = n := by
  refine ⟨fun h => ?_, congrArg ofDays⟩
  rcases Int.lt_trichotomy m n with hlt | heq | hgt
  · exact absurd (h ▸ before_of_lt hlt) (Before.irrefl _)
  · exact heq
  · exact absurd (h ▸ before_of_lt hgt) (Before.irrefl _)

theorem month_ofDays_le (n : Int) : (ofDays n).month ≤ 12 := by
  obtain ⟨year, month, day, h, hdate⟩ := ofDays_eq n
  rw [hdate]
  exact h.fields_le.1

theorem day_ofDays_le (n : Int) : (ofDays n).day ≤ 31 := by
  obtain ⟨year, month, day, h, hdate⟩ := ofDays_eq n
  rw [hdate]
  exact h.fields_le.2

end Date

end StoreGate
