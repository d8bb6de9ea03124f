import Mathlib.Tactic.IntervalCases
import StoreGate.Proofs.Decimal.Digits
import StoreGate.Proofs.Text.Trim
import StoreGate.Proofs.Time.Leap

/-!
# Instants read back from their texts

An instant is written to the nanosecond, in as many digits as it needs, and a leap second as the
sixtieth of its minute. So whatever instant a text names, its own text names it too.

* `Date.days_ofDays`, `Date.isValid_ofDays` — the date of a day names the day, and is valid.
* `Instant.number?_digits` — digits are read up to what is no digit, or to the width of a field.
* `Instant.date?_digits`, `Instant.time?_digits` — the parts of a written instant.
* `Instant.parse?_rfc3339_of_parse?` — an instant that is read is read back.
* `Instant.parse?_writtenText` — as rows write an instant, it is read without its fraction.
-/

namespace StoreGate

/-! ## Days and dates -/

namespace Date

variable {n year month day : Int}

/-- A day counted in years that begin in March is found again from its date. -/
theorem days_ofMarchYears (h : InMarchYears n year month day) :
    (ofMarchYears year month day).days = n := by
  have hstart : ∀ y : Int, y.fdiv 400 * 146097 + ((y - y.fdiv 400 * 400) * 365 +
      (y - y.fdiv 400 * 400) / 4 - (y - y.fdiv 400 * 400) / 100) = yearStart y := by
    intro y
    rw [Int.fdiv_eq_ediv_of_nonneg _ (by decide)]
    unfold yearStart
    omega
  have hyear := hstart year
  have hsum := h.sum
  obtain ⟨hlow, hhigh⟩ := h.months
  obtain ⟨hday, -⟩ := h.days
  unfold monthStart at hsum
  unfold ofMarchYears
  by_cases hmonth : month < 10
  · have hafter : ¬ (month + 3).toNat ≤ 2 := by omega
    rw [if_pos hmonth, days]
    dsimp only
    rw [if_neg hafter, if_neg hafter]
    omega
  · have hbefore : (month - 9).toNat ≤ 2 := by omega
    rw [if_neg hmonth, days]
    dsimp only
    rw [if_pos hbefore, if_pos hbefore, Int.add_sub_cancel]
    omega

/-- **The date of a day** names the day. -/
theorem days_ofDays (n : Int) : (ofDays n).days = n := by
  obtain ⟨year, month, day, h, hdate⟩ := ofDays_eq n
  rw [hdate, days_ofMarchYears h]

/-- The months of a year that begins in March are as long as the calendar says. -/
theorem day_le_daysInMonth (h : InMarchYears n year month day) :
    (ofMarchYears year month day).day ≤
      daysInMonth (ofMarchYears year month day).year (ofMarchYears year month day).month := by
  obtain ⟨hlow, hhigh⟩ := h.months
  obtain ⟨hday, hlast⟩ := h.days
  have hended := h.ended
  unfold monthStart at hlast hended
  by_cases hfebruary : month = 11
  · subst hfebruary
    have hleap : yearStart (year + 1) - yearStart year =
        365 + if isLeapYear (year + 1) then 1 else 0 := by
      unfold yearStart isLeapYear
      simp only [Bool.and_eq_true, Bool.or_eq_true, beq_iff_eq, bne_iff_ne]
      split <;> omega
    show (day + 1).toNat ≤ if isLeapYear (year + 1) then 29 else 28
    split at hleap
    · next hyes => rw [if_pos hyes]; omega
    · next hno => rw [if_neg hno]; omega
  · unfold ofMarchYears
    by_cases hmonth : month < 10
    · rw [if_pos hmonth]
      show (day + 1).toNat ≤ daysInMonth year (month + 3).toNat
      interval_cases month <;> simp [daysInMonth] <;> omega
    · obtain rfl : month = 10 := by omega
      show (day + 1).toNat ≤ 31
      omega

/-- **The date of a day** is on the calendar, if the day is. -/
theorem isValid_ofDays (hleast : days ⟨leastYear, 1, 1⟩ ≤ n)
    (hgreatest : n ≤ days ⟨greatestYear, 12, 31⟩) : (ofDays n).isValid = true := by
  have hfirst : ofDays (days ⟨leastYear, 1, 1⟩) = ⟨leastYear, 1, 1⟩ := by decide
  have hlast : ofDays (days ⟨greatestYear, 12, 31⟩) = ⟨greatestYear, 12, 31⟩ := by decide
  have hleastYear : leastYear ≤ (ofDays n).year := by
    by_contra hlt
    have hbefore : (ofDays n).Before (ofDays (days ⟨leastYear, 1, 1⟩)) := by
      rw [hfirst]
      exact .inl (Int.not_le.1 hlt)
    exact absurd (before_iff.1 hbefore) (Int.not_lt.2 hleast)
  have hgreatestYear : (ofDays n).year ≤ greatestYear := by
    by_contra hlt
    have hbefore : (ofDays (days ⟨greatestYear, 12, 31⟩)).Before (ofDays n) := by
      rw [hlast]
      exact .inl (Int.not_le.1 hlt)
    exact absurd (before_iff.1 hbefore) (Int.not_lt.2 hgreatest)
  obtain ⟨year, month, day, h, hdate⟩ := ofDays_eq n
  have hdays := day_le_daysInMonth h
  have hmonth : 1 ≤ (ofMarchYears year month day).month := by
    have hrange := h.months
    unfold ofMarchYears
    split
    · show 1 ≤ (month + 3).toNat
      omega
    · show 1 ≤ (month - 9).toNat
      omega
  have hday : 1 ≤ (ofMarchYears year month day).day := by
    have hrange := h.days.1
    unfold ofMarchYears
    split
    · show 1 ≤ (day + 1).toNat
      omega
    · show 1 ≤ (day + 1).toNat
      omega
  rw [hdate] at hleastYear hgreatestYear ⊢
  simp [isValid, hleastYear, hgreatestYear, hmonth, h.fields_le.1, hday, hdays]

end Date

/-! ## Padded numbers -/

namespace Decimal

theorem isDigit_of_mem_padded {width n : Nat} {c : Char} (h : c ∈ padded width n) :
    isDigit c = true := by
  rcases List.mem_append.1 h with hzero | hdigit
  · rw [List.eq_of_mem_replicate hzero]
    decide
  · exact isDigit_of_mem_natDigits hdigit

theorem padded_ne_nil (width n : Nat) : padded width n ≠ [] := fun h =>
  natDigits_ne_nil n (List.append_eq_nil_iff.1 h).2

theorem length_padded {width n : Nat} (hwidth : 0 < width) (hn : n < 10 ^ width) :
    (padded width n).length = width := by
  induction width, hwidth using Nat.le_induction generalizing n with
  | base =>
      have hone : ∀ m < 10, (padded 1 m).length = 1 := by decide
      exact hone n hn
  | succ width hwidth ih =>
      have hshort : n / 10 < 10 ^ width := Nat.div_lt_of_lt_mul (by rwa [Nat.pow_succ'] at hn)
      rw [padded_succ hwidth, List.length_append, ih hshort, List.length_singleton]

theorem ofDigits_padded (width n : Nat) : ofDigits (padded width n) = n := by
  have hzeros : ∀ k, (List.replicate k '0').foldl (fun n c => 10 * n + digitValue c) 0 = 0 := by
    intro k
    induction k with
    | zero => rfl
    | succ k ih => rw [List.replicate_succ', List.foldl_append, ih]; rfl
  rw [padded, ofDigits, List.foldl_append, hzeros]
  exact ofDigits_natDigits n

end Decimal

namespace Instant

open Decimal (padded)

/-! ## Pieces -/

/-- Digits of a bounded field are taken up to what is no digit, or to the width of the field. -/
theorem takeWhile_take_digits {width : Nat} {ds rest : List Char}
    (hds : ∀ c ∈ ds, Decimal.isDigit c = true) (hwidth : ds.length ≤ width)
    (hrest : ds.length = width ∨ ∀ c ∈ rest.head?, Decimal.isDigit c = false) :
    ((ds ++ rest).take width).takeWhile Decimal.isDigit = ds := by
  rw [List.take_append, List.take_of_length_le hwidth]
  refine (Decimal.takeWhile_dropWhile_digits hds ?_).1
  rcases hrest with hfull | hstop
  · rw [hfull, Nat.sub_self, List.take_zero]
    exact fun c hc => by cases hc
  · intro c hc
    refine hstop c ?_
    cases rest with
    | nil => rw [List.take_nil] at hc; cases hc
    | cons d rest =>
        cases hroom : width - ds.length with
        | zero => rw [hroom, List.take_zero] at hc; cases hc
        | succ room => rwa [hroom, List.take_succ_cons] at hc

/-- **Digits are a number**, up to what is no digit, or to the width of their field. -/
theorem number?_digits {width : Nat} {ds rest : List Char}
    (hds : ∀ c ∈ ds, Decimal.isDigit c = true) (hne : ds ≠ []) (hwidth : ds.length ≤ width)
    (hrest : ds.length = width ∨ ∀ c ∈ rest.head?, Decimal.isDigit c = false) :
    number? width (ds ++ rest) = some (Decimal.ofDigits ds, rest) := by
  rw [number?, takeWhile_take_digits hds hwidth hrest, if_neg (by simpa using hne), List.drop_left]

theorem field?_padded {lo hi n : Nat} (hn : n < 100) (hlow : lo ≤ n) (hhigh : n ≤ hi)
    (rest : List Char) : field? lo hi (padded 2 n ++ rest) = some (n, rest) := by
  have hlength : (padded 2 n).length = 2 := Decimal.length_padded (by decide) hn
  rw [field?, Text.trimStart_digits (fun c hc => Decimal.isDigit_of_mem_padded hc)
      (Decimal.padded_ne_nil 2 n),
    number?_digits (fun c hc => Decimal.isDigit_of_mem_padded hc) (Decimal.padded_ne_nil 2 n)
      (Nat.le_of_eq hlength) (.inl hlength), Decimal.ofDigits_padded]
  simp [hlow, hhigh]

theorem separator?_cons {c : Char} (h : Text.isBlank c = false) (rest : List Char) :
    separator? c (c :: rest) = some rest := by
  rw [separator?, Text.trimStart_of_notBlank h]
  exact if_pos rfl

/-! ## Dates -/

/-- A year is read with its sign, if it has one. -/
theorem year?_digits (year : Int) (rest : List Char) :
    year? (Date.yearDigits year ++ '-' :: rest) = some (year, '-' :: rest) := by
  have hdigits : ∀ n, ∀ c ∈ padded 4 n, Decimal.isDigit c = true := fun n c hc =>
    Decimal.isDigit_of_mem_padded hc
  have hsigned : ∀ n, number? (padded 4 n ++ '-' :: rest).length (padded 4 n ++ '-' :: rest) =
      some (n, '-' :: rest) := by
    intro n
    rw [number?_digits (hdigits n) (Decimal.padded_ne_nil 4 n)
      (by rw [List.length_append]; omega) (.inr fun c hc => by cases hc; decide),
      Decimal.ofDigits_padded]
  unfold Date.yearDigits
  by_cases hfour : 0 ≤ year ∧ year ≤ 9999
  · have hlength : (padded 4 year.toNat).length = 4 :=
      Decimal.length_padded (by decide) (by omega)
    have hnumber : number? 4 (padded 4 year.toNat ++ '-' :: rest) =
        some (year.toNat, '-' :: rest) := by
      rw [number?_digits (hdigits _) (Decimal.padded_ne_nil 4 _) (Nat.le_of_eq hlength)
        (.inl hlength), Decimal.ofDigits_padded]
    rw [if_pos hfour, year?, Text.trimStart_digits (hdigits _) (Decimal.padded_ne_nil 4 _)]
    obtain ⟨d, ds, hds⟩ := List.exists_cons_of_ne_nil (Decimal.padded_ne_nil 4 year.toNat)
    have hd : Decimal.isDigit d = true :=
      hdigits year.toNat d (by rw [hds]; exact List.mem_cons_self)
    rw [hds, List.cons_append] at hnumber ⊢
    split
    · next heq => cases heq; exact absurd hd (by decide)
    · next heq => cases heq; exact absurd hd (by decide)
    · have hyear : (year.toNat : Int) = year := by omega
      rw [hnumber]
      exact congrArg (fun y : Int => some (y, '-' :: rest)) hyear
  · rw [if_neg hfour]
    by_cases hbefore : year < 0
    · have hyear : -(year.natAbs : Int) = year := by omega
      rw [if_pos hbefore, List.cons_append, year?, Text.trimStart_of_notBlank (by decide)]
      show (number? _ _).map _ = _
      rw [hsigned]
      exact congrArg (fun y : Int => some (y, '-' :: rest)) hyear
    · have hyear : (year.natAbs : Int) = year := by omega
      rw [if_neg hbefore, List.cons_append, year?, Text.trimStart_of_notBlank (by decide)]
      show (number? _ _).map _ = _
      rw [hsigned]
      exact congrArg (fun y : Int => some (y, '-' :: rest)) hyear

/-- **A written date** is read back, if it is on the calendar. -/
theorem date?_digits {d : Date} (h : d.isValid = true) (rest : List Char) :
    date? (d.digits ++ rest) = some (d, rest) := by
  have hvalid := h
  simp only [Date.isValid, Bool.and_eq_true, decide_eq_true_eq] at h
  obtain ⟨⟨⟨⟨-, hmonth⟩, hmonth'⟩, hday⟩, hday'⟩ := h
  have hlength : Date.daysInMonth d.year d.month ≤ 31 := by
    unfold Date.daysInMonth
    split
    · split <;> omega
    · split <;> omega
  rw [Date.digits, List.append_assoc, List.cons_append, List.append_assoc, List.cons_append, date?,
    year?_digits]
  simp only [Option.bind_eq_bind, Option.bind_some]
  rw [separator?_cons (by decide)]
  simp only [Option.bind_some]
  rw [field?_padded (by omega) hmonth hmonth']
  simp only [Option.bind_some]
  rw [separator?_cons (by decide)]
  simp only [Option.bind_some]
  rw [field?_padded (by omega) hday (by omega)]
  exact if_pos hvalid

/-! ## Times -/

/-- The digits of a fraction, as nanoseconds. -/
theorem fraction?_padded {width n : Nat} (hwidth : 0 < width) (hnine : width ≤ 9)
    (hn : n < 10 ^ width) (rest : List Char)
    (hrest : ∀ c ∈ rest.head?, Decimal.isDigit c = false) :
    fraction? ('.' :: (padded width n ++ rest)) = some (n * 10 ^ (9 - width), rest) := by
  have hdigits : ∀ c ∈ padded width n, Decimal.isDigit c = true := fun c hc =>
    Decimal.isDigit_of_mem_padded hc
  have hlength := Decimal.length_padded hwidth hn
  rw [fraction?, takeWhile_take_digits hdigits (by omega) (.inr hrest),
    if_neg (by simpa using Decimal.padded_ne_nil width n), Decimal.ofDigits_padded, hlength,
    (Decimal.takeWhile_dropWhile_digits hdigits hrest).2]
  rfl

/-- **A written fraction** is the nanosecond within the second. -/
theorem fraction?_digits (i : Instant) :
    fraction? (i.fractionDigits ++ ['Z']) = some (i.nano % nanosPerSecond, ['Z']) := by
  have hlt : i.nano % nanosPerSecond < 1000000000 := Nat.mod_lt _ (by decide)
  have hend : ∀ c ∈ ['Z'].head?, Decimal.isDigit c = false := fun c hc => by cases hc; decide
  unfold fractionDigits
  dsimp only
  split
  · next hzero => rw [hzero]; rfl
  · split
    · next hmilli =>
      rw [List.cons_append, fraction?_padded (by decide) (by decide) (by omega) _ hend]
      simp
      omega
    · split
      · next hmicro =>
        rw [List.cons_append, fraction?_padded (by decide) (by decide) (by omega) _ hend]
        simp
        omega
      · rw [List.cons_append, fraction?_padded (by decide) (by decide) (by omega) _ hend]
        simp

/-- **A written time** is the second of its day and the nanosecond, a leap second included. -/
theorem time?_digits {i : Instant} (hnano : i.nano < 2 * nanosPerSecond)
    (hleap : i.LeapEndsMinute) : time? (i.clockDigits ++ (i.fractionDigits ++ ['Z'])) =
      some ((i.second % 86400).toNat, i.nano, ['Z']) := by
  obtain ⟨hhour, hminute, hsecond⟩ := i.clock_eq
  obtain ⟨hhour', hminute', hsecond'⟩ := clock_lt hnano
  unfold LeapEndsMinute at hleap
  have hpieces : i.clockDigits ++ (i.fractionDigits ++ ['Z']) =
      padded 2 i.clock.1 ++ ':' :: (padded 2 i.clock.2.1 ++
        ':' :: (padded 2 i.clock.2.2 ++ (i.fractionDigits ++ ['Z']))) := by
    simp [clockDigits]
  rw [hpieces, time?, field?_padded hhour' (Nat.zero_le _) (by omega)]
  simp only [Option.bind_eq_bind, Option.bind_some]
  rw [separator?_cons (by decide)]
  simp only [Option.bind_some]
  rw [field?_padded hminute' (Nat.zero_le _) (by omega)]
  simp only [Option.bind_some]
  rw [separator?_cons (by decide)]
  simp only [Option.bind_some]
  rw [field?_padded (by omega) (Nat.zero_le _) (by omega)]
  simp only [Option.bind_some]
  rw [fraction?_digits]
  simp only [Option.bind_some, Option.some.injEq, Prod.mk.injEq, and_true]
  unfold nanosPerSecond at *
  split <;> omega

/-! ## Instants -/

/-- The instants that texts name: seconds of the calendar, with leap seconds that end a minute. -/
structure IsNamed (i : Instant) : Prop where
  second : leastSecond ≤ i.second ∧ i.second ≤ greatestSecond
  nano : i.nano < 2 * nanosPerSecond
  leap : i.LeapEndsMinute

/-- An instant is read from its digits, with a `T` or with a blank between date and time. -/
theorem parseChars?_digits {i : Instant} (h : i.IsNamed) {between : Char}
    (hbetween : between = 'T' ∨ between = ' ') :
    parseChars? (i.date.digits ++ between :: (i.clockDigits ++ (i.fractionDigits ++ ['Z']))) =
      some i := by
  obtain ⟨hleast, hgreatest⟩ := h.second
  have hday : i.second.fdiv secondsPerDay = i.second / 86400 :=
    Int.fdiv_eq_ediv_of_nonneg _ (by decide)
  have hvalid : i.date.isValid = true := by
    unfold leastSecond secondsPerDay at hleast
    unfold greatestSecond secondsPerDay at hgreatest
    refine Date.isValid_ofDays ?_ ?_
    · rw [hday]
      omega
    · rw [hday]
      omega
  have hdays : i.date.days = i.second / 86400 := by
    rw [date, Date.days_ofDays, hday]
  have hsum : i.date.days * secondsPerDay + ((i.second % 86400).toNat : Int) - 0 = i.second := by
    rw [hdays]
    unfold secondsPerDay
    omega
  have hoffset : offset? (Text.trimStart ['Z']) = some (0, []) := by decide
  rw [parseChars?, date?_digits hvalid]
  rcases hbetween with rfl | rfl <;> simp only [Option.bind_eq_bind, Option.bind_some]
  all_goals
    rw [time?_digits h.nano h.leap]
    simp only [Option.bind_some]
    rw [hoffset]
    simp only [Option.bind_some, List.all_nil, Bool.not_true, Bool.false_eq_true, if_false]
    rw [hsum, if_pos h.second]

/-- **A written instant is read back.** -/
theorem parse?_rfc3339 {i : Instant} (h : i.IsNamed) : parse? i.rfc3339 = some i := by
  rw [parse?, rfc3339, String.toList_ofList, List.append_assoc, List.append_assoc, List.cons_append]
  exact parseChars?_digits h (.inl rfl)

/-- The instant without its fraction of a second; a leap second stays one. -/
def wholeSecond (i : Instant) : Instant := ⟨i.second, i.nano / nanosPerSecond * nanosPerSecond⟩

/-- **An instant as rows write it** is read as its whole second. -/
theorem parse?_writtenText {i : Instant} (h : i.IsNamed) :
    parse? (i.writtenText ++ "Z") = some i.wholeSecond := by
  have hnano : 0 < nanosPerSecond := by decide
  have hfraction : i.wholeSecond.fractionDigits = [] := by
    simp [fractionDigits, wholeSecond]
  have hclock : i.wholeSecond.clockDigits = i.clockDigits := by
    simp [clockDigits, clock, wholeSecond, Nat.mul_div_cancel _ hnano]
  have hnamed : i.wholeSecond.IsNamed := by
    refine ⟨h.second, Nat.lt_of_le_of_lt (Nat.div_mul_le_self _ _) h.nano, ?_⟩
    rcases h.leap with hwithin | hleap
    · exact .inl (Nat.lt_of_le_of_lt (Nat.div_mul_le_self _ _) hwithin)
    · exact .inr hleap
  have hdigits : (i.writtenText ++ "Z").toList = i.wholeSecond.date.digits ++
      ' ' :: (i.wholeSecond.clockDigits ++ (i.wholeSecond.fractionDigits ++ ['Z'])) := by
    rw [hfraction, hclock, String.toList_append, writtenText, String.toList_ofList, writtenDigits,
      List.append_assoc]
    rfl
  rw [parse?, hdigits]
  exact parseChars?_digits hnamed (.inr rfl)

/-- **An instant that is read** is one that texts name. -/
theorem isNamed_of_parse? {s : String} {i : Instant} (h : parse? s = some i) : i.IsNamed := by
  obtain ⟨hnano, hleap⟩ := leapEndsMinute_of_parse? h
  obtain ⟨-, -, -, -, -, -, -, -, -, -, hrange⟩ := parts_of_parse? h
  exact ⟨hrange, hnano, hleap⟩

/-- **An instant that a text names** is the one that its own text names. -/
theorem parse?_rfc3339_of_parse? {s : String} {i : Instant} (h : parse? s = some i) :
    parse? i.rfc3339 = some i := parse?_rfc3339 (isNamed_of_parse? h)

end Instant

end StoreGate
