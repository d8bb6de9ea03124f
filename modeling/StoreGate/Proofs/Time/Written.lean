import StoreGate.Proofs.Decimal.Padded
import StoreGate.Proofs.Time.Calendar
import StoreGate.Time.Instant

/-!
# The order of written instants

Instants are written to the second. As texts they compare as the seconds that they show, where a
leap second has a place of its own; so a later instant is never written as an earlier text.

* `Date.digits_append_lt_iff`, `Instant.clockDigits_lt_iff` — the parts of a written instant.
* `Instant.shownSecond` — the second that is shown, on a scale with room for leap seconds.
* `Instant.writtenText_lt_iff` — written instants compare as the seconds that they show.
* `Instant.writtenText_le_of_le` — and so they keep the order of time.
-/

namespace StoreGate

/-! ## Parts -/

/-- **Dates of years with four digits** compare as texts as they do in time. -/
theorem Date.digits_append_lt_iff {a b : Date} (ha : 0 ≤ a.year ∧ a.year ≤ 9999)
    (hb : 0 ≤ b.year ∧ b.year ≤ 9999) (hmonth : a.month < 100 ∧ b.month < 100)
    (hday : a.day < 100 ∧ b.day < 100) (xs ys : List Char) :
    a.digits ++ xs < b.digits ++ ys ↔ a.Before b ∨ a = b ∧ xs < ys := by
  have hyear : a.year.toNat < 10 ^ 4 ∧ b.year.toNat < 10 ^ 4 := by omega
  have hlt : a.year.toNat < b.year.toNat ↔ a.year < b.year := by omega
  have heq : a.year.toNat = b.year.toNat ↔ a.year = b.year := by omega
  have hsame : a = b ↔ a.year = b.year ∧ a.month = b.month ∧ a.day = b.day := by
    cases a
    cases b
    simp
  unfold digits yearDigits
  rw [if_pos ha, if_pos hb]
  simp only [List.append_assoc, List.cons_append]
  rw [Decimal.padded_cons_lt_iff (by decide) hyear.1 hyear.2,
    Decimal.padded_cons_lt_iff (by decide) hmonth.1 hmonth.2,
    Decimal.padded_append_lt_iff (by decide) hday.1 hday.2, hlt, heq, hsame, Before]
  simp only [and_or_left, or_assoc, and_assoc]

namespace Instant

/-- What a clock shows, told from the minute and the second within it. -/
theorem clock_eq (i : Instant) :
    (i.clock.1 : Int) = i.second / 60 % 1440 / 60 ∧ (i.clock.2.1 : Int) = i.second / 60 % 60 ∧
      (i.clock.2.2 : Int) = i.second % 60 + (i.nano / nanosPerSecond : Nat) := by
  unfold clock secondsPerDay
  rw [Int.fdiv_eq_ediv_of_nonneg _ (by decide)]
  dsimp only
  omega

/-- A leap second is the last that a clock shows. -/
theorem clock_lt {i : Instant} (h : i.nano < 2 * nanosPerSecond) :
    i.clock.1 < 100 ∧ i.clock.2.1 < 100 ∧ i.clock.2.2 < 61 := by
  obtain ⟨hhour, hminute, hsecond⟩ := i.clock_eq
  unfold nanosPerSecond at h hsecond
  omega

theorem clockDigits_lt_iff {a b : Instant} (ha : a.nano < 2 * nanosPerSecond)
    (hb : b.nano < 2 * nanosPerSecond) :
    a.clockDigits < b.clockDigits ↔
      a.clock.1 < b.clock.1 ∨ a.clock.1 = b.clock.1 ∧ (a.clock.2.1 < b.clock.2.1 ∨
        a.clock.2.1 = b.clock.2.1 ∧ a.clock.2.2 < b.clock.2.2) := by
  obtain ⟨hhour, hminute, hsecond⟩ := clock_lt ha
  obtain ⟨hhour', hminute', hsecond'⟩ := clock_lt hb
  show Decimal.padded 2 a.clock.1 ++ ':' :: (Decimal.padded 2 a.clock.2.1 ++
      ':' :: Decimal.padded 2 a.clock.2.2) <
    Decimal.padded 2 b.clock.1 ++ ':' :: (Decimal.padded 2 b.clock.2.1 ++
      ':' :: Decimal.padded 2 b.clock.2.2) ↔ _
  rw [Decimal.padded_cons_lt_iff (by decide) hhour hhour',
    Decimal.padded_cons_lt_iff (by decide) hminute hminute',
    Decimal.padded_lt_iff (by decide) (Nat.lt_trans hsecond (by decide))
      (Nat.lt_trans hsecond' (by decide))]

/-! ## Whole instants -/

/-- The second that a written instant shows. Every minute has 61 places, so that a leap second has
one of its own. -/
def shownSecond (i : Instant) : Int :=
  61 * (i.second / 60) + i.second % 60 + (i.nano / nanosPerSecond : Nat)

/-- The instant is written with a year of four digits, and its nanoseconds are at most those of a
leap second. -/
structure IsWritable (i : Instant) : Prop where
  year : 0 ≤ i.date.year ∧ i.date.year ≤ 9999
  nano : i.nano < 2 * nanosPerSecond

/-- The second that is shown, from the day, the hour and the minute. -/
theorem shownSecond_lt_iff {a b : Instant} (ha : a.nano < 2 * nanosPerSecond)
    (hb : b.nano < 2 * nanosPerSecond) :
    a.shownSecond < b.shownSecond ↔
      a.second.fdiv secondsPerDay < b.second.fdiv secondsPerDay ∨
        a.second.fdiv secondsPerDay = b.second.fdiv secondsPerDay ∧
          a.clockDigits < b.clockDigits := by
  obtain ⟨hhour, hminute, hsecond⟩ := a.clock_eq
  obtain ⟨hhour', hminute', hsecond'⟩ := b.clock_eq
  obtain ⟨-, -, hshown⟩ := clock_lt ha
  obtain ⟨-, -, hshown'⟩ := clock_lt hb
  rw [clockDigits_lt_iff ha hb, shownSecond, shownSecond, Int.add_assoc, ← hsecond, Int.add_assoc,
    ← hsecond', Int.fdiv_eq_ediv_of_nonneg _ (by decide), Int.fdiv_eq_ediv_of_nonneg _ (by decide),
    secondsPerDay]
  omega

/-- **Written instants compare as the seconds that they show.** -/
theorem writtenText_lt_iff {a b : Instant} (ha : a.IsWritable) (hb : b.IsWritable) :
    a.writtenText < b.writtenText ↔ a.shownSecond < b.shownSecond := by
  have hmonth : a.date.month < 100 ∧ b.date.month < 100 :=
    ⟨Nat.lt_of_le_of_lt (Date.month_ofDays_le _) (by decide),
      Nat.lt_of_le_of_lt (Date.month_ofDays_le _) (by decide)⟩
  have hday : a.date.day < 100 ∧ b.date.day < 100 :=
    ⟨Nat.lt_of_le_of_lt (Date.day_ofDays_le _) (by decide),
      Nat.lt_of_le_of_lt (Date.day_ofDays_le _) (by decide)⟩
  rw [String.lt_iff_toList_lt, writtenText, writtenText, String.toList_ofList,
    String.toList_ofList, writtenDigits, writtenDigits,
    Date.digits_append_lt_iff ha.year hb.year hmonth hday, List.cons_lt_cons_iff, date, date,
    Date.before_iff, Date.ofDays_inj, shownSecond_lt_iff ha.nano hb.nano]
  simp

theorem writtenText_le_iff {a b : Instant} (ha : a.IsWritable) (hb : b.IsWritable) :
    a.writtenText ≤ b.writtenText ↔ a.shownSecond ≤ b.shownSecond := by
  rw [← not_lt, ← not_lt, writtenText_lt_iff hb ha]

/-! ## Time -/

/-- A later instant shows no earlier second. -/
theorem shownSecond_le_of_le {a b : Instant} (ha : a.nano < 2 * nanosPerSecond) (h : a ≤ b) :
    a.shownSecond ≤ b.shownSecond := by
  unfold nanosPerSecond at ha
  unfold shownSecond nanosPerSecond
  rcases (le_iff a b).1 h with hsecond | ⟨hsecond, hnano⟩ <;> omega

/-- **A later instant is never written as an earlier text.** -/
theorem writtenText_le_of_le {a b : Instant} (ha : a.IsWritable) (hb : b.IsWritable) (h : a ≤ b) :
    a.writtenText ≤ b.writtenText :=
  (writtenText_le_iff ha hb).2 (shownSecond_le_of_le ha.nano h)

end Instant

end StoreGate
