import StoreGate.Proofs.Decimal.Digits
import StoreGate.Proofs.Time.Written
import StoreGate.Time.Rfc3339

/-!
# Leap seconds

A leap second is the last of its minute. That is so of every instant that is read from a text; and
then an instant of an earlier second shows an earlier second.

* `Instant.LeapEndsMinute` — the instant is in no leap second, or in one that ends a minute.
* `Instant.shownSecond_lt_of_second_lt` — earlier seconds are shown as earlier ones.
* `Instant.leapEndsMinute_of_parse?` — instants that are read.
-/

namespace StoreGate

namespace Instant

/-- The instant is in no leap second, or in one that ends a minute. -/
def LeapEndsMinute (i : Instant) : Prop := i.nano < nanosPerSecond ∨ i.second % 60 = 59

/-- **An earlier second** is shown as an earlier one. -/
theorem shownSecond_lt_of_second_lt {a b : Instant} (ha : a.nano < 2 * nanosPerSecond)
    (hleap : a.LeapEndsMinute) (h : a.second < b.second) : a.shownSecond < b.shownSecond := by
  unfold LeapEndsMinute nanosPerSecond at hleap
  unfold nanosPerSecond at ha
  unfold shownSecond nanosPerSecond
  omega

/-! ## Reading -/

theorem fraction?_lt {cs rest : List Char} {nano : Nat} (h : fraction? cs = some (nano, rest)) :
    nano < nanosPerSecond := by
  unfold fraction? at h
  split at h
  · next tail =>
    obtain ⟨digits, hdigits⟩ : ∃ ds, ds = (tail.take 9).takeWhile Decimal.isDigit := ⟨_, rfl⟩
    have hlength : digits.length ≤ 9 := by
      have htake := List.length_take_le 9 tail
      have hwhile := (List.takeWhile_sublist Decimal.isDigit (l := tail.take 9)).length_le
      rw [hdigits]
      omega
    have hlt : Decimal.ofDigits digits < 10 ^ digits.length :=
      Decimal.ofDigits_lt fun c hc => by
        rw [hdigits] at hc
        exact List.all_eq_true.1 List.all_takeWhile c hc
    rw [← hdigits] at h
    dsimp only at h
    split at h
    · cases h
    · cases h
      calc Decimal.ofDigits digits * 10 ^ (9 - digits.length)
          < 10 ^ digits.length * 10 ^ (9 - digits.length) :=
            Nat.mul_lt_mul_of_pos_right hlt (Nat.pow_pos (by decide))
        _ = 10 ^ 9 := by rw [← Nat.pow_add, Nat.add_sub_cancel' hlength]
        _ = nanosPerSecond := rfl
  · cases h
    decide

theorem leap_of_time? {cs rest : List Char} {inDay nano : Nat}
    (h : time? cs = some (inDay, nano, rest)) :
    nano < 2 * nanosPerSecond ∧ (nano < nanosPerSecond ∨ inDay % 60 = 59) := by
  unfold time? at h
  simp only [Option.bind_eq_bind, Option.bind_eq_some_iff, Prod.exists] at h
  obtain ⟨hour, _, -, _, -, minute, _, -, _, -, second, _, -, fraction, _, hfraction, h⟩ := h
  have hlt := fraction?_lt hfraction
  simp only [Option.some.injEq, Prod.mk.injEq] at h
  obtain ⟨rfl, rfl, -⟩ := h
  unfold nanosPerSecond at *
  split <;> omega

theorem sign?_cases {cs rest : List Char} {sign : Int} (h : sign? cs = some (sign, rest)) :
    sign = 1 ∨ sign = -1 := by
  unfold sign? at h
  split at h <;> cases h
  · exact .inl rfl
  · exact .inr rfl
  · exact .inr rfl

/-- An offset is one of whole minutes. -/
theorem offset?_minutes {cs rest : List Char} {offset : Int}
    (h : offset? cs = some (offset, rest)) : offset % 60 = 0 := by
  unfold offset? at h
  split at h
  · cases h
    rfl
  · cases h
    rfl
  · split at h
    · cases h
      rfl
    · split at h
      · cases h
      · next sign _ hsign =>
        split at h
        · cases h
        · split at h
          · cases h
          · split at h
            · cases h
            · cases h
              rcases sign?_cases hsign with rfl | rfl <;> omega

/-- An instant that is read has a date, a time of the day and an offset, and is on the calendar. -/
theorem parts_of_parse? {s : String} {i : Instant} (h : parse? s = some i) :
    ∃ (date : Date) (cs : List Char) (inDay nano : Nat) (rest : List Char) (offset : Int)
      (rest' : List Char), time? cs = some (inDay, nano, rest) ∧
        offset? (Text.trimStart rest) = some (offset, rest') ∧
        i = ⟨date.days * secondsPerDay + inDay - offset, nano⟩ ∧
        leastSecond ≤ i.second ∧ i.second ≤ greatestSecond := by
  unfold parse? parseChars? at h
  obtain ⟨⟨date, cs⟩, -, h⟩ := Option.bind_eq_some_iff.1 h
  dsimp only at h
  split at h
  case h_4 => cases h
  -- one case for each of the characters that may stand between date and time
  all_goals
    obtain ⟨cs, -, h⟩ := Option.bind_eq_some_iff.1 h
    obtain ⟨⟨inDay, nano, rest⟩, htime, h⟩ := Option.bind_eq_some_iff.1 h
    obtain ⟨⟨offset, rest'⟩, hoffset, h⟩ := Option.bind_eq_some_iff.1 h
    dsimp only at h
    split at h
    · cases h
    · split at h
      · next hrange =>
        obtain rfl := Option.some.inj h
        exact ⟨date, cs, inDay, nano, rest, offset, rest', htime, hoffset, rfl, hrange⟩
      · cases h

/-- **An instant that is read** is in no leap second, or in one that ends a minute. -/
theorem leapEndsMinute_of_parse? {s : String} {i : Instant} (h : parse? s = some i) :
    i.nano < 2 * nanosPerSecond ∧ i.LeapEndsMinute := by
  obtain ⟨date, cs, inDay, nano, rest, offset, rest', htime, hoffset, rfl, -⟩ := parts_of_parse? h
  obtain ⟨hnano, hleap⟩ := leap_of_time? htime
  have hminutes := offset?_minutes hoffset
  refine ⟨hnano, hleap.imp_right fun hlast => ?_⟩
  show (date.days * secondsPerDay + inDay - offset) % 60 = 59
  unfold secondsPerDay
  omega

end Instant

end StoreGate
