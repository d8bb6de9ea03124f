import StoreGate.Txn.Lease

/-!
# When a lease expires

A lease expires when the timeout and the grace period are over, counted from its begin to the
nanosecond. The sum is made in three steps, and each of them has a limit of its own: the longest
span, the longest span that can be added to an instant, and the end of the calendar. The first two
limits are longer than the whole calendar, so that a sum at which any step fails is past its end.

* `Instant.IsOrdinary`, `Instant.le_iff_nanos` — instants in order are their nanoseconds in order.
* `Span.plus?_eq_some_iff`, `Span.signed?_eq_some_iff`, `Instant.plus?_eq_some_iff` — each step is
  exact, and fails exactly past its limit.
* `Lease.expirySum?_eq_some_iff` — the three steps together fail exactly past the calendar's end.
* `Lease.expiry_saturates` — the expiry is the exact sum, or the last instant of the calendar.
-/

namespace StoreGate

/-! ## Instants as nanoseconds -/

namespace Instant

/-- The instant is on the calendar, and in no leap second. -/
structure IsOrdinary (i : Instant) : Prop where
  second : leastSecond ≤ i.second ∧ i.second ≤ greatestSecond
  nano : i.nano < nanosPerSecond

theorem le_iff_nanos {a b : Instant} (ha : a.nano < nanosPerSecond)
    (hb : b.nano < nanosPerSecond) : a ≤ b ↔ a.nanos ≤ b.nanos := by
  unfold nanosPerSecond at ha hb
  rw [le_iff, nanos, nanos, nanosPerSecond]
  omega

theorem second_ofNanos (n : Int) : (ofNanos n).second = n / 1000000000 :=
  Int.fdiv_eq_ediv_of_nonneg n (by decide)

theorem nano_ofNanos (n : Int) : ((ofNanos n).nano : Int) = n % 1000000000 := by
  have hsecond : n.fdiv (nanosPerSecond : Int) = n / 1000000000 := second_ofNanos n
  show ((n - n.fdiv nanosPerSecond * nanosPerSecond).toNat : Int) = n % 1000000000
  rw [hsecond, nanosPerSecond]
  omega

theorem nano_ofNanos_lt (n : Int) : (ofNanos n).nano < nanosPerSecond := by
  have hnano := nano_ofNanos n
  unfold nanosPerSecond
  omega

/-- **The instant of a number of nanoseconds** is that many nanoseconds after the start. -/
theorem nanos_ofNanos (n : Int) : (ofNanos n).nanos = n := by
  rw [nanos, second_ofNanos, nano_ofNanos, nanosPerSecond]
  omega

theorem nanos_latest : latest.nanos = greatestSecond * 1000000000 + 999999999 := rfl

theorem isOrdinary_latest : latest.IsOrdinary := ⟨by decide, by decide⟩

/-- The nanoseconds of the calendar. -/
theorem IsOrdinary.nanos_bounds {i : Instant} (h : i.IsOrdinary) :
    leastSecond * 1000000000 ≤ i.nanos ∧ i.nanos ≤ latest.nanos := by
  obtain ⟨⟨hleast, hgreatest⟩, hnano⟩ := h
  unfold nanosPerSecond at hnano
  rw [nanos_latest, nanos, nanosPerSecond]
  omega

theorem isOrdinary_ofNanos {n : Int} (hleast : leastSecond * 1000000000 ≤ n)
    (hlatest : n ≤ latest.nanos) : (ofNanos n).IsOrdinary := by
  refine ⟨?_, nano_ofNanos_lt n⟩
  rw [nanos_latest] at hlatest
  rw [second_ofNanos]
  omega

/-- **A sum is past the calendar** exactly if its second is. -/
theorem greatestSecond_lt_ofNanos_iff (n : Int) :
    greatestSecond < (ofNanos n).second ↔ latest.nanos < n := by
  rw [second_ofNanos, nanos_latest]
  omega

/-- An instant is added to exactly, or not at all if the sum is past the calendar. -/
theorem plus?_eq_some_iff {i j : Instant} {n : Nat} :
    i.plus? n = some j ↔ i.nanos + n ≤ latest.nanos ∧ j = ofNanos (i.nanos + n) := by
  unfold plus?
  dsimp only
  rw [Option.ite_none_left_eq_some, greatestSecond_lt_ofNanos_iff, Int.not_lt, Option.some.injEq]
  exact and_congr_right fun _ => eq_comm

end Instant

/-! ## Spans -/

namespace Span

/-- Two spans are added exactly, or not at all if their sum is longer than the longest. -/
theorem plus?_eq_some_iff {a b c : Span} : plus? a b = some c ↔ a + b ≤ longest ∧ c = a + b := by
  rw [plus?, Option.ite_none_right_eq_some, Option.some.injEq]
  exact and_congr_right fun _ => eq_comm

/-- A span is kept as it is, or not at all if it is too long to be added to an instant. -/
theorem signed?_eq_some_iff {a b : Span} : signed? a = some b ↔ a ≤ longestSigned ∧ b = a := by
  rw [signed?, Option.ite_none_right_eq_some, Option.some.injEq]
  exact and_congr_right fun _ => eq_comm

theorem longestSigned_le_longest : longestSigned ≤ longest := by decide

/-- The longest span that can be added to an instant reaches from any instant past the calendar. -/
theorem latest_lt_longestSigned :
    Instant.latest.nanos < Instant.leastSecond * 1000000000 + longestSigned := by decide

end Span

/-! ## Leases -/

namespace Lease

variable {now : Instant} {timeoutSecs : Nat} {grace : Span}

/-- The begin, the timeout and the grace period added up step by step, as far as each step can. -/
def expirySum? (now : Instant) (timeoutSecs : Nat) (grace : Span) : Option Instant :=
  ((Span.plus? (Span.ofSeconds timeoutSecs) grace).bind Span.signed?).bind now.plus?

theorem expiry_eq : expiry now timeoutSecs grace =
    (expirySum? now timeoutSecs grace).getD Instant.latest := rfl

/-- The nanoseconds from a begin to the end of the grace period. -/
def lifetime (timeoutSecs : Nat) (grace : Span) : Nat :=
  timeoutSecs * Instant.nanosPerSecond + grace

/-- **The three steps together** are exact, and fail exactly if the sum is past the calendar: what
ends on the calendar is short enough for the first two. -/
theorem expirySum?_eq_some_iff (hnow : now.IsOrdinary) {i : Instant} :
    expirySum? now timeoutSecs grace = some i ↔
      now.nanos + lifetime timeoutSecs grace ≤ Instant.latest.nanos ∧
        i = Instant.ofNanos (now.nanos + lifetime timeoutSecs grace) := by
  have hspan : Span.ofSeconds timeoutSecs + grace = lifetime timeoutSecs grace := rfl
  unfold expirySum?
  simp only [Option.bind_eq_some_iff, Span.plus?_eq_some_iff, Span.signed?_eq_some_iff,
    Instant.plus?_eq_some_iff, hspan]
  constructor
  · rintro ⟨_, ⟨_, ⟨-, rfl⟩, -, rfl⟩, hfits, rfl⟩
    exact ⟨hfits, rfl⟩
  · rintro ⟨hfits, rfl⟩
    have hshort : lifetime timeoutSecs grace ≤ Span.longestSigned := by
      have hreach := Span.latest_lt_longestSigned
      have hleast := hnow.nanos_bounds.1
      omega
    exact ⟨_, ⟨_, ⟨Nat.le_trans hshort Span.longestSigned_le_longest, rfl⟩, hshort, rfl⟩,
      hfits, rfl⟩

/-- The nanoseconds of an expiry, and that it is an instant like any other. -/
theorem nanos_expiry (hnow : now.IsOrdinary) (timeoutSecs : Nat) (grace : Span) :
    (expiry now timeoutSecs grace).nanos =
        min (now.nanos + lifetime timeoutSecs grace) Instant.latest.nanos ∧
      (expiry now timeoutSecs grace).IsOrdinary := by
  rw [expiry_eq]
  cases hsum : expirySum? now timeoutSecs grace with
  | some i =>
      obtain ⟨hfits, rfl⟩ := (expirySum?_eq_some_iff hnow).1 hsum
      have hleast : Instant.leastSecond * 1000000000 ≤
          now.nanos + lifetime timeoutSecs grace := by
        have hbegin := hnow.nanos_bounds.1
        omega
      rw [Option.getD_some, Instant.nanos_ofNanos, Int.min_eq_left hfits]
      exact ⟨rfl, Instant.isOrdinary_ofNanos hleast hfits⟩
  | none =>
      -- the sum is past the calendar: else there would be one
      have hpast : ¬ now.nanos + lifetime timeoutSecs grace ≤ Instant.latest.nanos := by
        intro hfits
        have hsome := (expirySum?_eq_some_iff hnow).2 ⟨hfits, rfl⟩
        rw [hsum] at hsome
        cases hsome
      rw [Option.getD_none, Int.min_eq_right (Int.le_of_not_le hpast)]
      exact ⟨rfl, Instant.isOrdinary_latest⟩

/-- **A lease expires at the exact sum** of its begin, the timeout and the grace period, to the
nanosecond, or at the last instant of the calendar if the sum is past it, however long the timeout
and the grace period are. So it never expires before it begins; and a lease that begins later, or
is given more time, does not expire earlier. -/
theorem expiry_saturates (hnow : now.IsOrdinary) (timeoutSecs : Nat) (grace : Span) :
    (expiry now timeoutSecs grace).nanos =
        min (now.nanos + (timeoutSecs * Instant.nanosPerSecond + grace : Nat))
          Instant.latest.nanos ∧
      (expiry now timeoutSecs grace).IsOrdinary ∧
      now ≤ expiry now timeoutSecs grace ∧
      ∀ (later : Instant) (longerTimeout : Nat) (longerGrace : Span), later.IsOrdinary →
        now ≤ later → timeoutSecs ≤ longerTimeout → grace ≤ longerGrace →
          expiry now timeoutSecs grace ≤ expiry later longerTimeout longerGrace := by
  obtain ⟨hsum, hordinary⟩ := nanos_expiry hnow timeoutSecs grace
  refine ⟨hsum, hordinary, ?_, ?_⟩
  · rw [Instant.le_iff_nanos hnow.nano hordinary.nano, hsum]
    have hlatest := hnow.nanos_bounds.2
    omega
  · intro later longerTimeout longerGrace hlater hnowLater htimeout hgrace
    obtain ⟨hsum', hordinary'⟩ := nanos_expiry hlater longerTimeout longerGrace
    have hbegin := (Instant.le_iff_nanos hnow.nano hlater.nano).1 hnowLater
    have hlifetime : lifetime timeoutSecs grace ≤ lifetime longerTimeout longerGrace :=
      Nat.add_le_add (Nat.mul_le_mul_right _ htimeout) hgrace
    rw [Instant.le_iff_nanos hordinary.nano hordinary'.nano, hsum, hsum']
    omega

/-- Ninety seconds and a nanosecond before the end of the calendar. -/
def lastSeconds : Instant := ⟨Instant.greatestSecond - 90, 999999998⟩

/-- A lease that lasts until the end of the calendar, to the nanosecond, and the longest lease of
all, which begins only there. -/
theorem expiry_saturates_of_lastSeconds :
    lastSeconds.IsOrdinary ∧ Instant.latest.IsOrdinary ∧ lastSeconds ≤ Instant.latest ∧
      (expiry lastSeconds 60 30000000001).nanos = lastSeconds.nanos + 90000000001 ∧
      (expiry lastSeconds 60 30000000001).nanos = Instant.latest.nanos ∧
      expiry lastSeconds 60 30000000001 ≤
        expiry Instant.latest (UInt64.size - 1) Span.longest := by
  have hordinary : lastSeconds.IsOrdinary := ⟨by decide, by decide⟩
  have hlatest : lastSeconds ≤ Instant.latest := by decide
  obtain ⟨hsum, -, -, hlater⟩ := expiry_saturates hordinary 60 30000000001
  exact ⟨hordinary, Instant.isOrdinary_latest, hlatest, hsum.trans (by decide),
    hsum.trans (by decide),
    hlater _ _ _ Instant.isOrdinary_latest hlatest (by decide) (by decide)⟩

-- a minute and a half later, and at the end of the calendar without a limit to the grace period
example : expiry ⟨1714521600, 0⟩ 60 (Span.ofSeconds 30) = ⟨1714521690, 0⟩ ∧
    expiry ⟨1714521600, 0⟩ 60 Span.longest = Instant.latest := by decide

end Lease

end StoreGate
