import StoreGate.Txn.Registry

/-!
# What the changes of the registry do to one lease

A begin, a mark and a sweep each change the whole registry. What each does to the lease of one
transaction is told here, next to what a begin makes of a lease that was there before.

* `Registry.trackedLease_some_fresh`, `Registry.trackedLease_some_reused` — a begin renews the
  state and the expiry of a lease that it finds, or nothing of it.
* `Registry.get?_dropSpent`, `Registry.mem_expired_iff` — the two halves of a sweep.
-/

namespace StoreGate

namespace TxnState

theorem isTerminal_iff (s : TxnState) : s.isTerminal = true ↔ s = committed ∨ s = aborted := by
  cases s <;> simp [isTerminal]

end TxnState

namespace Lease

theorem isSpent_iff (l : Lease) (now : Instant) :
    l.isSpent now = true ↔ l.state.isTerminal = true ∧ l.expiresAt ≤ now := by
  simp [isSpent, isPast]

theorem isExpired_iff (l : Lease) (now : Instant) :
    l.isExpired now = true ↔ l.state = .begun ∧ l.expiresAt ≤ now := by
  simp [isExpired, isPast]

theorem isSpent_of_begun {l : Lease} (h : l.state = .begun) (now : Instant) :
    l.isSpent now = false := by
  rw [isSpent, h]
  rfl

end Lease

namespace Registry

variable {o : BeginOutcome} {database table : String} {now : Instant} {timeoutSecs : Nat}
  {grace : Span}

/-! ## Begins -/

@[simp] theorem trackedLease_none :
    trackedLease none o database table now timeoutSecs grace =
      freshLease o database table now timeoutSecs grace := by
  unfold trackedLease
  split <;> rfl

theorem trackedLease_some_fresh (k : Lease) (h : o.reused = false) :
    trackedLease (some k) o database table now timeoutSecs grace =
      { k with state := .begun, expiresAt := Lease.expiry now timeoutSecs grace } := by
  simp [trackedLease, h]

theorem trackedLease_some_reused (k : Lease) (h : o.reused = true) :
    trackedLease (some k) o database table now timeoutSecs grace = k := by
  simp [trackedLease, h]

/-- A begin that is new to the engine leaves an open lease with the expiry that it asks for,
whatever it finds. -/
theorem trackedLease_fresh (known : Option Lease) (h : o.reused = false) :
    (trackedLease known o database table now timeoutSecs grace).state = .begun ∧
      (trackedLease known o database table now timeoutSecs grace).expiresAt =
        Lease.expiry now timeoutSecs grace := by
  cases known with
  | none => rw [trackedLease_none]; exact ⟨rfl, rfl⟩
  | some k => rw [trackedLease_some_fresh k h]; exact ⟨rfl, rfl⟩

theorem trackedLease_txnId {known : Option Lease} (h : ∀ k, known = some k → k.txnId = o.txnId) :
    (trackedLease known o database table now timeoutSecs grace).txnId = o.txnId := by
  cases known with
  | none => rw [trackedLease_none]; rfl
  | some k =>
      have hk : k.txnId = o.txnId := h k rfl
      by_cases hr : o.reused = true
      · rw [trackedLease_some_reused k hr, hk]
      · rw [trackedLease_some_fresh k (by simpa using hr)]
        exact hk

/-- A lease that a begin leaves is open, or it was there already in the state that it has. -/
theorem trackedLease_state (known : Option Lease) :
    (trackedLease known o database table now timeoutSecs grace).state = .begun ∨
      known = some (trackedLease known o database table now timeoutSecs grace) := by
  cases known with
  | none => exact Or.inl (by rw [trackedLease_none]; rfl)
  | some k =>
      by_cases hr : o.reused = true
      · exact Or.inr (by rw [trackedLease_some_reused k hr])
      · exact Or.inl (by rw [trackedLease_some_fresh k (by simpa using hr)])

/-! ## Sweeps -/

theorem get?_dropSpent (r : Registry) (now : Instant) (n : Int) :
    (r.dropSpent now).get? n = (r.get? n).filter fun l => !l.isSpent now :=
  SortedMap.get?_filter _ r n

theorem mem_expired_iff (r : Registry) (now : Instant) (l : Lease) :
    l ∈ r.expired now ↔ (∃ n, r.get? n = some l) ∧ l.isExpired now = true := by
  rw [expired, List.mem_filter, SortedMap.mem_values_iff]

/-- What a sweep drops it does not abort. -/
theorem expired_dropSpent (r : Registry) (now : Instant) :
    (r.dropSpent now).expired now = r.expired now := by
  rw [expired, dropSpent, SortedMap.values_filter, List.filter_filter, expired]
  refine List.filter_congr fun l _ => ?_
  cases hl : l.isExpired now with
  | false => rfl
  | true => rw [Lease.isSpent_of_begun ((Lease.isExpired_iff l now).1 hl).1]; rfl

/-- A sweep keeps an open lease. -/
theorem get?_dropSpent_of_begun {r : Registry} {n : Int} {l : Lease} (hl : r.get? n = some l)
    (hopen : l.state = .begun) (now : Instant) : (r.dropSpent now).get? n = some l := by
  rw [get?_dropSpent, hl, Option.filter, Lease.isSpent_of_begun hopen]
  rfl

end Registry

end StoreGate
