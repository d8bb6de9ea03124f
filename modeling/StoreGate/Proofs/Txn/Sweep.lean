import StoreGate.Proofs.Txn.Provenance

/-!
# What a sweep does

A sweep has two tests of time. What is final and past its expiry is dropped; what is open and past
its expiry is aborted, if the engine takes it. No lease meets both tests, so that the two halves of
a sweep do not get into each other's way, and an abort that fails concerns no lease but its own.

* `Coordinator.against_sweepIn` — a sweep on its own on a network.
* `AbortCall.leaves` — what a sweep leaves of a lease.
* `sweep_exact` — what one sweep does, and what two of them leave.
-/

namespace StoreGate

/-! ## Networks -/

namespace Coordinator

/-- **A sweep on its own on a network**: one abort call for each expired lease in turn. -/
theorem against_sweepIn (c : Coordinator) (arrange : List Lease → List Lease) (now : Instant)
    (s : Session) (network : Nat → Outcome) :
    ∃ (calls : List AbortCall) (s' : Session),
      ((c.sweepIn arrange now).run s).against network =
        ((calls.countP fun a => a.result.toBool, s'), calls.flatMap (AbortCall.requests c)) ∧
      (∀ a ∈ calls, a.IsGenuine c) ∧
      (∃ count, calls.flatMap AbortCall.replies = Exchange.first network count) ∧
      calls.map AbortCall.lease = arrange (s.leases.expired now) ∧
      s'.leases = calls.foldl AbortCall.change (s.leases.dropSpent now) := by
  obtain ⟨count, hreplay, hsent⟩ :=
    Exchange.exists_replay ((c.sweepIn arrange now).run s) network
  obtain ⟨calls, hmap, hgenuine, hreplies, hleases, hk, hrequests⟩ := replay_sweepIn hreplay
  refine ⟨calls, _, Prod.ext (Prod.ext hk rfl) (hsent.symm.trans hrequests), hgenuine,
    ⟨count, hreplies.symm⟩, ?_, hleases⟩
  rw [hmap]
  exact congrArg arrange (Registry.expired_dropSpent s.leases now)

end Coordinator

/-! ## One lease -/

namespace AbortCall

/-- What a sweep leaves of a lease: nothing, if it is final and past its expiry; an aborted one, if
its abort call has succeeded; itself otherwise. -/
def leaves (calls : List AbortCall) (now : Instant) (l : Lease) : Option Lease :=
  if l.state.isTerminal = true ∧ l.expiresAt ≤ now then none
  else if ∃ a ∈ calls, a.lease = l ∧ a.result = .ok () then some { l with state := .aborted }
  else some l

variable {calls : List AbortCall} {now : Instant} {l k : Lease}

theorem expiresAt_of_leaves (h : leaves calls now l = some k) : k.expiresAt = l.expiresAt := by
  unfold leaves at h
  split at h
  · cases h
  · split at h <;> cases h <;> rfl

/-- The aborts of a sweep act on each lease on its own, if every lease stands under its number. -/
theorem get?_foldl_change_dropSpent {r : Registry} (hr : ∀ n l, r.get? n = some l → l.txnId = n)
    (hcalls : ∀ a ∈ calls, ∃ m, r.get? m = some a.lease) (n : Int) :
    (calls.foldl change (r.dropSpent now)).get? n = (r.get? n).bind (leaves calls now) := by
  rw [get?_foldl_change, Registry.get?_dropSpent]
  cases hl : r.get? n with
  | none => simp
  | some l =>
      have hmarked : (∃ a ∈ calls, a.lease.txnId = n ∧ a.result = .ok ()) ↔
          ∃ a ∈ calls, a.lease = l ∧ a.result = .ok () := by
        refine exists_congr fun a => and_congr_right fun ha => and_congr_left fun _ => ?_
        obtain ⟨m, hm⟩ := hcalls a ha
        constructor
        · intro hn
          rw [hr m a.lease hm] at hn
          rw [hn] at hm
          exact Option.some.inj (hm.symm.trans hl)
        · rintro hlease
          rw [hlease]
          exact hr n l hl
      simp only [hmarked, Option.bind_some, leaves, ← Lease.isSpent_iff]
      cases hspent : l.isSpent now <;> simp [Option.filter, hspent]

end AbortCall

/-! ## Sweeps -/

/-- After a sweep whose aborts all succeed, what is past its expiry is final. -/
theorem AbortCall.isTerminal_of_leaves {calls : List AbortCall} {now : Instant} {l k : Lease}
    (hstate : l.state = .begun ∨ l.state.isTerminal = true)
    (hcalls : l.isExpired now = true → ∃ a ∈ calls, a.lease = l ∧ a.result = .ok ())
    (h : leaves calls now l = some k) (hpast : k.expiresAt ≤ now) : k.state.isTerminal = true := by
  have hexpires : l.expiresAt ≤ now := expiresAt_of_leaves h ▸ hpast
  unfold leaves at h
  split at h
  · cases h
  · next hspent =>
    rcases hstate with hopen | hfinal
    · rw [if_pos (hcalls ((Lease.isExpired_iff l now).2 ⟨hopen, hexpires⟩))] at h
      cases h
      rfl
    · exact absurd ⟨hfinal, hexpires⟩ hspent

/-- A sweep leaves no lease that was final and past its expiry before. -/
theorem Coordinator.get?_sweepIn {c : Coordinator} {arrange : List Lease → List Lease}
    {now : Instant} {s : Session} {network : Nat → Outcome} {n : Int} {k : Lease}
    (h : (((c.sweepIn arrange now).run s).against network).1.2.leases.get? n = some k) :
    ∃ l, s.leases.get? n = some l ∧ l.expiresAt = k.expiresAt ∧ l.isSpent now = false := by
  obtain ⟨calls, s', hagainst, -, -, -, hleases⟩ := c.against_sweepIn arrange now s network
  rw [hagainst] at h
  dsimp only at h
  rw [hleases, AbortCall.get?_foldl_change] at h
  have hkeep : ∀ {l}, (s.leases.dropSpent now).get? n = some l →
      s.leases.get? n = some l ∧ l.isSpent now = false := by
    intro l hl
    rw [Registry.get?_dropSpent] at hl
    obtain ⟨hl, hspent⟩ := Option.filter_eq_some_iff.1 hl
    exact ⟨hl, by simpa using hspent⟩
  split at h
  · obtain ⟨l, hl, rfl⟩ := Option.map_eq_some_iff.1 h
    exact ⟨l, (hkeep hl).1, rfl, (hkeep hl).2⟩
  · exact ⟨k, (hkeep h).1, rfl, (hkeep h).2⟩

/-- **A sweep does exactly its job, and two of them converge.** On every registry that operations
lead to, at every time, on every network and in whatever order, a sweep that runs on its own makes
one abort call for each lease that is open past its expiry, with the lease's own database and
number, and sends nothing else. Afterwards the leases that were final and past their expiry are
gone, those whose abort call succeeded are aborted, and everything else is as it was. The number of
the calls that succeeded is given. If all of them succeed, a second sweep at that time or later
leaves no lease that was past its expiry at the first. -/
theorem sweep_exact {c : Coordinator} {past : List Event} {t : Traffic}
    (hrun : Traffic.idle.run? c past = some t) (now : Instant) :
    c.sweep now = c.sweepIn id now ∧
    ∀ (arrange : List Lease → List Lease) (turn : Turn) (network : Nat → Outcome),
      (∀ leases, (arrange leases).Perm leases) →
      ∃ (calls : List AbortCall) (s' : Session),
        ((c.sweepIn arrange now).run ⟨turn, t.leases⟩).against network =
          ((calls.countP fun a => a.result.toBool, s'), calls.flatMap (AbortCall.requests c)) ∧
        (∀ a ∈ calls, a.IsGenuine c) ∧
        (∃ count, calls.flatMap AbortCall.replies = Exchange.first network count) ∧
        (calls.map AbortCall.lease).Perm
          (t.leases.values.filter fun l => decide (l.state = .begun ∧ l.expiresAt ≤ now)) ∧
        (∀ n, s'.leases.get? n = (t.leases.get? n).bind (AbortCall.leaves calls now)) ∧
        ((∀ a ∈ calls, a.result = .ok ()) →
          ∀ arrange' turn' later network' n k, now ≤ later →
            (((c.sweepIn arrange' later).run ⟨turn', s'.leases⟩).against network').1.2.leases.get? n
              = some k → ¬ k.expiresAt ≤ now) := by
  refine ⟨c.sweep_eq_sweepIn now, ?_⟩
  intro arrange turn network harrange
  have hp := Provenance.of_run hrun
  obtain ⟨calls, s', hagainst, hgenuine, hreplies, hmap, hleases⟩ :=
    c.against_sweepIn arrange now ⟨turn, t.leases⟩ network
  have hperm : (calls.map AbortCall.lease).Perm (t.leases.expired now) := hmap ▸ harrange _
  have hget : ∀ n, s'.leases.get? n = (t.leases.get? n).bind (AbortCall.leaves calls now) := by
    intro n
    rw [hleases]
    refine AbortCall.get?_foldl_change_dropSpent hp.txnId ?_ n
    intro a ha
    have hmem : a.lease ∈ t.leases.expired now := hperm.mem_iff.1 (List.mem_map_of_mem ha)
    exact ((Registry.mem_expired_iff _ _ _).1 hmem).1
  refine ⟨calls, s', hagainst, hgenuine, hreplies, ?_, hget, ?_⟩
  · refine hperm.trans (List.Perm.of_eq (List.filter_congr fun l _ => ?_))
    rw [Bool.eq_iff_iff, Lease.isExpired_iff, decide_eq_true_iff]
  · intro hsucceeded arrange' turn' later network' n k hlater hk hpast
    obtain ⟨m, hm, hexpires, hspent⟩ := Coordinator.get?_sweepIn hk
    rw [hget n] at hm
    obtain ⟨l, hl, hleaves⟩ := Option.bind_eq_some_iff.1 hm
    have hpast' : m.expiresAt ≤ now := hexpires ▸ hpast
    have hfinal : m.state.isTerminal = true := by
      refine AbortCall.isTerminal_of_leaves ?_ ?_ hleaves hpast'
      · exact (hp.state_cases hl).imp_right (TxnState.isTerminal_iff l.state).2
      · intro hexpired
        have hmem : l ∈ calls.map AbortCall.lease :=
          hperm.mem_iff.2 ((Registry.mem_expired_iff _ _ _).2 ⟨⟨n, hl⟩, hexpired⟩)
        obtain ⟨a, ha, hlease⟩ := List.mem_map.1 hmem
        exact ⟨a, ha, hlease, hsucceeded a ha⟩
    have hgone : m.isSpent later = true :=
      (Lease.isSpent_iff m later).2 ⟨hfinal, Instant.le_trans hpast' hlater⟩
    rw [hspent] at hgone
    cases hgone

namespace Sample

/-- A network on which the engine takes everything. -/
def willing : Nat → Outcome :=
  fun _ => .ok ⟨200, [], .ok "\x7b\"Status\":\"Success\"\x7d".toUTF8⟩

/-- A transaction is begun, and nobody ends it. -/
def orphanEvents : List Event := [jobAnswered, .recorded job ⟨0, 0⟩]

/-- Its lease. -/
def orphan : Lease := job.lease none ⟨0, 0⟩ 0

end Sample

/-- A transaction that nobody ends is aborted by the sweep at its expiry. -/
theorem sweep_exact_of_orphan :
    ∃ (t : Traffic) (calls : List AbortCall) (s' : Session),
      Traffic.idle.run? (Sample.coordinator 0) Sample.orphanEvents = some t ∧
      (((Sample.coordinator 0).sweepIn id Sample.orphan.expiresAt).run
          ⟨Sample.turn, t.leases⟩).against Sample.willing =
        ((1, s'), calls.flatMap (AbortCall.requests (Sample.coordinator 0))) ∧
      calls.map AbortCall.lease = [Sample.orphan] ∧
      s'.leases.get? 7 = some { Sample.orphan with state := .aborted } := by
  have hrun : ((Traffic.idle.run? (Sample.coordinator 0) Sample.orphanEvents).map fun t =>
      (t.leases.values, t.leases.get? 7, ((((Sample.coordinator 0).sweepIn id
        Sample.orphan.expiresAt).run ⟨Sample.turn, t.leases⟩).against Sample.willing).1.1)) =
      some ([Sample.orphan], some Sample.orphan, 1) := by decide +kernel
  obtain ⟨t, ht, hvalues⟩ := Option.map_eq_some_iff.1 hrun
  obtain ⟨hvalues, hl, hone⟩ : t.leases.values = [Sample.orphan] ∧
      t.leases.get? 7 = some Sample.orphan ∧ _ := by simpa only [Prod.mk.injEq] using hvalues
  obtain ⟨calls, s', hagainst, -, -, hperm, hget, -⟩ :=
    (sweep_exact ht Sample.orphan.expiresAt).2 id Sample.turn Sample.willing List.Perm.refl
  have hmap : calls.map AbortCall.lease = [Sample.orphan] := by
    rw [hvalues] at hperm
    exact List.perm_singleton.1 hperm
  obtain ⟨a, rfl, ha⟩ := List.map_eq_singleton_iff.1 hmap
  rw [hagainst] at hone
  have hok : a.result = .ok () := by
    cases hres : a.result with
    | error f => simp [hres, Except.toBool] at hone
    | ok u => rfl
  refine ⟨t, [a], s', ht, by rw [hagainst, ← hone], hmap, ?_⟩
  rw [hget, hl]
  show AbortCall.leaves [a] Sample.orphan.expiresAt Sample.orphan = _
  rw [AbortCall.leaves, if_neg (by decide), if_pos ⟨a, List.mem_singleton_self a, ha, hok⟩]

end StoreGate
