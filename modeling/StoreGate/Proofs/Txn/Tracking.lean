import StoreGate.Proofs.Txn.Provenance

/-!
# Which transactions are tracked

A transaction that is handed out is tracked so that a sweep can end it when its caller has gone. A
begin that finds the transaction under way keeps the lease that it finds, whatever its state, so
that one whose lease has ended is handed out and not tracked.

* `Traffic.get?_of_run?` — an open lease stays as it is until it is marked or begun anew.
* `Traffic.aborts` — a sweep aborts an open lease past its expiry.
* `tracks_iff` — exactly which transactions are tracked, and what a sweep does with them.
* `reused_begin_untracked` — one that is not.
-/

namespace StoreGate

/-! ## Open leases -/

/-- The transaction is tracked: it has a lease, and the lease is open. -/
def Traffic.Tracks (t : Traffic) (n : Int) : Prop :=
  ∃ l, t.leases.get? n = some l ∧ l.state = .begun

namespace Event

/-- The event writes an open lease of the transaction anew: it marks an end of it, or it records a
begin that is new to the engine. -/
def Rewrites (n : Int) : Event → Prop
  | marked _ txnId _ => txnId = n
  | recorded g _ => g.IsFresh n
  | _ => False

/-- **One event** that does not write an open lease anew leaves it as it is. -/
theorem changeLease_of_not_rewrites {e : Event} {grace : Span} {n : Int} {l : Lease}
    (hopen : l.state = .begun) (h : ¬ e.Rewrites n) :
    e.changeLease grace n (some l) = some l := by
  cases e with
  | recorded g now =>
      simp only [changeLease]
      split
      · next hn =>
        have hr : g.outcome.reused = true := by
          by_contra hr
          exact h ⟨hn, by simpa using hr⟩
        rw [Grant.lease, Registry.trackedLease_some_reused l hr]
      · rfl
  | marked ending txnId rest =>
      simp only [changeLease]
      rw [if_neg (fun hn => h hn.symm)]
  | sweepStarted now order => simp [changeLease, Option.filter, Lease.isSpent_of_begun hopen]
  | beginAnswered turn call replies result => rfl
  | endAnswered turn ending database txnId replies result => rfl
  | sweepAnswered turn lease rest replies result => rfl

end Event

namespace Traffic

variable {c : Coordinator} {t u : Traffic} {n : Int} {l : Lease} {es : List Event}

/-- **An open lease stays as it is** along a run that does not write it anew; above all, no sweep
drops it. -/
theorem get?_of_run? (h : t.run? c es = some u) (hl : t.leases.get? n = some l)
    (hopen : l.state = .begun) (hes : ∀ e ∈ es, ¬ e.Rewrites n) :
    u.leases.get? n = some l := by
  induction es generalizing t with
  | nil =>
      obtain rfl := Option.some.inj h
      exact hl
  | cons e es ih =>
      obtain ⟨s, hs, hrun⟩ := run?_cons_eq_some.1 h
      refine ih hrun ?_ fun f hf => hes f (List.mem_cons_of_mem _ hf)
      rw [get?_of_step? hs, hl]
      exact Event.changeLease_of_not_rewrites hopen (hes e (List.mem_cons_self ..))

/-! ## Sweeps -/

/-- A sweep at this time aborts the lease. -/
structure Aborts (c : Coordinator) (t : Traffic) (l : Lease) (now : Instant) : Prop where
  /-- Whatever else is under way, the sweep has the lease among those that it is to abort. -/
  listed : ∀ order : Arrangement, ∃ u, t.step? c (.sweepStarted now order) = some u ∧ u.Lists l
  /-- Carried out on its own, in whatever order, the sweep asks the engine for the abort, and the
  lease is aborted if the engine takes it. -/
  asked : ∀ (order : Arrangement) turn outcomes k s',
    ((c.sweepIn order.arrange now).run ⟨turn, t.leases⟩).replay outcomes = some (k, s') →
      ∃ a : AbortCall, a.lease = l ∧ a.IsGenuine c ∧ a.replies <:+: outcomes ∧
        (a.result = .ok () → ∃ k, s'.leases.get? l.txnId = some k ∧ k.state = .aborted)

/-- An open lease past its expiry is among those that a sweep aborts. -/
theorem mem_expired_dropSpent {r : Registry} {now : Instant} (hl : r.get? n = some l)
    (hopen : l.state = .begun) (hpast : l.expiresAt ≤ now) :
    l ∈ (r.dropSpent now).expired now :=
  (Registry.mem_expired_iff _ now l).2
    ⟨⟨n, Registry.get?_dropSpent_of_begun hl hopen now⟩,
      (Lease.isExpired_iff l now).2 ⟨hopen, hpast⟩⟩

/-- **A sweep aborts an open lease past its expiry.** -/
theorem aborts (hl : t.leases.get? l.txnId = some l) (hopen : l.state = .begun) {now : Instant}
    (hpast : l.expiresAt ≤ now) : t.Aborts c l now := by
  have hmem : l ∈ (t.leases.dropSpent now).expired now := mem_expired_dropSpent hl hopen hpast
  constructor
  case listed =>
    intro order
    have hmem := order.mem_arrange.2 hmem
    refine ⟨⟨t.leases.dropSpent now,
        Task.sweepOf (order.arrange ((t.leases.dropSpent now).expired now)) ++ t.tasks⟩, ?_,
      .sweep (order.arrange ((t.leases.dropSpent now).expired now)), ?_, hmem⟩
    · exact step?_eq_some.2 ⟨⟨trivial, by simp [Event.task?]⟩, rfl, rfl⟩
    · exact List.mem_append_left _ (Task.mem_sweepOf.2 ⟨List.ne_nil_of_mem hmem, rfl⟩)
  case asked =>
    intro order turn outcomes k s' h
    obtain ⟨calls, hmap, hgenuine, rfl, hs', -⟩ := Coordinator.replay_sweepIn h
    rw [← order.mem_arrange, ← hmap] at hmem
    obtain ⟨a, ha, rfl⟩ := List.mem_map.1 hmem
    refine ⟨a, rfl, hgenuine a ha, ?_, ?_⟩
    · obtain ⟨before, after, rfl⟩ := List.append_of_mem ha
      exact ⟨before.flatMap AbortCall.replies, after.flatMap AbortCall.replies, by simp⟩
    · intro hres
      have hkeep : (t.leases.dropSpent now).get? a.lease.txnId = some a.lease :=
        Registry.get?_dropSpent_of_begun hl hopen now
      refine ⟨{ a.lease with state := .aborted }, ?_, rfl⟩
      rw [hs', AbortCall.get?_foldl_change, if_pos ⟨a, ha, rfl, hres⟩, hkeep]
      rfl

end Traffic

/-! ## Recorded transactions -/

/-- A begin finds the transaction under way, and its lease has ended. -/
def Grant.FindsEnded (g : Grant) (known : Option Lease) : Prop :=
  g.outcome.reused = true ∧ ∃ k, known = some k ∧ k.state.isTerminal = true

/-- The lease that a begin leaves is open unless it finds one that has ended. -/
theorem Grant.lease_state_eq_begun_iff (g : Grant) {known : Option Lease} (now : Instant)
    (grace : Span) (hknown : ∀ k, known = some k → k.state = .begun ∨ k.state.isTerminal = true) :
    (g.lease known now grace).state = .begun ↔ ¬ g.FindsEnded known := by
  cases known with
  | none => simp [Grant.lease, Registry.freshLease, FindsEnded]
  | some k =>
      by_cases hr : g.outcome.reused = true
      · have hk : k.state = .begun ↔ ¬ k.state.isTerminal = true := by
          rcases hknown k rfl with hk | hk
          · simp [hk, TxnState.isTerminal]
          · refine iff_of_false ?_ (not_not_intro hk)
            intro hbegun
            rw [hbegun] at hk
            cases hk
        simp [Grant.lease, Registry.trackedLease_some_reused k hr, FindsEnded, hr, hk]
      · have hr : g.outcome.reused = false := by simpa using hr
        simp [Grant.lease, Registry.trackedLease_some_fresh k hr, FindsEnded, hr]

/-- **Which transactions are tracked.** After a begin is recorded there is a lease for its number,
and the transaction is tracked exactly if the begin does not find it under way with a lease that has
ended. If it is tracked, then until its lease is marked or begun anew every sweep that comes at or
past the expiry of the lease aborts it. -/
theorem tracks_iff {c : Coordinator} {past : List Event} {t u : Traffic} {g : Grant}
    {now : Instant} (hrun : Traffic.idle.run? c past = some t)
    (hstep : t.step? c (.recorded g now) = some u) :
    (∃ l, u.leases.get? g.outcome.txnId = some l) ∧
    (u.Tracks g.outcome.txnId ↔ ¬ g.FindsEnded (t.leases.get? g.outcome.txnId)) ∧
    ∀ l, u.leases.get? g.outcome.txnId = some l → l.state = .begun →
      ∀ es v, u.run? c es = some v → (∀ e ∈ es, ¬ e.Rewrites g.outcome.txnId) →
        ∀ later, l.expiresAt ≤ later → v.Aborts c l later := by
  have hp := Provenance.of_run hrun
  have hlease : u.leases.get? g.outcome.txnId =
      some (g.lease (t.leases.get? g.outcome.txnId) now c.grace) := Traffic.get?_of_recorded hstep
  have hknown : ∀ k, t.leases.get? g.outcome.txnId = some k →
      k.state = .begun ∨ k.state.isTerminal = true := by
    intro k hk
    exact (hp.state_cases hk).imp_right (TxnState.isTerminal_iff k.state).2
  refine ⟨⟨_, hlease⟩, ?_, ?_⟩
  · rw [← g.lease_state_eq_begun_iff now c.grace hknown]
    constructor
    · rintro ⟨l, hl, hopen⟩
      rwa [← Option.some.inj (hl.symm.trans hlease)]
    · intro hopen
      exact ⟨_, hlease, hopen⟩
  · intro l hl hopen es v hes hkeep later hpast
    have htxnId : l.txnId = g.outcome.txnId := (hp.step hstep).txnId _ l hl
    have hv : v.leases.get? l.txnId = some l := by
      rw [htxnId]
      exact Traffic.get?_of_run? hes hl hopen hkeep
    exact Traffic.aborts hv hopen hpast

/-- A transaction that is new is tracked. After a commit that the engine refuses, a sweep at its
expiry aborts it. -/
theorem tracks_of_job :
    ∃ t u v l, Traffic.idle.run? (Sample.coordinator 0) [Sample.jobAnswered] = some t ∧
      t.step? (Sample.coordinator 0) (.recorded Sample.job ⟨0, 0⟩) = some u ∧
      u.run? (Sample.coordinator 0) Sample.refusedCommit = some v ∧ u.Tracks 7 ∧
      u.leases.get? 7 = some l ∧ v.Aborts (Sample.coordinator 0) l l.expiresAt := by
  have hrun : ((Traffic.idle.run? (Sample.coordinator 0) [Sample.jobAnswered]).bind fun t =>
      (t.step? (Sample.coordinator 0) (.recorded Sample.job ⟨0, 0⟩)).bind fun u =>
        (u.run? (Sample.coordinator 0) Sample.refusedCommit).bind fun _ =>
          (u.leases.get? 7).map Lease.state) = some .begun := by decide +kernel
  obtain ⟨t, ht, hrun⟩ := Option.bind_eq_some_iff.1 hrun
  obtain ⟨u, hu, hrun⟩ := Option.bind_eq_some_iff.1 hrun
  obtain ⟨v, hv, hrun⟩ := Option.bind_eq_some_iff.1 hrun
  obtain ⟨l, hl, hopen⟩ := Option.map_eq_some_iff.1 hrun
  obtain ⟨-, htracks, haborts⟩ := tracks_iff ht hu
  have hkeep : ∀ e ∈ Sample.refusedCommit, ¬ e.Rewrites 7 := by
    intro e he
    obtain rfl := List.mem_singleton.1 he
    exact id
  exact ⟨t, u, v, l, ht, hu, hv, htracks.2 (fun h => by cases h.1), hl,
    haborts l hl hopen Sample.refusedCommit v hv hkeep l.expiresAt l.expiresAt.le_refl⟩

namespace Sample

/-- The transaction, under way when it is begun again. -/
def jobAgain : Grant := ⟨job.call, ⟨7, "job", true⟩⟩

def jobAgainAnswered : Event :=
  .beginAnswered turn job.call
    (answer "\x7b\"Status\":\"Label Already Exists\",\"ExistingTxnId\":7\x7d")
    (.ok jobAgain.outcome)

end Sample

/-- **A begin hands out a transaction that is not tracked**: an abort of it was refused, and when
it is begun again the engine finds it under way; its lease stays aborted. -/
theorem reused_begin_untracked :
    ∃ t u, Traffic.idle.run? (Sample.coordinator 0)
        ([Sample.jobAnswered, .recorded Sample.job ⟨0, 0⟩] ++ Sample.refusedAbort ++
          [Sample.jobAgainAnswered]) = some t ∧
      t.step? (Sample.coordinator 0) (.recorded Sample.jobAgain ⟨0, 0⟩) = some u ∧
      ¬ u.Tracks Sample.jobAgain.outcome.txnId := by
  have hrun : ((Traffic.idle.run? (Sample.coordinator 0)
      ([Sample.jobAnswered, .recorded Sample.job ⟨0, 0⟩] ++ Sample.refusedAbort ++
        [Sample.jobAgainAnswered])).bind fun t =>
      (t.step? (Sample.coordinator 0) (.recorded Sample.jobAgain ⟨0, 0⟩)).bind fun u =>
        (u.leases.get? 7).map Lease.state) = some .aborted := by decide +kernel
  obtain ⟨t, ht, hrun⟩ := Option.bind_eq_some_iff.1 hrun
  obtain ⟨u, hu, hrun⟩ := Option.bind_eq_some_iff.1 hrun
  obtain ⟨l, hl, haborted⟩ := Option.map_eq_some_iff.1 hrun
  refine ⟨t, u, ht, hu, ?_⟩
  rintro ⟨k, hk, hopen⟩
  rw [← Option.some.inj (hl.symm.trans hk), haborted] at hopen
  cases hopen

end StoreGate
