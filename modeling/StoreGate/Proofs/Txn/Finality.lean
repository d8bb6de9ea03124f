import StoreGate.Proofs.Txn.Provenance
import StoreGate.Proofs.Txn.Stretch

/-!
# When final states last

A transaction that is committed or aborted is final for the engine, but the registry marks whatever
end the engine has answered last: an abort that is answered with a refusal overwrites a commit. Told
here is what exactly takes a final lease out of its state.

* `Event.Overturns` — the events that do: the mark of another end, the record of a begin that the
  engine had answered earlier, and the record of a reused transaction whose lease was dropped.
* `staysFinal_iff` — a final lease keeps its state exactly if none of these comes.
* `refused_abort_overturns_commit` — it does not always.
-/

namespace StoreGate

/-! ## Final states -/

namespace Event

/-- The engine grants the number afresh. -/
def GrantsFresh (n : Int) : Event → Prop
  | beginAnswered _ call _ (.ok o) => (Grant.mk call o).IsFresh n
  | _ => False

instance (n : Int) (e : Event) : Decidable (e.GrantsFresh n) :=
  match e with
  | beginAnswered _ _ _ (.ok _) => inferInstanceAs (Decidable (Grant.IsFresh _ _))
  | beginAnswered _ _ _ (.error _) | recorded _ _ | endAnswered _ _ _ _ _ _ | marked _ _ _
  | sweepStarted _ _ | sweepAnswered _ _ _ _ _ => inferInstanceAs (Decidable False)

/-- The event takes the lease of a transaction out of a final state: it marks another end, or it
records a begin which is new to the engine or finds no lease. -/
def Overturns (n : Int) (state : TxnState) (e : Event) (known : Option Lease) : Prop :=
  match e with
  | marked ending txnId _ => txnId = n ∧ ending.state ≠ state ∧ known ≠ none
  | recorded g _ => g.outcome.txnId = n ∧ (g.outcome.reused = false ∨ known = none)
  | _ => False

end Event

/-- The lease is in the state, if there is one. -/
def InState (state : TxnState) (known : Option Lease) : Prop :=
  ∀ l, known = some l → l.state = state

/-- From `t` on, the lease of a transaction is in the state whenever there is one, until the engine
grants the number afresh. -/
def StaysFinal (c : Coordinator) (t : Traffic) (n : Int) (state : TxnState) (es : List Event) :
    Prop :=
  t.Throughout c n es (Event.GrantsFresh n) (InState state)

/-- **One event** leaves a final lease in its state unless it overturns it. -/
theorem Event.inState_changeLease_iff {e : Event} {grace : Span} {n : Int} {state : TxnState}
    {known : Option Lease} (hfinal : state.isTerminal = true) (hknown : InState state known) :
    InState state (e.changeLease grace n known) ↔ ¬ e.Overturns n state known := by
  have hbegun : TxnState.begun ≠ state := by
    rintro rfl
    cases hfinal
  cases e with
  | recorded g now =>
      simp only [changeLease, Overturns]
      by_cases hn : g.outcome.txnId = n
      · simp only [hn, if_true, true_and]
        cases known with
        | none => simp [InState, Grant.lease, Registry.freshLease, hbegun]
        | some k =>
            have hk : k.state = state := hknown k rfl
            by_cases hr : g.outcome.reused = true
            · simp [InState, Grant.lease, Registry.trackedLease_some_reused k hr, hr, hk]
            · have hr : g.outcome.reused = false := by simpa using hr
              simp [InState, Grant.lease, Registry.trackedLease_some_fresh k hr, hr, hbegun]
      · simpa [hn] using hknown
  | marked ending txnId rest =>
      simp only [changeLease, Overturns]
      by_cases hn : n = txnId
      · subst hn
        cases known with
        | none => simp [InState]
        | some k => simp [InState]
      · simpa [hn, Ne.symm hn] using hknown
  | sweepStarted now order =>
      simp only [changeLease, Overturns, not_false_iff, iff_true]
      intro l hl
      exact hknown l (Option.filter_eq_some_iff.1 hl).1
  | beginAnswered turn call replies result => simpa [changeLease, Overturns] using hknown
  | endAnswered turn ending database txnId replies result =>
      simpa [changeLease, Overturns] using hknown
  | sweepAnswered turn lease rest replies result => simpa [changeLease, Overturns] using hknown

/-- **A final lease keeps its state exactly if no event overturns it.** From any point of a run at
which a transaction is committed or aborted, and until the engine grants its number afresh, its
lease is in that state whenever there is one, if and only if no event of the stretch marks an end of
the other kind, records a begin of the number that the engine answered before the stretch, or
records a reused begin of the number after a sweep dropped the lease. -/
theorem staysFinal_iff {c : Coordinator} {t u : Traffic} {n : Int} {l : Lease} {es : List Event}
    (hrun : t.run? c es = some u) (hl : t.leases.get? n = some l)
    (hfinal : l.state.isTerminal = true) :
    StaysFinal c t n l.state es ↔
      t.Unbroken c n es (Event.GrantsFresh n) (Event.Overturns n l.state) := by
  have hstart : InState l.state (t.leases.get? n) := by
    intro k hk
    rw [← Option.some.inj (hl.symm.trans hk)]
  rw [StaysFinal, Traffic.throughout_iff hrun
    fun e known _ hknown => Event.inState_changeLease_iff hfinal hknown]
  exact and_iff_right hstart

/-- A refused commit leaves a committed transaction as it is. -/
theorem staysFinal_of_refusedCommit :
    ∃ t l, Traffic.idle.run? (Sample.coordinator 0) Sample.commitEvents = some t ∧
      t.leases.get? 7 = some l ∧ l.state = .committed ∧
      StaysFinal (Sample.coordinator 0) t 7 l.state Sample.refusedCommit := by
  have hrun : ((Traffic.idle.run? (Sample.coordinator 0) Sample.commitEvents).bind fun t =>
      (t.run? (Sample.coordinator 0) Sample.refusedCommit).bind fun _ =>
        (t.leases.get? 7).map Lease.state) = some .committed := by decide +kernel
  obtain ⟨t, ht, hrun⟩ := Option.bind_eq_some_iff.1 hrun
  obtain ⟨u, hu, hstate⟩ := Option.bind_eq_some_iff.1 hrun
  obtain ⟨l, hl, hcommitted⟩ := Option.map_eq_some_iff.1 hstate
  refine ⟨t, l, ht, hl, hcommitted, (staysFinal_iff hu hl (by rw [hcommitted]; rfl)).2 ?_⟩
  intro pre e s hpre _ _
  have hmem : e ∈ Sample.refusedCommit := hpre.subset (by simp)
  obtain rfl := List.mem_singleton.1 hmem
  exact id

/-- **A refused abort overturns a commit**: the lease of a committed transaction becomes aborted,
though the engine has granted its number to no other. -/
theorem refused_abort_overturns_commit :
    ∃ t u l k, Traffic.idle.run? (Sample.coordinator 0) Sample.commitEvents = some t ∧
      t.run? (Sample.coordinator 0) Sample.refusedAbort = some u ∧
      t.leases.get? 7 = some l ∧ l.state = .committed ∧
      u.leases.get? 7 = some k ∧ k.state = .aborted ∧
      ¬ StaysFinal (Sample.coordinator 0) t 7 .committed Sample.refusedAbort := by
  have hrun : ((Traffic.idle.run? (Sample.coordinator 0) Sample.commitEvents).bind fun t =>
      (t.run? (Sample.coordinator 0) Sample.refusedAbort).bind fun u =>
        (t.leases.get? 7).bind fun l => (u.leases.get? 7).map fun k => (l.state, k.state)) =
      some (.committed, .aborted) := by decide +kernel
  obtain ⟨t, ht, hrun⟩ := Option.bind_eq_some_iff.1 hrun
  obtain ⟨u, hu, hrun⟩ := Option.bind_eq_some_iff.1 hrun
  obtain ⟨l, hl, hrun⟩ := Option.bind_eq_some_iff.1 hrun
  obtain ⟨k, hk, hstates⟩ := Option.map_eq_some_iff.1 hrun
  obtain ⟨hcommitted, haborted⟩ := Prod.mk.inj hstates
  refine ⟨t, u, l, k, ht, hu, hl, hcommitted, hk, haborted, ?_⟩
  intro hstays
  have hlast : k.state = .committed :=
    hstays Sample.refusedAbort u List.prefix_rfl (by decide) hu k hk
  rw [haborted] at hlast
  cases hlast

end StoreGate
