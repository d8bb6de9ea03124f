import StoreGate.Proofs.Txn.Alone

/-!
# Where leases come from and where they go

Whatever operations run side by side and whatever the engine answers, the registry stays in order:
every lease stands under its own number, it is open or has ended as the engine has said of that
number before, and it is dropped by a sweep alone once it is final and past its expiry.

* `Provenance` — what the events of a run say about the traffic that they lead to.
* `Provenance.of_run` — it holds after every run.
* `lease_provenance` — the leases of a run, and their order.
-/

namespace StoreGate

/-! ## Confirmed ends -/

namespace Event

/-- The engine has confirmed the end of a transaction: it was asked for a commit and answered with
success, or it was asked for an abort and answered at all. -/
def Confirms (ending : Client.Ending) (n : Int) : Event → Prop
  | endAnswered _ ending' _ txnId replies _ =>
    ending' = ending ∧ txnId = n ∧
      ∃ r, ControlReply replies r ∧ (ending = .commit → r.status = .success)
  | sweepAnswered _ lease _ replies _ =>
    ending = .abort ∧ lease.txnId = n ∧ ∃ r, ControlReply replies r
  | beginAnswered _ _ _ _ | recorded _ _ | marked _ _ _ | sweepStarted _ _ => False

/-- An end that has to be marked was confirmed. -/
theorem confirms_of_mark_mem_newTasks {c : Coordinator} {e : Event} {r : Registry}
    {ending : Client.Ending} {n : Int} {rest : List Lease} (hgenuine : e.IsGenuine c)
    (h : Task.mark ending n rest ∈ e.newTasks r) : e.Confirms ending n := by
  rcases eq_of_mark_mem_newTasks h with
    ⟨turn, database, replies, rfl⟩ | ⟨turn, lease, replies, rfl, rfl, rfl⟩
  · exact ⟨rfl, rfl, Client.replay_endTxn_ok hgenuine⟩
  · obtain ⟨reply, hreply, -⟩ := Client.replay_endTxn_ok hgenuine
    exact ⟨rfl, rfl, reply, hreply⟩

end Event

/-- The engine has confirmed the end of a transaction in one of the events. -/
def Confirmed (es : List Event) (ending : Client.Ending) (n : Int) : Prop :=
  ∃ e ∈ es, e.Confirms ending n

theorem Confirmed.append {es : List Event} {ending : Client.Ending} {n : Int}
    (h : Confirmed es ending n) (fs : List Event) : Confirmed (es ++ fs) ending n := by
  obtain ⟨e, he, hc⟩ := h
  exact ⟨e, List.mem_append_left _ he, hc⟩

/-! ## The invariant -/

/-- What the events of a run say about the traffic that they lead to. -/
structure Provenance (es : List Event) (t : Traffic) : Prop where
  /-- Every lease stands under its own number. -/
  txnId : ∀ n l, t.leases.get? n = some l → l.txnId = n
  /-- Every lease is open, or it has ended as the engine has confirmed. -/
  state : ∀ n l, t.leases.get? n = some l →
    l.state = .begun ∨ ∃ ending : Client.Ending, l.state = ending.state ∧ Confirmed es ending n
  /-- Every end that has to be marked was confirmed. -/
  mark : ∀ ending n rest, Task.mark ending n rest ∈ t.tasks → Confirmed es ending n
  /-- Every transaction that has to be recorded was granted. -/
  record : ∀ g, Task.record g ∈ t.tasks →
    ∃ turn replies, .beginAnswered turn g.call replies (.ok g.outcome) ∈ es

namespace Provenance

variable {c : Coordinator} {es : List Event} {e : Event} {s t u : Traffic}

theorem idle : Provenance [] Traffic.idle where
  txnId n l h := by cases h
  state n l h := by cases h
  mark ending n rest h := by cases h
  record g h := by cases h

/-- **One event keeps the leases in order.** -/
theorem step (hp : Provenance es t) (h : t.step? c e = some u) : Provenance (es ++ [e]) u := by
  obtain ⟨⟨hgenuine, -⟩, -⟩ := Traffic.step?_eq_some.1 h
  constructor
  case txnId =>
    intro n l hl
    rw [Traffic.get?_of_step? h] at hl
    rcases Event.changeLease_eq_some hl with
      ⟨g, now, rfl, hn, rfl⟩ | ⟨ending, rest, k, rfl, hk, rfl⟩ | hk
    · rw [Grant.lease, Registry.trackedLease_txnId, hn]
      intro k hk
      rw [hn]
      exact hp.txnId n k hk
    · exact hp.txnId n k hk
    · exact hp.txnId n l hk
  case state =>
    intro n l hl
    rw [Traffic.get?_of_step? h] at hl
    have hold : ∀ k, t.leases.get? n = some k → k.state = .begun ∨
        ∃ ending : Client.Ending, k.state = ending.state ∧ Confirmed (es ++ [e]) ending n := by
      intro k hk
      rcases hp.state n k hk with hb | ⟨ending, hend, hconf⟩
      · exact Or.inl hb
      · exact Or.inr ⟨ending, hend, hconf.append _⟩
    rcases Event.changeLease_eq_some hl with
      ⟨g, now, rfl, hn, rfl⟩ | ⟨ending, rest, k, rfl, hk, rfl⟩ | hk
    · rcases Registry.trackedLease_state (t.leases.get? n) with hb | hk
      · exact Or.inl hb
      · exact hold _ hk
    · exact Or.inr ⟨ending, rfl, (hp.mark ending n rest (Traffic.task_mem_of_step? h rfl)).append _⟩
    · exact hold l hk
  case mark =>
    intro ending n rest hmem
    rcases Traffic.mem_tasks_of_step? h hmem with hnew | hold
    · exact ⟨e, List.mem_append_right _ (List.mem_singleton_self _),
        Event.confirms_of_mark_mem_newTasks hgenuine hnew⟩
    · exact (hp.mark ending n rest hold).append _
  case record =>
    intro g hmem
    rcases Traffic.mem_tasks_of_step? h hmem with hnew | hold
    · obtain ⟨turn, replies, rfl⟩ := Event.eq_of_record_mem_newTasks hnew
      exact ⟨turn, replies, List.mem_append_right _ (List.mem_singleton_self _)⟩
    · obtain ⟨turn, replies, hmem⟩ := hp.record g hold
      exact ⟨turn, replies, List.mem_append_left _ hmem⟩

/-- **Every run keeps the leases in order.** -/
theorem of_run (h : Traffic.idle.run? c es = some t) : Provenance es t :=
  Traffic.run_induction idle (fun _ _ _ _ _ hp he => hp.step he) h

/-- A lease after a run is open, committed or aborted. -/
theorem state_cases (hp : Provenance es t) {n : Int} {l : Lease} (hl : t.leases.get? n = some l) :
    l.state = .begun ∨ l.state = .committed ∨ l.state = .aborted := by
  rcases hp.state n l hl with hb | ⟨ending, hend, -⟩
  · exact Or.inl hb
  · cases ending with
    | commit => exact Or.inr (Or.inl hend)
    | abort => exact Or.inr (Or.inr hend)

/-- A lease that has ended has been confirmed to end so. -/
theorem confirmed_of_state (hp : Provenance es t) {n : Int} {l : Lease}
    (hl : t.leases.get? n = some l) (ending : Client.Ending) (hend : l.state = ending.state) :
    Confirmed es ending n := by
  rcases hp.state n l hl with hb | ⟨ending', hend', hconf⟩
  · exact absurd (hend.symm.trans hb) ending.state_ne_begun
  · rwa [Client.Ending.state_injective (hend.symm.trans hend')]

/-- The leases are listed by their own numbers, each number once. -/
theorem pairwise_values (hp : Provenance es t) :
    t.leases.values.Pairwise fun a b => a.txnId < b.txnId := by
  refine List.pairwise_map.2 (t.leases.increasing.imp_of_mem ?_)
  rintro ⟨n, l⟩ ⟨m, k⟩ hl hk hlt
  have hn : l.txnId = n := hp.txnId n l ((SortedMap.mem_entries_iff _ n l).1 hl)
  have hm : k.txnId = m := hp.txnId m k ((SortedMap.mem_entries_iff _ m k).1 hk)
  rw [hn, hm]
  exact of_decide_eq_true hlt

end Provenance

/-- A lease that is gone after an event was dropped by a sweep, being final and past its expiry. -/
theorem Traffic.spent_of_dropped {c : Coordinator} {e : Event} {s u : Traffic}
    (h : s.step? c e = some u) {n : Int} {l : Lease} (hl : s.leases.get? n = some l)
    (hgone : u.leases.get? n = none) :
    ∃ now order, e = .sweepStarted now order ∧ l.state.isTerminal = true ∧ l.expiresAt ≤ now := by
  rw [Traffic.get?_of_step? h, hl] at hgone
  obtain ⟨now, order, rfl, hspent⟩ := Event.changeLease_eq_none hgone
  exact ⟨now, order, rfl, (Lease.isSpent_iff l now).1 hspent⟩

/-! ## Leases of a run -/

/-- **Leases have a provenance and none is lost.** After every run of interleaved operations, with
whatever replies: every lease stands under its own number and is open, committed or aborted; the
listing goes strictly by number; a lease is committed or aborted only if the engine has confirmed
the commit or an abort of its number; and all along the run a lease is dropped by a sweep alone,
which comes at or past its expiry and finds it final. -/
theorem lease_provenance {c : Coordinator} {es : List Event} {t : Traffic}
    (h : Traffic.idle.run? c es = some t) :
    (∀ n l, t.leases.get? n = some l →
      l.txnId = n ∧ (l.state = .begun ∨ l.state = .committed ∨ l.state = .aborted)) ∧
    (t.leases.values.Pairwise fun a b => a.txnId < b.txnId) ∧
    (∀ n l, t.leases.get? n = some l →
      (l.state = .committed → Confirmed es .commit n) ∧
        (l.state = .aborted → Confirmed es .abort n)) ∧
    ∀ pre e s u, pre ++ [e] <+: es → Traffic.idle.run? c pre = some s → s.step? c e = some u →
      ∀ n l, s.leases.get? n = some l → u.leases.get? n = none →
        ∃ now order, e = .sweepStarted now order ∧ l.state.isTerminal = true ∧
          l.expiresAt ≤ now := by
  have hp := Provenance.of_run h
  refine ⟨?_, hp.pairwise_values, ?_, ?_⟩
  · intro n l hl
    exact ⟨hp.txnId n l hl, hp.state_cases hl⟩
  · intro n l hl
    exact ⟨hp.confirmed_of_state hl .commit, hp.confirmed_of_state hl .abort⟩
  · intro pre e s u _ _ hstep n l hl hgone
    exact Traffic.spent_of_dropped hstep hl hgone

theorem lease_provenance_of_commit :
    ∃ t l, Traffic.idle.run? (Sample.coordinator 0) Sample.commitEvents = some t ∧
      t.leases.get? 7 = some l ∧ l.state = .committed ∧
      Confirmed Sample.commitEvents .commit 7 := by
  have hrun : ((Traffic.idle.run? (Sample.coordinator 0) Sample.commitEvents).bind fun t =>
      (t.leases.get? 7).map Lease.state) = some .committed := by decide +kernel
  obtain ⟨t, ht, hstate⟩ := Option.bind_eq_some_iff.1 hrun
  obtain ⟨l, hl, hcommitted⟩ := Option.map_eq_some_iff.1 hstate
  exact ⟨t, l, ht, hl, hcommitted, ((lease_provenance ht).2.2.1 7 l hl).1 hcommitted⟩

end StoreGate
