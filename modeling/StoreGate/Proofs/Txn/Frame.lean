import StoreGate.Proofs.Txn.Alone

/-!
# What an operation leaves alone

An operation on one transaction either fails and leaves the registry as it was, or it succeeds and
touches one lease. It fails at many depths, from the caller's own arguments to the last reply, and
none of them matters here: the registry is changed after the exchange is over.

* `Session.AllOrNothing` — what an operation does to the leases on every network.
* `Coordinator.endTxn_comm` — ends of two transactions may change places.
* `operations_touch_one_lease` — begins, commits and aborts, with or without a table.
-/

namespace StoreGate

namespace Registry

/-- Two registries agree on every transaction but one. -/
def AgreeExcept (n : Int) (r r' : Registry) : Prop := ∀ m, m ≠ n → r'.get? m = r.get? m

/-- No lease is new and none is gone, and nothing differs but the state of one. -/
structure RemarkedAt (n : Int) (state : TxnState) (r r' : Registry) : Prop where
  keys : r'.keys = r.keys
  others : AgreeExcept n r r'
  lease : r'.get? n = (r.get? n).map fun l => { l with state := state }

theorem agreeExcept_track (r : Registry) (o : BeginOutcome) (database table : String)
    (now : Instant) (timeoutSecs : Nat) (grace : Span) :
    AgreeExcept o.txnId r (r.track o database table now timeoutSecs grace) := by
  intro m hm
  rw [get?_track, if_neg (Ne.symm hm)]

theorem remarkedAt_mark (r : Registry) (n : Int) (state : TxnState) :
    RemarkedAt n state r (r.mark n state) where
  keys := SortedMap.keys_modify r n _
  others m hm := by rw [get?_mark, if_neg hm]
  lease := by rw [get?_mark, if_pos rfl]

end Registry

namespace Client.Ending

theorem settle_of_ok (ending : Client.Ending) (r : Registry) (txnId : Int)
    {result : Except Fault Unit} (h : result = .ok ()) :
    ending.settle r txnId result = r.mark txnId ending.state := by
  rw [h]
  rfl

theorem settle_of_ne_ok (ending : Client.Ending) (r : Registry) (txnId : Int)
    {result : Except Fault Unit} (h : result ≠ .ok ()) : ending.settle r txnId result = r := by
  cases result with
  | error f => rfl
  | ok u => exact absurd rfl h

/-- An end is settled by whether it has succeeded. -/
theorem settle_congr (ending : Client.Ending) (r : Registry) (txnId : Int)
    {result result' : Except Fault Unit} (h : result = .ok () ↔ result' = .ok ()) :
    ending.settle r txnId result = ending.settle r txnId result' := by
  by_cases hok : result = .ok ()
  · rw [settle_of_ok ending r txnId hok, settle_of_ok ending r txnId (h.1 hok)]
  · rw [settle_of_ne_ok ending r txnId hok, settle_of_ne_ok ending r txnId fun h' => hok (h.2 h')]

/-- **Ends of two transactions may change places** in the registry. -/
theorem settle_comm (a b : Client.Ending) (r : Registry) {n m : Int} (h : n ≠ m)
    (x y : Except Fault Unit) :
    b.settle (a.settle r n x) m y = a.settle (b.settle r m y) n x := by
  cases x with
  | error f => rfl
  | ok u =>
      cases y with
      | error f => rfl
      | ok u =>
          rw [settle_of_ok a r n rfl, settle_of_ok b _ m rfl, settle_of_ok b r m rfl,
            settle_of_ok a _ n rfl]
          exact SortedMap.modify_comm r _ _ h

end Client.Ending

/-! ## Operations on every network -/

namespace Session

variable {α β : Type}

/-- What an operation does to the leases on every network. -/
structure AllOrNothing (x : SessionM (Except Fault α)) (effect : α → Registry → Registry → Prop) :
    Prop where
  /-- One that fails leaves them as they were. -/
  failed : ∀ s network f s', ((x.run s).against network).1 = (.error f, s') → s'.leases = s.leases
  /-- One that succeeds has its effect on them. -/
  succeeded : ∀ s network a s', ((x.run s).against network).1 = (.ok a, s') →
    effect a s.leases s'.leases

/-- It is enough to look at the outcomes that an operation takes. -/
theorem allOrNothing_of_replay {x : SessionM (Except Fault α)}
    {effect : α → Registry → Registry → Prop}
    (hfailed : ∀ s outcomes f s', (x.run s).replay outcomes = some (.error f, s') →
      s'.leases = s.leases)
    (hsucceeded : ∀ s outcomes a s', (x.run s).replay outcomes = some (.ok a, s') →
      effect a s.leases s'.leases) : AllOrNothing x effect := by
  constructor
  case failed =>
    intro s network f s' hend
    obtain ⟨count, hreplay, -⟩ := Exchange.exists_replay (x.run s) network
    exact hfailed s _ f s' (hend ▸ hreplay)
  case succeeded =>
    intro s network a s' hend
    obtain ⟨count, hreplay, -⟩ := Exchange.exists_replay (x.run s) network
    exact hsucceeded s _ a s' (hend ▸ hreplay)

/-- What is only computed from the end of an operation changes no lease. -/
theorem AllOrNothing.map {x : SessionM (Except Fault α)} {f : α → β}
    {effect : β → Registry → Registry → Prop} (h : AllOrNothing x fun a => effect (f a)) :
    AllOrNothing (do return (← x).map f) effect := by
  have hmap : ∀ s network, (((do return (← x).map f : SessionM (Except Fault β)).run s).against
      network).1 = (((x.run s).against network).1.1.map f, ((x.run s).against network).1.2) :=
    fun s network => congrArg Prod.fst
      (Exchange.against_map (x.run s) (fun p => (p.1.map f, p.2)) network)
  constructor
  case failed =>
    intro s network fault s' hend
    rw [hmap] at hend
    obtain ⟨hfst, hsnd⟩ := Prod.mk.inj hend
    cases hx : ((x.run s).against network).1.1 with
    | error fault' => exact h.failed s network fault' s' (Prod.ext hx hsnd)
    | ok a =>
        rw [hx] at hfst
        cases hfst
  case succeeded =>
    intro s network b s' hend
    rw [hmap] at hend
    obtain ⟨hfst, hsnd⟩ := Prod.mk.inj hend
    cases hx : ((x.run s).against network).1.1 with
    | error fault =>
        rw [hx] at hfst
        cases hfst
    | ok a =>
        rw [hx] at hfst
        cases hfst
        exact h.succeeded s network a s' (Prod.ext hx hsnd)

end Session

namespace Coordinator

variable {c : Coordinator}

theorem beginTxn_allOrNothing (now : Instant) (database table label : String) (timeoutSecs : Nat) :
    Session.AllOrNothing (c.beginTxn now database table label timeoutSecs)
      fun o => Registry.AgreeExcept o.txnId := by
  refine Session.allOrNothing_of_replay ?_ ?_
  · intro s outcomes f s' h
    exact (replay_beginTxn h).2
  · intro s outcomes o s' h
    rw [(replay_beginTxn h).2]
    exact Registry.agreeExcept_track s.leases o database table now timeoutSecs c.grace

theorem endTxn_allOrNothing (ending : Client.Ending) (database : String) (txnId : Int) :
    Session.AllOrNothing (c.endTxn ending database txnId)
      fun _ => Registry.RemarkedAt txnId ending.state := by
  refine Session.allOrNothing_of_replay ?_ ?_
  · intro s outcomes f s' h
    exact (replay_endTxn h).2
  · intro s outcomes u s' h
    rw [(replay_endTxn h).2]
    exact Registry.remarkedAt_mark s.leases txnId ending.state

/-- **Ends of two transactions may change places**, if each has the same replies both times. Whose
turn it is may differ, so that a frontend may have another end to deal with. -/
theorem endTxn_comm {a b : Client.Ending} {database database' : String} {n m : Int} (hne : n ≠ m)
    {replies replies' : List Outcome} {s s₁ s₂ t t₁ t₂ : Session}
    {x x' y y' : Except Fault Unit} (hst : s.leases = t.leases)
    (hs₁ : ((c.endTxn a database n).run s).replay replies = some (x, s₁))
    (hs₂ : ((c.endTxn b database' m).run s₁).replay replies' = some (y, s₂))
    (ht₁ : ((c.endTxn b database' m).run t).replay replies' = some (y', t₁))
    (ht₂ : ((c.endTxn a database n).run t₁).replay replies = some (x', t₂)) :
    s₂.leases = t₂.leases := by
  obtain ⟨hx, hs₁⟩ := replay_endTxn hs₁
  obtain ⟨hy, hs₂⟩ := replay_endTxn hs₂
  obtain ⟨hy', ht₁⟩ := replay_endTxn ht₁
  obtain ⟨hx', ht₂⟩ := replay_endTxn ht₂
  have hxx' : x = .ok () ↔ x' = .ok () :=
    (Client.replay_endTxn_ok_iff hx).trans (Client.replay_endTxn_ok_iff hx').symm
  have hyy' : y = .ok () ↔ y' = .ok () :=
    (Client.replay_endTxn_ok_iff hy).trans (Client.replay_endTxn_ok_iff hy').symm
  calc s₂.leases
      = b.settle (a.settle s.leases n x) m y := by rw [hs₂, hs₁]
    _ = a.settle (b.settle s.leases m y) n x := Client.Ending.settle_comm a b s.leases hne x y
    _ = a.settle (b.settle t.leases m y') n x' := by
        rw [hst, b.settle_congr t.leases m hyy', a.settle_congr _ n hxx']
    _ = t₂.leases := by rw [ht₂, ht₁]

end Coordinator

/-- A transaction with a table begins as any other. -/
theorem LoadTransaction.start_allOrNothing {c : Coordinator} (now : Instant)
    (database table label : String) (timeoutSecs : Nat) :
    Session.AllOrNothing (LoadTransaction.start c now database table label timeoutSecs)
      fun t => Registry.AgreeExcept t.outcome.txnId := by
  have hbegin : Session.AllOrNothing (c.beginTxn now database table label timeoutSecs)
      fun o => Registry.AgreeExcept (LoadTransaction.mk database table o).outcome.txnId :=
    Coordinator.beginTxn_allOrNothing now database table label timeoutSecs
  exact Session.AllOrNothing.map (f := LoadTransaction.mk database table) hbegin

/-! ## Operations on one transaction -/

/-- **Operations are all or nothing and touch one lease.** On every network, a begin, a commit or an
abort, with or without a table, that fails leaves the leases as they were. A begin that succeeds
changes no lease but that of its transaction; a commit or an abort adds and drops none, and changes
nothing but the state of that of its transaction. So commits and aborts of two transactions, each
with replies of its own, lead to the same leases in either order. -/
theorem operations_touch_one_lease (c : Coordinator) :
    (∀ now database table label timeoutSecs,
      Session.AllOrNothing (c.beginTxn now database table label timeoutSecs)
        fun o => Registry.AgreeExcept o.txnId) ∧
    (∀ now database table label timeoutSecs,
      Session.AllOrNothing (LoadTransaction.start c now database table label timeoutSecs)
        fun t => Registry.AgreeExcept t.outcome.txnId) ∧
    (∀ (ending : Client.Ending) database txnId,
      Session.AllOrNothing (c.endTxn ending database txnId)
        fun _ => Registry.RemarkedAt txnId ending.state) ∧
    (∀ (t : LoadTransaction) (ending : Client.Ending),
      Session.AllOrNothing (t.finish c ending)
        fun _ => Registry.RemarkedAt t.outcome.txnId ending.state) ∧
    ∀ (a b : Client.Ending) database database' (n m : Int) replies replies'
      (s s₁ s₂ t t₁ t₂ : Session) x x' y y', n ≠ m → s.leases = t.leases →
      ((c.endTxn a database n).run s).replay replies = some (x, s₁) →
      ((c.endTxn b database' m).run s₁).replay replies' = some (y, s₂) →
      ((c.endTxn b database' m).run t).replay replies' = some (y', t₁) →
      ((c.endTxn a database n).run t₁).replay replies = some (x', t₂) →
      s₂.leases = t₂.leases := by
  refine ⟨?begins, ?starts, ?ends, ?finishes, ?order⟩
  case begins => exact Coordinator.beginTxn_allOrNothing
  case starts =>
    intro now database table label timeoutSecs
    exact LoadTransaction.start_allOrNothing now database table label timeoutSecs
  case ends =>
    intro ending database txnId
    exact Coordinator.endTxn_allOrNothing ending database txnId
  case finishes =>
    intro t ending
    rw [LoadTransaction.finish_eq]
    exact Coordinator.endTxn_allOrNothing ending t.database t.outcome.txnId
  case order =>
    intro a b database database' n m replies replies' s s₁ s₂ t t₁ t₂ x x' y y' hne hst
    exact Coordinator.endTxn_comm hne hst

namespace Sample

/-- The leases of two transactions that are open. -/
def twoOpen : Registry :=
  ((SortedMap.empty : Registry).insert 7
      (Registry.freshLease ⟨7, "job", false⟩ "logs" "app" ⟨0, 0⟩ 60 0)).insert 8
    (Registry.freshLease ⟨8, "rest", false⟩ "logs" "app" ⟨0, 0⟩ 60 0)

/-- One transaction is committed. -/
def commitJob : SessionM (Except Fault Unit) := (coordinator 0).endTxn .commit "logs" 7

/-- The other one is aborted. -/
def abortRest : SessionM (Except Fault Unit) := (coordinator 0).endTxn .abort "logs" 8

def success : List Outcome := answer "\x7b\"Status\":\"Success\"\x7d"

/-- What the registry says after two ends in turn. -/
def statesAfter (first second : SessionM (Except Fault Unit)) : Option (List TxnState) :=
  ((first.run ⟨turn, twoOpen⟩).replay success).bind fun p =>
    ((second.run p.2).replay success).map fun q => q.2.leases.values.map Lease.state

end Sample

/-- A commit and an abort in both orders. -/
theorem operations_touch_one_lease_of_twoOpen :
    ∃ p q p' q' : Except Fault Unit × Session,
      (Sample.commitJob.run ⟨Sample.turn, Sample.twoOpen⟩).replay Sample.success = some p ∧
      (Sample.abortRest.run p.2).replay Sample.success = some q ∧
      (Sample.abortRest.run ⟨Sample.turn, Sample.twoOpen⟩).replay Sample.success = some p' ∧
      (Sample.commitJob.run p'.2).replay Sample.success = some q' ∧
      q.2.leases = q'.2.leases ∧
      q.2.leases.values.map Lease.state = [.committed, .aborted] := by
  have hfirst : Sample.statesAfter Sample.commitJob Sample.abortRest =
      some [.committed, .aborted] := by decide +kernel
  have hsecond : Sample.statesAfter Sample.abortRest Sample.commitJob =
      some [.committed, .aborted] := by decide +kernel
  obtain ⟨⟨x, s₁⟩, hs₁, hfirst⟩ := Option.bind_eq_some_iff.1 hfirst
  obtain ⟨⟨y, s₂⟩, hs₂, hstates⟩ := Option.map_eq_some_iff.1 hfirst
  obtain ⟨⟨y', t₁⟩, ht₁, hsecond⟩ := Option.bind_eq_some_iff.1 hsecond
  obtain ⟨⟨x', t₂⟩, ht₂, -⟩ := Option.map_eq_some_iff.1 hsecond
  exact ⟨(x, s₁), (y, s₂), (y', t₁), (x', t₂), hs₁, hs₂, ht₁, ht₂,
    (operations_touch_one_lease (Sample.coordinator 0)).2.2.2.2 .commit .abort "logs" "logs" 7 8
      _ _ _ _ _ _ _ _ _ _ _ _ (by decide) rfl hs₁ hs₂ ht₁ ht₂, hstates⟩

end StoreGate
