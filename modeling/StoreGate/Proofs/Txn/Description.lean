import StoreGate.Proofs.Txn.Provenance
import StoreGate.Proofs.Txn.Stretch

/-!
# What a lease says of its transaction

A sweep knows of a transaction what its lease says: the database to address, and when it is late.
The lease is filled in by the first begin that finds no lease of the number. A later begin that is
new to the engine renews its state and its expiry, and leaves all the rest.

* `describes_iff` — exactly when a lease describes the transaction that was begun last, and which
  database the aborts of sweeps address.
* `second_begin_misdescribed` — a sweep may address the database of another transaction.
-/

namespace StoreGate

/-! ## Descriptions -/

/-- What a lease says of its transaction, its state apart. -/
structure Description where
  database : String
  table : String
  label : String
  beganAt : Instant
  expiresAt : Instant
deriving DecidableEq, Repr

namespace Lease

def description (l : Lease) : Description := ⟨l.database, l.table, l.label, l.beganAt, l.expiresAt⟩

end Lease

namespace Grant

/-- What a lease has to say of the transaction as it was asked for. -/
def description (g : Grant) (now : Instant) (grace : Span) : Description :=
  ⟨g.call.database, g.call.table, g.call.label, now, Lease.expiry now g.call.timeoutSecs grace⟩

/-- A lease that is there already says the same of the transaction, its expiry apart. -/
def Agrees (g : Grant) (now : Instant) (known : Option Lease) : Prop :=
  ∀ k, known = some k → k.database = g.call.database ∧ k.table = g.call.table ∧
    k.label = g.call.label ∧ k.beganAt = now

end Grant

/-- The lease is so described, if there is one. -/
def Describes (d : Description) (known : Option Lease) : Prop :=
  ∀ l, known = some l → l.description = d

/-- **A begin that is new to the engine** leaves a lease that describes it exactly if it finds none,
or one that says the same. -/
theorem Grant.describes_lease_iff {g : Grant} {known : Option Lease} {now : Instant} {grace : Span}
    (hfresh : g.outcome.reused = false) (hlabel : g.outcome.label = g.call.label) :
    Describes (g.description now grace) (some (g.lease known now grace)) ↔ g.Agrees now known := by
  cases known with
  | none =>
      simp [Describes, Agrees, Grant.lease, Registry.freshLease, Lease.description, description,
        hlabel]
  | some k =>
      simp [Describes, Agrees, Grant.lease, Registry.trackedLease_some_fresh k hfresh,
        Lease.description, description]

namespace Event

/-- A transaction of this number that is new to the engine is recorded. -/
def RecordsFresh (n : Int) : Event → Prop
  | recorded g _ => g.IsFresh n
  | _ => False

instance (n : Int) (e : Event) : Decidable (e.RecordsFresh n) :=
  match e with
  | recorded g _ => inferInstanceAs (Decidable (g.IsFresh n))
  | beginAnswered _ _ _ _ | endAnswered _ _ _ _ _ _ | marked _ _ _ | sweepStarted _ _
  | sweepAnswered _ _ _ _ _ => inferInstanceAs (Decidable False)

/-- A transaction of this number is recorded that is under way and has no lease any more, and it is
described otherwise. -/
def Redescribes (n : Int) (d : Description) (grace : Span) (e : Event) (known : Option Lease) :
    Prop :=
  match e with
  | recorded g now =>
    g.outcome.txnId = n ∧ known = none ∧ (g.lease none now grace).description ≠ d
  | _ => False

/-- **One event** keeps a description unless it describes the transaction otherwise. -/
theorem describes_changeLease_iff {e : Event} {grace : Span} {n : Int} {d : Description}
    {known : Option Lease} (hfresh : ¬ e.RecordsFresh n) (hknown : Describes d known) :
    Describes d (e.changeLease grace n known) ↔ ¬ e.Redescribes n d grace known := by
  cases e with
  | recorded g now =>
      simp only [changeLease, Redescribes]
      by_cases hn : g.outcome.txnId = n
      · have hr : g.outcome.reused = true := by
          by_contra hr
          exact hfresh ⟨hn, by simpa using hr⟩
        cases known with
        | none => simp [hn, Describes]
        | some k =>
            have hk : k.description = d := hknown k rfl
            simp [hn, Describes, Grant.lease, Registry.trackedLease_some_reused k hr, hk]
      · simpa [hn] using hknown
  | marked ending txnId rest =>
      simp only [changeLease, Redescribes, not_false_iff, iff_true]
      split
      · intro l hl
        obtain ⟨k, hk, rfl⟩ := Option.map_eq_some_iff.1 hl
        exact hknown k hk
      · exact hknown
  | sweepStarted now order =>
      simp only [changeLease, Redescribes, not_false_iff, iff_true]
      intro l hl
      exact hknown l (Option.filter_eq_some_iff.1 hl).1
  | beginAnswered turn call replies result => simpa [changeLease, Redescribes] using hknown
  | endAnswered turn ending database txnId replies result =>
      simpa [changeLease, Redescribes] using hknown
  | sweepAnswered turn lease rest replies result =>
      simpa [changeLease, Redescribes] using hknown

end Event

/-! ## Leases that sweeps have listed -/

namespace Event

/-- A lease that is to be aborted after an event was taken from the registry, or it was on the list
of the task that the event does. -/
theorem listed_newTasks {e : Event} {r : Registry} {task : Task} {l : Lease}
    (h : task ∈ e.newTasks r) (hl : l ∈ task.listed) :
    (∃ n, r.get? n = some l) ∨ ∃ done ∈ e.task?, l ∈ done.listed := by
  cases e with
  | beginAnswered turn call replies result =>
      cases result with
      | error f => cases h
      | ok o =>
          obtain rfl := List.mem_singleton.1 h
          cases hl
  | endAnswered turn ending database txnId replies result =>
      cases result with
      | error f => cases h
      | ok u =>
          obtain rfl := List.mem_singleton.1 h
          cases hl
  | sweepAnswered turn lease rest replies result =>
      refine Or.inr ⟨_, rfl, List.mem_cons_of_mem _ ?_⟩
      cases result with
      | error f =>
          obtain ⟨-, rfl⟩ := Task.mem_sweepOf.1 h
          exact hl
      | ok u =>
          obtain rfl := List.mem_singleton.1 h
          exact hl
  | marked ending txnId rest =>
      obtain ⟨-, rfl⟩ := Task.mem_sweepOf.1 h
      exact Or.inr ⟨_, rfl, hl⟩
  | sweepStarted now order =>
      obtain ⟨-, rfl⟩ := Task.mem_sweepOf.1 h
      obtain ⟨⟨n, hn⟩, -⟩ := (Registry.mem_expired_iff _ now l).1 (order.mem_arrange.1 hl)
      rw [Registry.get?_dropSpent] at hn
      exact Or.inl ⟨n, (Option.filter_eq_some_iff.1 hn).1⟩
  | recorded g now => cases h

end Event

namespace Traffic

variable {c : Coordinator} {t u v : Traffic} {es : List Event}

/-- **Whatever a sweep has to abort** was on a list at the start of the run, or it was a lease of
the registry at some point of it. -/
theorem lists_of_run? {l : Lease} (h : u.run? c es = some v) (hl : v.Lists l) :
    u.Lists l ∨ ∃ pre s n, pre <+: es ∧ u.run? c pre = some s ∧ s.leases.get? n = some l := by
  refine run_induction (motive := fun es v => v.Lists l → u.Lists l ∨
      ∃ pre s n, pre <+: es ∧ u.run? c pre = some s ∧ s.leases.get? n = some l) Or.inl ?_ h hl
  intro es s e v hs ih hstep hl
  have hlater : s.Lists l → u.Lists l ∨
      ∃ pre s n, pre <+: es ++ [e] ∧ u.run? c pre = some s ∧ s.leases.get? n = some l := by
    intro hl
    rcases ih hl with hold | ⟨pre, s', n, hpre, hs', hn⟩
    · exact Or.inl hold
    · exact Or.inr ⟨pre, s', n, hpre.trans (List.prefix_append es [e]), hs', hn⟩
  obtain ⟨task, htask, hmem⟩ := hl
  rcases mem_tasks_of_step? hstep htask with hnew | hold
  · rcases Event.listed_newTasks hnew hmem with ⟨n, hn⟩ | ⟨done, hdone, hmem'⟩
    · exact Or.inr ⟨es, s, n, List.prefix_append es [e], hs, hn⟩
    · exact hlater ⟨done, task_mem_of_step? hstep hdone, hmem'⟩
  · exact hlater ⟨task, hold, hmem⟩

end Traffic

/-! ## Described leases of a run -/

/-- From `u` on, and until a transaction of the same number that is new to the engine is recorded,
the lease describes the transaction as it was asked for, whenever there is one. -/
def StaysDescribed (c : Coordinator) (u : Traffic) (g : Grant) (now : Instant) (es : List Event) :
    Prop :=
  u.Throughout c g.outcome.txnId es (Event.RecordsFresh g.outcome.txnId)
    (Describes (g.description now c.grace))

/-- Before a transaction of this number that is new to the engine is recorded, a sweep asks the
engine to abort the lease, which is one of this number. -/
def Swept (n : Int) (es : List Event) (l : Lease) : Prop :=
  l.txnId = n ∧ ∃ pre turn rest replies result,
    pre ++ [.sweepAnswered turn l rest replies result] <+: es ∧ ∀ e ∈ pre, ¬ e.RecordsFresh n

/-- The label of a transaction that is new to the engine is the one that was asked for. -/
theorem Traffic.label_of_fresh {c : Coordinator} {es : List Event} {t : Traffic} {g : Grant}
    (h : idle.run? c es = some t) (hmem : Task.record g ∈ t.tasks)
    (hfresh : g.outcome.reused = false) : g.outcome.label = g.call.label := by
  obtain ⟨turn, replies, hbegin⟩ := (Provenance.of_run h).record g hmem
  obtain ⟨-, r, -, ho⟩ := Client.replay_beginTxn_ok (isGenuine_of_run? h hbegin)
  exact TxnReply.label_of_fresh ho hfresh

/-- A lease that a sweep aborts, and that was on no list at the start, is described as the lease of
its number is all along. -/
theorem StaysDescribed.description_of_swept {c : Coordinator} {past es : List Event}
    {u v : Traffic} {g : Grant} {now : Instant} {l : Lease} (hstays : StaysDescribed c u g now es)
    (hpast : Traffic.idle.run? c past = some u) (hes : u.run? c es = some v)
    (hswept : Swept g.outcome.txnId es l) (hlists : ¬ u.Lists l) :
    l.description = g.description now c.grace := by
  obtain ⟨htxnId, pre, turn, rest, replies, result, hpre, hending⟩ := hswept
  obtain ⟨w, hw⟩ := Traffic.run?_of_prefix hes hpre
  obtain ⟨s, hs, hstep⟩ := Traffic.run?_concat_eq_some.1 hw
  have htask : Task.sweep (l :: rest) ∈ s.tasks := Traffic.task_mem_of_step? hstep rfl
  rcases Traffic.lists_of_run? hs ⟨_, htask, List.mem_cons_self ..⟩ with
    hold | ⟨before, s', n, hbefore, hs', hn⟩
  · exact absurd hold hlists
  · have hp : Provenance (past ++ before) s' :=
      Provenance.of_run (Traffic.run?_append_eq_some.2 ⟨u, hpast, hs'⟩)
    have hl : s'.leases.get? g.outcome.txnId = some l := by
      rw [← htxnId, hp.txnId n l hn]
      exact hn
    exact hstays before s' (hbefore.trans ((List.prefix_append pre _).trans hpre))
      (fun e he => hending e (hbefore.subset he)) hs' l hl

/-- **When a lease describes its transaction.** After a transaction that is new to the engine is
recorded, and until the next one of the same number is, its lease describes it as it was asked for,
whenever there is one, and every abort that a sweep sends for the number names its database, exactly
if a lease that the begin finds says the same, no transaction under way is recorded with another
description once a sweep has dropped the lease, and the aborts of the number that a sweep had listed
before name the database too. -/
theorem describes_iff {c : Coordinator} {past es : List Event} {t u v : Traffic} {g : Grant}
    {now : Instant} (hrun : Traffic.idle.run? c past = some t)
    (hstep : t.step? c (.recorded g now) = some u) (hfresh : g.outcome.reused = false)
    (hes : u.run? c es = some v) :
    (StaysDescribed c u g now es ∧
        ∀ l, Swept g.outcome.txnId es l → l.database = g.call.database) ↔
      g.Agrees now (t.leases.get? g.outcome.txnId) ∧
        u.Unbroken c g.outcome.txnId es (Event.RecordsFresh g.outcome.txnId)
          (Event.Redescribes g.outcome.txnId (g.description now c.grace) c.grace) ∧
        ∀ l, Swept g.outcome.txnId es l → u.Lists l → l.database = g.call.database := by
  have hrecord : Task.record g ∈ t.tasks := Traffic.task_mem_of_step? hstep rfl
  have hu : Traffic.idle.run? c (past ++ [.recorded g now]) = some u :=
    Traffic.run?_concat_eq_some.2 ⟨t, hrun, hstep⟩
  have hstays : StaysDescribed c u g now es ↔ g.Agrees now (t.leases.get? g.outcome.txnId) ∧
      u.Unbroken c g.outcome.txnId es (Event.RecordsFresh g.outcome.txnId)
        (Event.Redescribes g.outcome.txnId (g.description now c.grace) c.grace) := by
    rw [StaysDescribed, Traffic.throughout_iff hes
      fun e known hending hknown => Event.describes_changeLease_iff hending hknown,
      Traffic.get?_of_recorded hstep,
      Grant.describes_lease_iff hfresh (Traffic.label_of_fresh hrun hrecord hfresh)]
  rw [hstays, and_assoc]
  refine and_congr_right fun hagrees => and_congr_right fun hunbroken => ?_
  constructor
  · intro h l hswept _
    exact h l hswept
  · intro h l hswept
    by_cases hlists : u.Lists l
    · exact h l hswept hlists
    · exact congrArg Description.database
        ((hstays.2 ⟨hagrees, hunbroken⟩).description_of_swept hu hes hswept hlists)

namespace Sample

/-- The open lease of a transaction that was begun at instant zero. -/
def openLease (n : Int) (call : BeginCall) (expiresAt : Instant) : Lease :=
  ⟨n, call.label, call.database, call.table, .begun, ⟨0, 0⟩, expiresAt⟩

/-- A sweep that finds one lease and aborts it. -/
def sweepEvents (l : Lease) : List Event :=
  [.sweepStarted l.expiresAt .byNumber,
    .sweepAnswered turn l [] (answer "\x7b\"Status\":\"Success\"\x7d") (.ok ())]

/-- The lease is swept in the second event. -/
theorem swept_sweepEvents (l : Lease) : Swept l.txnId (sweepEvents l) l :=
  ⟨rfl, [.sweepStarted l.expiresAt .byNumber], turn, [],
    answer "\x7b\"Status\":\"Success\"\x7d", .ok (), List.prefix_rfl, by simp [Event.RecordsFresh]⟩

end Sample

/-- A transaction that nobody ends is described by its lease until it is swept. -/
theorem describes_of_job :
    ∃ t u v, Traffic.idle.run? (Sample.coordinator 0) [Sample.jobAnswered] = some t ∧
      t.step? (Sample.coordinator 0) (.recorded Sample.job ⟨0, 0⟩) = some u ∧
      u.run? (Sample.coordinator 0)
        (Sample.sweepEvents (Sample.openLease 7 Sample.job.call ⟨60, 0⟩)) = some v ∧
      StaysDescribed (Sample.coordinator 0) u Sample.job ⟨0, 0⟩
        (Sample.sweepEvents (Sample.openLease 7 Sample.job.call ⟨60, 0⟩)) := by
  have hrun : ((Traffic.idle.run? (Sample.coordinator 0) [Sample.jobAnswered]).bind fun t =>
      (t.step? (Sample.coordinator 0) (.recorded Sample.job ⟨0, 0⟩)).bind fun u =>
        (u.run? (Sample.coordinator 0)
          (Sample.sweepEvents (Sample.openLease 7 Sample.job.call ⟨60, 0⟩))).map fun _ =>
            (t.leases.get? 7, u.tasks)) = some (none, []) := by decide +kernel
  obtain ⟨t, ht, hrun⟩ := Option.bind_eq_some_iff.1 hrun
  obtain ⟨u, hu, hrun⟩ := Option.bind_eq_some_iff.1 hrun
  obtain ⟨v, hv, hrun⟩ := Option.map_eq_some_iff.1 hrun
  obtain ⟨hnone, htasks⟩ := Prod.mk.inj hrun
  refine ⟨t, u, v, ht, hu, hv, ((describes_iff ht hu rfl hv).2 ⟨?_, ?_, ?_⟩).1⟩
  · intro k hk
    rw [show t.leases.get? Sample.job.outcome.txnId = none from hnone] at hk
    cases hk
  · intro pre e s hpre _ _
    have hmem : e ∈ Sample.sweepEvents (Sample.openLease 7 Sample.job.call ⟨60, 0⟩) :=
      hpre.subset (by simp)
    rcases List.mem_cons.1 hmem with rfl | hmem
    · exact id
    · obtain rfl := List.mem_singleton.1 hmem
      exact id
  · rintro l - ⟨task, htask, -⟩
    rw [htasks] at htask
    cases htask

namespace Sample

/-- A transaction that the engine grants without a number. -/
def unnumbered (call : BeginCall) : Grant := ⟨call, ⟨0, call.label, false⟩⟩

def unnumberedAnswered (call : BeginCall) : Event :=
  .beginAnswered turn call (answer "\x7b\"Status\":\"Success\"\x7d") (.ok (unnumbered call).outcome)

def first : BeginCall := ⟨"logs", "app", "a", 1⟩

def second : BeginCall := ⟨"metrics", "cpu", "b", 0⟩

end Sample

/-- **A second begin is described as the first one**: the engine grants both without a number, so
that both have the number zero. The sweep that comes for the second addresses the database of the
first. -/
theorem second_begin_misdescribed :
    ∃ t u v l, Traffic.idle.run? (Sample.coordinator 0)
        [Sample.unnumberedAnswered Sample.first, .recorded (Sample.unnumbered Sample.first) ⟨0, 0⟩,
          Sample.unnumberedAnswered Sample.second] = some t ∧
      t.step? (Sample.coordinator 0) (.recorded (Sample.unnumbered Sample.second) ⟨1, 0⟩) = some u ∧
      u.run? (Sample.coordinator 0) (Sample.sweepEvents l) = some v ∧
      ¬ StaysDescribed (Sample.coordinator 0) u (Sample.unnumbered Sample.second) ⟨1, 0⟩
        (Sample.sweepEvents l) ∧
      Swept 0 (Sample.sweepEvents l) l ∧ l.database ≠ Sample.second.database := by
  have hrun : ((Traffic.idle.run? (Sample.coordinator 0)
      [Sample.unnumberedAnswered Sample.first, .recorded (Sample.unnumbered Sample.first) ⟨0, 0⟩,
        Sample.unnumberedAnswered Sample.second]).bind fun t =>
      (t.step? (Sample.coordinator 0) (.recorded (Sample.unnumbered Sample.second) ⟨1, 0⟩)).bind
        fun u => (u.run? (Sample.coordinator 0)
          (Sample.sweepEvents (Sample.openLease 0 Sample.first ⟨1, 0⟩))).bind fun _ =>
            (u.leases.get? 0).map Lease.database) = some "logs" := by decide +kernel
  obtain ⟨t, ht, hrun⟩ := Option.bind_eq_some_iff.1 hrun
  obtain ⟨u, hu, hrun⟩ := Option.bind_eq_some_iff.1 hrun
  obtain ⟨v, hv, hrun⟩ := Option.bind_eq_some_iff.1 hrun
  obtain ⟨k, hk, hdatabase⟩ := Option.map_eq_some_iff.1 hrun
  refine ⟨t, u, v, Sample.openLease 0 Sample.first ⟨1, 0⟩, ht, hu, hv, ?_,
    Sample.swept_sweepEvents _, by decide⟩
  intro hstays
  have hdescription := hstays [] u (List.nil_prefix) (by simp) rfl k hk
  have hmetrics : k.database = "metrics" := congrArg Description.database hdescription
  exact absurd (hdatabase.symm.trans hmetrics) (by decide)

end StoreGate
