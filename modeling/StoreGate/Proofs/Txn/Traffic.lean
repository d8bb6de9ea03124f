import Mathlib.Control.Monad.Basic
import Mathlib.Data.List.Induction
import StoreGate.Proofs.Engine.Transaction
import StoreGate.Proofs.Txn.Registry
import StoreGate.Txn.Coordinator

/-!
# Operations side by side

Many callers share one coordinator. Each of their operations first has its answer from the engine
and changes the registry later, and between the two anything may happen to the registry. `Traffic`
is the registry together with the tasks that operations have still to do; an `Event` is one step of
one operation, with everything it depends on: whose turn it was, what the network made of the
requests, what time it was, and in which order a sweep takes what it has listed.

* `Traffic.step?`, `Traffic.run?` — what one event and what a list of events make of the traffic.
* `Traffic.step?_eq_some` — everything that an event can do.
* `Event.get?_change` — what an event does to the lease of one transaction.
-/

namespace StoreGate

/-! ## Tasks -/

/-- A begin as its caller asks for it. -/
structure BeginCall where
  database : String
  table : String
  label : String
  timeoutSecs : Nat
deriving DecidableEq, Repr

/-- A begin that the engine has granted. -/
structure Grant where
  call : BeginCall
  outcome : BeginOutcome
deriving DecidableEq, Repr

namespace Grant

/-- The transaction has this number and is new to the engine. -/
def IsFresh (g : Grant) (n : Int) : Prop := g.outcome.txnId = n ∧ g.outcome.reused = false

instance (g : Grant) (n : Int) : Decidable (g.IsFresh n) :=
  inferInstanceAs (Decidable (_ ∧ _))

/-- The lease of the transaction after it is recorded. -/
def lease (g : Grant) (known : Option Lease) (now : Instant) (grace : Span) : Lease :=
  Registry.trackedLease known g.outcome g.call.database g.call.table now g.call.timeoutSecs grace

/-- The registry after the transaction is recorded. -/
def record (g : Grant) (r : Registry) (now : Instant) (grace : Span) : Registry :=
  r.track g.outcome g.call.database g.call.table now g.call.timeoutSecs grace

end Grant

/-- The registry after a begin is over: what the engine has granted is recorded. -/
def BeginCall.settle (call : BeginCall) (r : Registry) (now : Instant) (grace : Span) :
    Except Fault BeginOutcome → Registry
  | .ok o => (Grant.mk call o).record r now grace
  | .error _ => r

/-- The registry after an end is over: what the engine has taken is marked. -/
def Client.Ending.settle (ending : Client.Ending) (r : Registry) (txnId : Int) :
    Except Fault Unit → Registry
  | .ok () => r.mark txnId ending.state
  | .error _ => r

/-- What an operation has still to do. -/
inductive Task where
  /-- The granted transaction has to be recorded. -/
  | record (g : Grant)
  /-- The end that the engine has taken has to be marked; a sweep goes on with the rest. -/
  | mark (ending : Client.Ending) (txnId : Int) (rest : List Lease)
  /-- The leases have to be aborted. -/
  | sweep (leases : List Lease)
deriving DecidableEq, Repr

namespace Task

/-- The task of a sweep that has these leases left; a sweep that has none is over. -/
def sweepOf : List Lease → List Task
  | [] => []
  | l :: rest => [sweep (l :: rest)]

theorem mem_sweepOf {leases : List Lease} {task : Task} :
    task ∈ sweepOf leases ↔ leases ≠ [] ∧ task = sweep leases := by
  cases leases with
  | nil => simp [sweepOf]
  | cons l rest => simp [sweepOf]

/-- The leases that are still to be aborted in a task. -/
def listed : Task → List Lease
  | record _ => []
  | mark _ _ rest => rest
  | sweep leases => leases

end Task

/-! ## Events -/

/-- An order in which a sweep takes the leases that it has listed. -/
structure Arrangement where
  arrange : List Lease → List Lease
  perm : ∀ leases, (arrange leases).Perm leases

namespace Arrangement

/-- By number, as the registry lists them. -/
def byNumber : Arrangement := ⟨id, fun _ => .refl _⟩

theorem mem_arrange (order : Arrangement) {leases : List Lease} {l : Lease} :
    l ∈ order.arrange leases ↔ l ∈ leases := (order.perm leases).mem_iff

end Arrangement

/-- One step of an operation. -/
inductive Event where
  /-- The engine has answered a begin. -/
  | beginAnswered (turn : Turn) (call : BeginCall) (replies : List Outcome)
      (result : Except Fault BeginOutcome)
  /-- A granted transaction is recorded. -/
  | recorded (g : Grant) (now : Instant)
  /-- The engine has answered a commit or an abort. -/
  | endAnswered (turn : Turn) (ending : Client.Ending) (database : String) (txnId : Int)
      (replies : List Outcome) (result : Except Fault Unit)
  /-- An end that the engine has taken is marked. -/
  | marked (ending : Client.Ending) (txnId : Int) (rest : List Lease)
  /-- A sweep drops the spent leases and lists the expired ones, in an order of its own. -/
  | sweepStarted (now : Instant) (order : Arrangement)
  /-- The engine has answered the abort of the first of the leases that a sweep has left. -/
  | sweepAnswered (turn : Turn) (lease : Lease) (rest : List Lease) (replies : List Outcome)
      (result : Except Fault Unit)

namespace Event

/-- What the event tells of the engine is what the client's exchange comes to. -/
def IsGenuine (c : Coordinator) : Event → Prop
  | beginAnswered turn call replies result =>
    (c.client.beginTxn none call.database call.table call.label call.timeoutSecs turn).1.replay
      replies = some result
  | endAnswered turn ending database txnId replies result =>
    (c.client.endTxn none ending database txnId turn).1.replay replies = some result
  | sweepAnswered turn lease _ replies result =>
    (c.client.endTxn none .abort lease.database lease.txnId turn).1.replay replies = some result
  | recorded _ _ | marked _ _ _ | sweepStarted _ _ => True

instance (c : Coordinator) (e : Event) : Decidable (e.IsGenuine c) :=
  match e with
  | beginAnswered _ _ _ _ | endAnswered _ _ _ _ _ _ | sweepAnswered _ _ _ _ _ =>
    inferInstanceAs (Decidable (_ = _))
  | recorded _ _ | marked _ _ _ | sweepStarted _ _ => inferInstanceAs (Decidable True)

/-- The task that is done with the event. -/
def task? : Event → Option Task
  | recorded g _ => some (.record g)
  | marked ending txnId rest => some (.mark ending txnId rest)
  | sweepAnswered _ lease rest _ _ => some (.sweep (lease :: rest))
  | beginAnswered _ _ _ _ | endAnswered _ _ _ _ _ _ | sweepStarted _ _ => none

/-- The tasks that come of the event. -/
def newTasks (r : Registry) : Event → List Task
  | beginAnswered _ call _ (.ok o) => [.record ⟨call, o⟩]
  | endAnswered _ ending _ txnId _ (.ok ()) => [.mark ending txnId []]
  | sweepAnswered _ lease rest _ (.ok ()) => [.mark .abort lease.txnId rest]
  | sweepAnswered _ _ rest _ (.error _) => Task.sweepOf rest
  | marked _ _ rest => Task.sweepOf rest
  | sweepStarted now order => Task.sweepOf (order.arrange ((r.dropSpent now).expired now))
  | beginAnswered _ _ _ (.error _) | endAnswered _ _ _ _ _ (.error _) | recorded _ _ => []

/-- The registry after the event. -/
def change (grace : Span) (r : Registry) : Event → Registry
  | recorded g now => g.record r now grace
  | marked ending txnId _ => r.mark txnId ending.state
  | sweepStarted now _ => r.dropSpent now
  | beginAnswered _ _ _ _ | endAnswered _ _ _ _ _ _ | sweepAnswered _ _ _ _ _ => r

/-- The lease of one transaction after the event. -/
def changeLease (grace : Span) (n : Int) (known : Option Lease) : Event → Option Lease
  | recorded g now => if g.outcome.txnId = n then some (g.lease known now grace) else known
  | marked ending txnId _ =>
    if n = txnId then known.map fun l => { l with state := ending.state } else known
  | sweepStarted now _ => known.filter fun l => !l.isSpent now
  | beginAnswered _ _ _ _ | endAnswered _ _ _ _ _ _ | sweepAnswered _ _ _ _ _ => known

/-- **An event changes each lease on its own**: what becomes of the lease of a transaction depends
on no other lease. -/
theorem get?_change (e : Event) (grace : Span) (r : Registry) (n : Int) :
    (e.change grace r).get? n = e.changeLease grace n (r.get? n) := by
  cases e with
  | recorded g now =>
      rw [change, Grant.record, Registry.get?_track, changeLease]
      by_cases h : g.outcome.txnId = n
      · rw [if_pos h, if_pos h, h]
        rfl
      · rw [if_neg h, if_neg h]
  | marked ending txnId rest => exact Registry.get?_mark r txnId ending.state n
  | sweepStarted now order => exact Registry.get?_dropSpent r now n
  | beginAnswered turn call replies result => rfl
  | endAnswered turn ending database txnId replies result => rfl
  | sweepAnswered turn lease rest replies result => rfl

/-- **Everything that an event can make of a lease**: what a begin makes of it, the state that an
end gives it, or nothing. -/
theorem changeLease_eq_some {e : Event} {grace : Span} {n : Int} {known : Option Lease} {l : Lease}
    (h : e.changeLease grace n known = some l) :
    (∃ g now, e = .recorded g now ∧ g.outcome.txnId = n ∧ l = g.lease known now grace) ∨
      (∃ ending rest k, e = .marked ending n rest ∧ known = some k ∧
        l = { k with state := ending.state }) ∨
      known = some l := by
  cases e with
  | recorded g now =>
      simp only [changeLease] at h
      split at h
      · next hn => exact Or.inl ⟨g, now, rfl, hn, (Option.some.inj h).symm⟩
      · exact Or.inr (Or.inr h)
  | marked ending txnId rest =>
      simp only [changeLease] at h
      split at h
      · next hn =>
        obtain ⟨k, hk, hl⟩ := Option.map_eq_some_iff.1 h
        exact Or.inr (Or.inl ⟨ending, rest, k, by rw [hn], hk, hl.symm⟩)
      · exact Or.inr (Or.inr h)
  | sweepStarted now order => exact Or.inr (Or.inr (Option.filter_eq_some_iff.1 h).1)
  | beginAnswered turn call replies result => exact Or.inr (Or.inr h)
  | endAnswered turn ending database txnId replies result => exact Or.inr (Or.inr h)
  | sweepAnswered turn lease rest replies result => exact Or.inr (Or.inr h)

/-- **A lease is dropped by a sweep alone**, and only if it is spent. -/
theorem changeLease_eq_none {e : Event} {grace : Span} {n : Int} {l : Lease}
    (h : e.changeLease grace n (some l) = none) :
    ∃ now order, e = .sweepStarted now order ∧ l.isSpent now = true := by
  cases e with
  | recorded g now =>
      simp only [changeLease] at h
      split at h <;> cases h
  | marked ending txnId rest =>
      simp only [changeLease] at h
      split at h <;> cases h
  | sweepStarted now order => exact ⟨now, order, rfl, by simpa [changeLease, Option.filter] using h⟩
  | beginAnswered turn call replies result => cases h
  | endAnswered turn ending database txnId replies result => cases h
  | sweepAnswered turn lease rest replies result => cases h

/-! ## New tasks -/

/-- A transaction that has to be recorded was granted by the event. -/
theorem eq_of_record_mem_newTasks {e : Event} {r : Registry} {g : Grant}
    (h : Task.record g ∈ e.newTasks r) :
    ∃ turn replies, e = .beginAnswered turn g.call replies (.ok g.outcome) := by
  cases e with
  | beginAnswered turn call replies result =>
      cases result with
      | error f => cases h
      | ok o =>
          obtain rfl := Task.record.inj (List.mem_singleton.1 h)
          exact ⟨turn, replies, rfl⟩
  | endAnswered turn ending database txnId replies result =>
      cases result with
      | error f => cases h
      | ok u => cases List.mem_singleton.1 h
  | sweepAnswered turn lease rest replies result =>
      cases result with
      | error f => cases (Task.mem_sweepOf.1 h).2
      | ok u => cases List.mem_singleton.1 h
  | marked ending txnId rest => cases (Task.mem_sweepOf.1 h).2
  | sweepStarted now order => cases (Task.mem_sweepOf.1 h).2
  | recorded g' now => cases h

/-- An end that has to be marked was taken by the engine with the event. -/
theorem eq_of_mark_mem_newTasks {e : Event} {r : Registry} {ending : Client.Ending} {n : Int}
    {rest : List Lease} (h : Task.mark ending n rest ∈ e.newTasks r) :
    (∃ turn database replies, e = .endAnswered turn ending database n replies (.ok ())) ∨
      ∃ turn lease replies, ending = .abort ∧ n = lease.txnId ∧
        e = .sweepAnswered turn lease rest replies (.ok ()) := by
  cases e with
  | beginAnswered turn call replies result =>
      cases result with
      | error f => cases h
      | ok o => cases List.mem_singleton.1 h
  | endAnswered turn ending' database txnId replies result =>
      cases result with
      | error f => cases h
      | ok u =>
          obtain ⟨rfl, rfl, -⟩ := Task.mark.inj (List.mem_singleton.1 h)
          exact Or.inl ⟨turn, database, replies, rfl⟩
  | sweepAnswered turn lease rest' replies result =>
      cases result with
      | error f => cases (Task.mem_sweepOf.1 h).2
      | ok u =>
          obtain ⟨rfl, rfl, rfl⟩ := Task.mark.inj (List.mem_singleton.1 h)
          exact Or.inr ⟨turn, lease, replies, rfl, rfl, rfl⟩
  | marked ending' txnId rest' => cases (Task.mem_sweepOf.1 h).2
  | sweepStarted now order => cases (Task.mem_sweepOf.1 h).2
  | recorded g now => cases h

end Event

/-! ## Traffic -/

/-- The registry, and what operations have still to do. -/
structure Traffic where
  leases : Registry
  tasks : List Task

namespace Traffic

/-- A sweep has still to abort the lease. -/
def Lists (t : Traffic) (l : Lease) : Prop := ∃ task ∈ t.tasks, l ∈ task.listed

/-- No lease and nothing to do. -/
def idle : Traffic := ⟨.empty, []⟩

/-- The traffic after an event, if the event can happen: what it tells of the engine is so, and the
task that it does is there. -/
def step? (c : Coordinator) (t : Traffic) (e : Event) : Option Traffic :=
  if e.IsGenuine c ∧ ∀ task ∈ e.task?, task ∈ t.tasks then
    some ⟨e.change c.grace t.leases,
      e.newTasks t.leases ++ e.task?.elim t.tasks fun task => t.tasks.erase task⟩
  else none

/-- The traffic after events that happen in turn. -/
def run? (c : Coordinator) (t : Traffic) : List Event → Option Traffic
  | [] => some t
  | e :: es => (t.step? c e).bind fun u => u.run? c es

variable {c : Coordinator} {t u : Traffic} {e : Event} {es fs : List Event}

/-- **Everything that an event can do**: it is genuine, its task was there, the registry changes as
it says, and the tasks are the others of before and those that come of it. -/
theorem step?_eq_some :
    t.step? c e = some u ↔
      (e.IsGenuine c ∧ ∀ task ∈ e.task?, task ∈ t.tasks) ∧
        u.leases = e.change c.grace t.leases ∧
        u.tasks = e.newTasks t.leases ++ e.task?.elim t.tasks fun task => t.tasks.erase task := by
  unfold step?
  split
  · next h =>
    constructor
    · intro hu
      obtain rfl := Option.some.inj hu
      exact ⟨h, rfl, rfl⟩
    · rintro ⟨-, hleases, htasks⟩
      rw [← hleases, ← htasks]
  · next h =>
    constructor
    · intro hu
      cases hu
    · rintro ⟨h', -⟩
      exact absurd h' h

theorem leases_of_step? (h : t.step? c e = some u) : u.leases = e.change c.grace t.leases :=
  (step?_eq_some.1 h).2.1

/-- The lease of one transaction after an event. -/
theorem get?_of_step? (h : t.step? c e = some u) (n : Int) :
    u.leases.get? n = e.changeLease c.grace n (t.leases.get? n) := by
  rw [leases_of_step? h, Event.get?_change]

/-- The lease of a transaction after it is recorded. -/
theorem get?_of_recorded {g : Grant} {now : Instant} (h : t.step? c (.recorded g now) = some u) :
    u.leases.get? g.outcome.txnId =
      some (g.lease (t.leases.get? g.outcome.txnId) now c.grace) := by
  rw [get?_of_step? h]
  exact if_pos rfl

/-- The task that is done with an event was there. -/
theorem task_mem_of_step? {task : Task} (h : t.step? c e = some u) (htask : e.task? = some task) :
    task ∈ t.tasks :=
  (step?_eq_some.1 h).1.2 task htask

/-- A task after an event was there before, or it comes of the event. -/
theorem mem_tasks_of_step? (h : t.step? c e = some u) {task : Task} (hmem : task ∈ u.tasks) :
    task ∈ e.newTasks t.leases ∨ task ∈ t.tasks := by
  rw [(step?_eq_some.1 h).2.2] at hmem
  rcases List.mem_append.1 hmem with hnew | hold
  · exact Or.inl hnew
  · refine Or.inr ?_
    cases htask : e.task? with
    | none =>
        rw [htask] at hold
        exact hold
    | some task' =>
        rw [htask] at hold
        exact List.mem_of_mem_erase hold

/-! ## Runs -/

@[simp] theorem run?_nil (c : Coordinator) (t : Traffic) : t.run? c [] = some t := rfl

theorem run?_cons_eq_some :
    t.run? c (e :: es) = some u ↔ ∃ s, t.step? c e = some s ∧ s.run? c es = some u := by
  rw [run?, Option.bind_eq_some_iff]

theorem run?_append (es fs : List Event) :
    t.run? c (es ++ fs) = (t.run? c es).bind fun u => u.run? c fs := by
  induction es generalizing t with
  | nil => rfl
  | cons e es ih =>
      rw [List.cons_append, run?, run?, Option.bind_assoc]
      exact congrArg _ (funext fun s => ih)

theorem run?_append_eq_some :
    t.run? c (es ++ fs) = some u ↔ ∃ s, t.run? c es = some s ∧ s.run? c fs = some u := by
  rw [run?_append, Option.bind_eq_some_iff]

theorem run?_concat_eq_some :
    t.run? c (es ++ [e]) = some u ↔ ∃ s, t.run? c es = some s ∧ s.step? c e = some u := by
  rw [run?_append_eq_some]
  refine exists_congr fun s => and_congr_right fun _ => ?_
  rw [run?, Option.bind_eq_some_iff]
  constructor
  · rintro ⟨v, hv, h⟩
    rwa [← Option.some.inj h]
  · intro h
    exact ⟨u, h, rfl⟩

/-- **Induction over a run**, from its first event to its last: what holds of the start with no
events, and of a run with one more event when it holds of the run, holds of every run. -/
theorem run_induction {motive : List Event → Traffic → Prop} (start : motive [] t)
    (step : ∀ es s e u, t.run? c es = some s → motive es s → s.step? c e = some u →
      motive (es ++ [e]) u)
    (h : t.run? c es = some u) : motive es u := by
  induction es using List.reverseRecOn generalizing u with
  | nil =>
      obtain rfl := Option.some.inj h
      exact start
  | append_singleton es e ih =>
      obtain ⟨s, hs, he⟩ := run?_concat_eq_some.1 h
      exact step es s e u hs (ih hs) he

/-- Every event of a run is genuine. -/
theorem isGenuine_of_run? (h : t.run? c es = some u) (he : e ∈ es) : e.IsGenuine c := by
  obtain ⟨pre, post, rfl⟩ := List.append_of_mem he
  obtain ⟨s, -, hs⟩ := run?_append_eq_some.1 h
  obtain ⟨v, hv, -⟩ := run?_cons_eq_some.1 hs
  exact (step?_eq_some.1 hv).1.1

/-- Every part of a run from its beginning is a run. -/
theorem run?_of_prefix {pre : List Event} (h : t.run? c es = some u) (hpre : pre <+: es) :
    ∃ s, t.run? c pre = some s := by
  obtain ⟨post, rfl⟩ := hpre
  obtain ⟨s, hs, -⟩ := run?_append_eq_some.1 h
  exact ⟨s, hs⟩

end Traffic

/-! ## A frontend to try runs with -/

namespace Sample

/-- A coordinator with one frontend. -/
def coordinator (grace : Span) : Coordinator where
  client :=
    { config := { EngineConfig.standard with hosts := ["fe1"] }
      selector := ⟨[⟨"fe1", 8030, .query⟩], [⟨"fe1", 8030, .load⟩], by simp, by simp⟩ }
  grace := grace

/-- The network brings one reply of status 200 with this body. -/
def answer (body : String) : List Outcome := [.ok ⟨200, [], .ok body.toUTF8⟩]

def turn : Turn := Turn.first 0

/-- A transaction that the engine grants. -/
def job : Grant := ⟨⟨"logs", "app", "job", 60⟩, ⟨7, "job", false⟩⟩

def jobAnswered : Event :=
  .beginAnswered turn job.call (answer "\x7b\"Status\":\"Success\",\"TxnId\":7\x7d")
    (.ok job.outcome)

/-- It is begun and committed. -/
def commitEvents : List Event :=
  [jobAnswered, .recorded job ⟨0, 0⟩,
    .endAnswered turn .commit "logs" 7 (answer "\x7b\"Status\":\"Success\"\x7d") (.ok ()),
    .marked .commit 7 []]

/-- A commit that the engine refuses. -/
def refusedCommit : List Event :=
  [.endAnswered turn .commit "logs" 7 (answer "\x7b\"Status\":\"FAILED\",\"msg\":\"gone\"\x7d")
    (.error (.database "failed to commit transaction 7: FAILED - gone" none))]

/-- An abort that the engine refuses. -/
def refusedAbort : List Event :=
  [.endAnswered turn .abort "logs" 7 (answer "\x7b\"Status\":\"FAILED\",\"msg\":\"gone\"\x7d")
      (.ok ()),
    .marked .abort 7 []]

end Sample

end StoreGate
