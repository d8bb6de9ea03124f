import StoreGate.Proofs.Txn.Traffic

/-!
# Operations on their own

`Traffic` takes the operations of a coordinator apart into events. Here the operations are put
together again: carried out on its own, each of them is a run of the events that it consists of,
whatever other operations have still to do.

* `Coordinator.sweepIn` — a sweep that takes the expired leases in an order of its own.
* `Coordinator.replay_beginTxn`, `Coordinator.replay_endTxn`, `Coordinator.replay_sweepIn` — what an
  operation gives and what it does to the leases.
* `Coordinator.beginTxn_run?`, `Coordinator.endTxn_run?`, `Coordinator.sweepIn_run?` — the operation
  as a run.
* `LoadTransaction.start_run?`, `LoadTransaction.finish_eq` — the same for transactions with a
  table.
-/

namespace StoreGate

namespace Session

/-- A call in a session gives what its exchange comes to, and only the turn changes. -/
theorem replay_call {α : Type} {x : Call α} {s s' : Session} {outcomes : List Outcome}
    {r : Except Fault α} :
    ((call x).run s).replay outcomes = some (r, s') ↔
      (x s.turn).1.replay outcomes = some r ∧ s' = { s with turn := (x s.turn).2 } := by
  show ((x s.turn).1 >>= fun r => Exchange.done (r, { s with turn := (x s.turn).2 })).replay
    outcomes = some (r, s') ↔ _
  rw [Exchange.replay_map]
  constructor
  · rintro ⟨r', hr, h⟩
    obtain ⟨rfl, rfl⟩ := Prod.mk.inj h
    exact ⟨hr, rfl⟩
  · rintro ⟨hr, rfl⟩
    exact ⟨r, hr, rfl⟩

/-- A call and what a session does after it divide the outcomes between them. -/
theorem replay_call_bind {α β : Type} {x : Call α} {f : Except Fault α → SessionM β}
    {s s' : Session} {outcomes : List Outcome} {b : β} :
    ((call x >>= f).run s).replay outcomes = some (b, s') ↔
      ∃ before after r, outcomes = before ++ after ∧ (x s.turn).1.replay before = some r ∧
        ((f r).run { s with turn := (x s.turn).2 }).replay after = some (b, s') := by
  rw [StateT.run_bind, Exchange.replay_bind]
  constructor
  · rintro ⟨before, after, ⟨r, s₁⟩, h, hx, hf⟩
    obtain ⟨hr, rfl⟩ := replay_call.1 hx
    exact ⟨before, after, r, h, hr, hf⟩
  · rintro ⟨before, after, r, h, hr, hf⟩
    exact ⟨before, after, (r, _), h, replay_call.2 ⟨hr, rfl⟩, hf⟩

/-- A call and what a session does after it send their requests one after the other. -/
theorem sent_call_bind {α β : Type} {x : Call α} {f : Except Fault α → SessionM β} {s : Session}
    {before after : List Outcome} {r : Except Fault α}
    (h : (x s.turn).1.replay before = some r) :
    ((call x >>= f).run s).sent (before ++ after) =
      (x s.turn).1.sent before ++ ((f r).run { s with turn := (x s.turn).2 }).sent after := by
  have hcall : ((call x).run s).sent before = (x s.turn).1.sent before := by
    show ((x s.turn).1 >>= fun r =>
      Exchange.done (r, { s with turn := (x s.turn).2 })).sent before = _
    rw [Exchange.sent_map]
  rw [StateT.run_bind, Exchange.sent_bind (replay_call.2 ⟨h, rfl⟩), hcall]

theorem replay_pure {α : Type} {a b : α} {s s' : Session} {outcomes : List Outcome} :
    ((pure a : SessionM α).run s).replay outcomes = some (b, s') ↔
      outcomes = [] ∧ a = b ∧ s = s' := by
  show (Exchange.done (a, s)).replay outcomes = some (b, s') ↔ _
  rw [Exchange.replay_done_eq_some, Prod.mk.injEq]

theorem replay_changeLeases {α : Type} {f : Registry → Registry} {a b : α} {s s' : Session}
    {outcomes : List Outcome} :
    ((do changeLeases f; pure a : SessionM α).run s).replay outcomes = some (b, s') ↔
      outcomes = [] ∧ a = b ∧ { s with leases := f s.leases } = s' := by
  show (Exchange.done (a, { s with leases := f s.leases })).replay outcomes = some (b, s') ↔ _
  rw [Exchange.replay_done_eq_some, Prod.mk.injEq]

end Session

/-! ## Aborts of a sweep -/

/-- One abort of a sweep: whose turn it was, the lease, what the network made of the requests, and
what the abort came to. -/
structure AbortCall where
  turn : Turn
  lease : Lease
  replies : List Outcome
  result : Except Fault Unit

namespace AbortCall

/-- The result is what the client's exchange comes to. -/
def IsGenuine (c : Coordinator) (a : AbortCall) : Prop :=
  (c.client.endTxn none .abort a.lease.database a.lease.txnId a.turn).1.replay a.replies =
    some a.result

/-- The requests of the abort. -/
def requests (c : Coordinator) (a : AbortCall) : List Request :=
  (c.client.endTxn none .abort a.lease.database a.lease.txnId a.turn).1.sent a.replies

/-- The registry after the abort. -/
def change (r : Registry) (a : AbortCall) : Registry :=
  Client.Ending.abort.settle r a.lease.txnId a.result

theorem change_of_ok {a : AbortCall} (h : a.result = .ok ()) (r : Registry) :
    change r a = r.mark a.lease.txnId .aborted := by
  rw [change, h]
  rfl

theorem change_of_error {a : AbortCall} {f : Fault} (h : a.result = .error f) (r : Registry) :
    change r a = r := by
  rw [change, h]
  rfl

/-- The aborts of a sweep as events. -/
def events : List AbortCall → List Event
  | [] => []
  | a :: rest =>
    .sweepAnswered a.turn a.lease (rest.map lease) a.replies a.result ::
      match a.result with
      | .ok () => .marked .abort a.lease.txnId (rest.map lease) :: events rest
      | .error _ => events rest

/-- Aborts in turn are a run of their events. -/
theorem events_run? {c : Coordinator} {calls : List AbortCall}
    (hgenuine : ∀ a ∈ calls, a.IsGenuine c) (r : Registry) (tasks : List Task) :
    Traffic.run? c ⟨r, Task.sweepOf (calls.map lease) ++ tasks⟩ (events calls) =
      some ⟨calls.foldl change r, tasks⟩ := by
  induction calls generalizing r with
  | nil => rfl
  | cons a rest ih =>
      have ih := ih (fun b hb => hgenuine b (List.mem_cons_of_mem _ hb))
      have ha : a.IsGenuine c := hgenuine a (List.mem_cons_self ..)
      rw [events, Traffic.run?_cons_eq_some]
      cases hres : a.result with
      | error f =>
          refine ⟨⟨r, Task.sweepOf (rest.map lease) ++ tasks⟩, ?_, ?_⟩
          · refine Traffic.step?_eq_some.2 ⟨⟨hres ▸ ha, ?_⟩, rfl, ?_⟩
            · simp [Event.task?, Task.sweepOf]
            · simp [Event.task?, Event.newTasks, Task.sweepOf]
          · rw [List.foldl_cons, change_of_error hres]
            exact ih r
      | ok u =>
          refine ⟨⟨r, .mark .abort a.lease.txnId (rest.map lease) :: tasks⟩, ?_, ?_⟩
          · refine Traffic.step?_eq_some.2 ⟨⟨hres ▸ ha, ?_⟩, rfl, ?_⟩
            · simp [Event.task?, Task.sweepOf]
            · simp [Event.task?, Event.newTasks, Task.sweepOf]
          · rw [Traffic.run?_cons_eq_some]
            refine ⟨⟨r.mark a.lease.txnId .aborted, Task.sweepOf (rest.map lease) ++ tasks⟩, ?_, ?_⟩
            · refine Traffic.step?_eq_some.2 ⟨⟨trivial, ?_⟩, rfl, ?_⟩
              · simp [Event.task?]
              · simp [Event.task?, Event.newTasks]
            · rw [List.foldl_cons, change_of_ok hres]
              exact ih _

/-- **Aborts in turn** change the state of the leases whose abort the engine has taken, whatever
their order, and nothing else. -/
theorem get?_foldl_change (calls : List AbortCall) (r : Registry) (n : Int) :
    (calls.foldl change r).get? n =
      if ∃ a ∈ calls, a.lease.txnId = n ∧ a.result = .ok () then
        (r.get? n).map fun l => { l with state := .aborted }
      else r.get? n := by
  induction calls generalizing r with
  | nil => simp
  | cons a rest ih =>
      rw [List.foldl_cons, ih]
      cases hres : a.result with
      | error f => simp [change_of_error hres, hres]
      | ok u =>
          rw [change_of_ok hres, Registry.get?_mark]
          by_cases hn : a.lease.txnId = n
          · simp [hn, hres, Function.comp_def]
          · simp [hn, Ne.symm hn]

end AbortCall

namespace Coordinator

variable {c : Coordinator} {now : Instant} {database table label : String} {timeoutSecs : Nat}
  {s s' : Session} {outcomes : List Outcome}

/-! ## Begin -/

/-- **A begin on its own** gives what the engine's answer comes to, and records what it grants. -/
theorem replay_beginTxn {r : Except Fault BeginOutcome}
    (h : ((c.beginTxn now database table label timeoutSecs).run s).replay outcomes =
      some (r, s')) :
    (c.client.beginTxn none database table label timeoutSecs s.turn).1.replay outcomes = some r ∧
      s'.leases =
        BeginCall.settle ⟨database, table, label, timeoutSecs⟩ s.leases now c.grace r := by
  unfold beginTxn at h
  obtain ⟨before, after, r', rfl, hr, hafter⟩ := Session.replay_call_bind.1 h
  cases r' with
  | error f =>
      obtain ⟨rfl, rfl, rfl⟩ := Session.replay_pure.1 hafter
      refine ⟨?_, rfl⟩
      rw [List.append_nil]
      exact hr
  | ok o =>
      obtain ⟨rfl, rfl, rfl⟩ := Session.replay_changeLeases.1 hafter
      refine ⟨?_, rfl⟩
      rw [List.append_nil]
      exact hr

/-- The events of a begin. -/
def beginEvents (turn : Turn) (call : BeginCall) (now : Instant) (replies : List Outcome) :
    Except Fault BeginOutcome → List Event
  | .ok o => [.beginAnswered turn call replies (.ok o), .recorded ⟨call, o⟩ now]
  | .error f => [.beginAnswered turn call replies (.error f)]

/-- **A begin on its own is a run**: the engine answers, and what it grants is recorded. -/
theorem beginTxn_run? {r : Except Fault BeginOutcome}
    (h : ((c.beginTxn now database table label timeoutSecs).run s).replay outcomes =
      some (r, s')) (tasks : List Task) :
    Traffic.run? c ⟨s.leases, tasks⟩
      (beginEvents s.turn ⟨database, table, label, timeoutSecs⟩ now outcomes r) =
        some ⟨s'.leases, tasks⟩ := by
  obtain ⟨hr, hleases⟩ := replay_beginTxn h
  cases r with
  | error f =>
      refine Traffic.run?_cons_eq_some.2 ⟨⟨s.leases, tasks⟩, ?_, by rw [hleases]; rfl⟩
      exact Traffic.step?_eq_some.2 ⟨⟨hr, by simp [Event.task?]⟩, rfl, rfl⟩
  | ok o =>
      refine Traffic.run?_cons_eq_some.2
        ⟨⟨s.leases, .record ⟨⟨database, table, label, timeoutSecs⟩, o⟩ :: tasks⟩, ?_, ?_⟩
      · exact Traffic.step?_eq_some.2 ⟨⟨hr, by simp [Event.task?]⟩, rfl, rfl⟩
      · refine Traffic.run?_cons_eq_some.2 ⟨⟨s'.leases, tasks⟩, ?_, rfl⟩
        exact Traffic.step?_eq_some.2 ⟨⟨trivial, by simp [Event.task?]⟩, hleases,
          by simp [Event.task?, Event.newTasks]⟩

/-! ## Commit and abort -/

/-- **An end on its own** gives what the engine's answer comes to, and is marked if the engine takes
it. -/
theorem replay_endTxn {ending : Client.Ending} {txnId : Int} {r : Except Fault Unit}
    (h : ((c.endTxn ending database txnId).run s).replay outcomes = some (r, s')) :
    (c.client.endTxn none ending database txnId s.turn).1.replay outcomes = some r ∧
      s'.leases = ending.settle s.leases txnId r := by
  unfold endTxn at h
  obtain ⟨before, after, r', rfl, hr, hafter⟩ := Session.replay_call_bind.1 h
  cases r' with
  | error f =>
      obtain ⟨rfl, rfl, rfl⟩ := Session.replay_pure.1 hafter
      refine ⟨?_, rfl⟩
      rw [List.append_nil]
      exact hr
  | ok u =>
      obtain ⟨rfl, rfl, rfl⟩ := Session.replay_changeLeases.1 hafter
      refine ⟨?_, rfl⟩
      rw [List.append_nil]
      exact hr

/-- An end sends the requests of the client's exchange. -/
theorem sent_endTxn {ending : Client.Ending} {txnId : Int} {r : Except Fault Unit}
    (h : ((c.endTxn ending database txnId).run s).replay outcomes = some (r, s')) :
    ((c.endTxn ending database txnId).run s).sent outcomes =
      (c.client.endTxn none ending database txnId s.turn).1.sent outcomes := by
  unfold endTxn at h ⊢
  obtain ⟨before, after, r', rfl, hr, hafter⟩ := Session.replay_call_bind.1 h
  rw [Session.sent_call_bind hr]
  cases r' with
  | error f =>
      obtain ⟨rfl, -, -⟩ := Session.replay_pure.1 hafter
      rw [List.append_nil]
      exact List.append_nil _
  | ok u =>
      obtain ⟨rfl, -, -⟩ := Session.replay_changeLeases.1 hafter
      rw [List.append_nil]
      exact List.append_nil _

/-- The events of a commit or an abort. -/
def endEvents (turn : Turn) (ending : Client.Ending) (database : String) (txnId : Int)
    (replies : List Outcome) : Except Fault Unit → List Event
  | .ok () => [.endAnswered turn ending database txnId replies (.ok ()), .marked ending txnId []]
  | .error f => [.endAnswered turn ending database txnId replies (.error f)]

/-- **An end on its own is a run**: the engine answers, and what it takes is marked. -/
theorem endTxn_run? {ending : Client.Ending} {txnId : Int} {r : Except Fault Unit}
    (h : ((c.endTxn ending database txnId).run s).replay outcomes = some (r, s'))
    (tasks : List Task) :
    Traffic.run? c ⟨s.leases, tasks⟩ (endEvents s.turn ending database txnId outcomes r) =
      some ⟨s'.leases, tasks⟩ := by
  obtain ⟨hr, hleases⟩ := replay_endTxn h
  cases r with
  | error f =>
      refine Traffic.run?_cons_eq_some.2 ⟨⟨s.leases, tasks⟩, ?_, by rw [hleases]; rfl⟩
      exact Traffic.step?_eq_some.2 ⟨⟨hr, by simp [Event.task?]⟩, rfl, rfl⟩
  | ok u =>
      refine Traffic.run?_cons_eq_some.2 ⟨⟨s.leases, .mark ending txnId [] :: tasks⟩, ?_, ?_⟩
      · exact Traffic.step?_eq_some.2 ⟨⟨hr, by simp [Event.task?]⟩, rfl, rfl⟩
      · refine Traffic.run?_cons_eq_some.2 ⟨⟨s'.leases, tasks⟩, ?_, rfl⟩
        exact Traffic.step?_eq_some.2 ⟨⟨trivial, by simp [Event.task?]⟩, hleases,
          by simp [Event.task?, Event.newTasks, Task.sweepOf]⟩

/-! ## Sweeps -/

/-- **The aborts of a sweep** are one call for each lease in turn. They divide the outcomes and the
requests between them, the leases change by those that the engine takes, and their number is
given. -/
theorem replay_abortAll {todo : List Lease} {k : Nat}
    (h : ((c.abortAll todo).run s).replay outcomes = some (k, s')) :
    ∃ calls : List AbortCall, calls.map AbortCall.lease = todo ∧ (∀ a ∈ calls, a.IsGenuine c) ∧
      outcomes = calls.flatMap AbortCall.replies ∧
      s'.leases = calls.foldl AbortCall.change s.leases ∧
      k = calls.countP (fun a => a.result.toBool) ∧
      ((c.abortAll todo).run s).sent outcomes = calls.flatMap (AbortCall.requests c) := by
  induction todo generalizing s outcomes k with
  | nil =>
      obtain ⟨rfl, rfl, rfl⟩ := Session.replay_pure.1 h
      exact ⟨[], rfl, by simp, rfl, rfl, rfl, rfl⟩
  | cons l rest ih =>
      rw [abortAll, StateT.run_bind] at h ⊢
      obtain ⟨before, after, ⟨r, s₁⟩, rfl, hend, hafter⟩ := Exchange.replay_bind.1 h
      obtain ⟨hr, hleases⟩ := replay_endTxn hend
      cases r with
      | error f =>
          obtain ⟨calls, hmap, hgenuine, rfl, hs', rfl, hsent⟩ := ih hafter
          refine ⟨⟨s.turn, l, before, .error f⟩ :: calls, by simp [hmap], ?_, by simp, ?_, ?_, ?_⟩
          · exact List.forall_mem_cons.2 ⟨hr, hgenuine⟩
          · rw [hs', hleases]
            rfl
          · simp [Except.toBool]
          · rw [Exchange.sent_bind hend, sent_endTxn hend, List.flatMap_cons]
            exact congrArg _ hsent
      | ok u =>
          dsimp only at hafter
          rw [StateT.run_bind] at hafter
          obtain ⟨middle, after', ⟨k', s₂⟩, rfl, hrest, hcount⟩ := Exchange.replay_bind.1 hafter
          obtain ⟨rfl, rfl, rfl⟩ := Session.replay_pure.1 hcount
          obtain ⟨calls, hmap, hgenuine, rfl, hs', rfl, hsent⟩ := ih hrest
          refine ⟨⟨s.turn, l, before, .ok u⟩ :: calls, by simp [hmap], ?_, by simp, ?_, ?_, ?_⟩
          · exact List.forall_mem_cons.2 ⟨hr, hgenuine⟩
          · rw [hs', hleases]
            rfl
          · simp [Except.toBool]
          · rw [Exchange.sent_bind hend, sent_endTxn hend, List.flatMap_cons]
            dsimp only
            rw [StateT.run_bind, Exchange.sent_bind hrest, hsent]
            exact congrArg _ (List.append_nil _)

/-- A sweep that puts the expired leases into an order before it aborts them. -/
def sweepIn (c : Coordinator) (arrange : List Lease → List Lease) (now : Instant) :
    SessionM Nat := do
  Session.changeLeases fun r => r.dropSpent now
  c.abortAll (arrange ((← get).leases.expired now))

/-- Sweeps go by number. -/
theorem sweep_eq_sweepIn (c : Coordinator) (now : Instant) : c.sweep now = c.sweepIn id now := rfl

variable {arrange : List Lease → List Lease}

/-- **A sweep on its own** drops the leases that are spent and then makes one abort call for each
of those that have expired, in its order. -/
theorem replay_sweepIn {k : Nat}
    (h : ((c.sweepIn arrange now).run s).replay outcomes = some (k, s')) :
    ∃ calls : List AbortCall,
      calls.map AbortCall.lease = arrange ((s.leases.dropSpent now).expired now) ∧
      (∀ a ∈ calls, a.IsGenuine c) ∧ outcomes = calls.flatMap AbortCall.replies ∧
      s'.leases = calls.foldl AbortCall.change (s.leases.dropSpent now) ∧
      k = calls.countP (fun a => a.result.toBool) ∧
      ((c.sweepIn arrange now).run s).sent outcomes = calls.flatMap (AbortCall.requests c) :=
  replay_abortAll h

/-- **A sweep on its own is a run**: it starts, and its aborts follow. -/
theorem sweepIn_run? {k : Nat} (order : Arrangement)
    (h : ((c.sweepIn order.arrange now).run s).replay outcomes = some (k, s'))
    (tasks : List Task) :
    ∃ calls : List AbortCall, k = calls.countP (fun a => a.result.toBool) ∧
      Traffic.run? c ⟨s.leases, tasks⟩ (.sweepStarted now order :: AbortCall.events calls) =
        some ⟨s'.leases, tasks⟩ := by
  obtain ⟨calls, hmap, hgenuine, -, hs', hk, -⟩ := replay_sweepIn h
  refine ⟨calls, hk, Traffic.run?_cons_eq_some.2
    ⟨⟨s.leases.dropSpent now, Task.sweepOf (calls.map AbortCall.lease) ++ tasks⟩, ?_, ?_⟩⟩
  · exact Traffic.step?_eq_some.2 ⟨⟨trivial, by simp [Event.task?]⟩, rfl, by rw [hmap]; rfl⟩
  · rw [hs']
    exact AbortCall.events_run? hgenuine _ tasks

end Coordinator

/-! ## Transactions with a table -/

namespace LoadTransaction

variable {c : Coordinator} {now : Instant} {database table label : String} {timeoutSecs : Nat}
  {s s' : Session} {outcomes : List Outcome}

/-- A transaction with a table begins as any other. -/
theorem start_run? {r : Except Fault LoadTransaction}
    (h : ((start c now database table label timeoutSecs).run s).replay outcomes = some (r, s'))
    (tasks : List Task) :
    Traffic.run? c ⟨s.leases, tasks⟩
      (Coordinator.beginEvents s.turn ⟨database, table, label, timeoutSecs⟩ now outcomes
        (r.map LoadTransaction.outcome)) = some ⟨s'.leases, tasks⟩ := by
  rw [start, StateT.run_bind, Exchange.replay_bind] at h
  obtain ⟨before, after, ⟨r', s₁⟩, rfl, hbegin, hafter⟩ := h
  obtain ⟨rfl, rfl, rfl⟩ := Session.replay_pure.1 hafter
  rw [List.append_nil]
  have hmap : ∀ r' : Except Fault BeginOutcome,
      (r'.map fun o => (⟨database, table, o⟩ : LoadTransaction)).map LoadTransaction.outcome =
        r' := by
    intro r'
    cases r' <;> rfl
  rw [hmap]
  exact Coordinator.beginTxn_run? hbegin tasks

/-- A transaction with a table ends as any other, in its own database. -/
theorem finish_eq (t : LoadTransaction) (ending : Client.Ending) :
    t.finish c ending = c.endTxn ending t.database t.outcome.txnId := rfl

/-- A load under a transaction changes no lease. -/
theorem leases_load {t : LoadTransaction} {payload : ByteArray} {o : LoadOptions}
    {r : Except Fault LoadVerdict}
    (h : ((t.load c payload o).run s).replay outcomes = some (r, s')) : s'.leases = s.leases := by
  rw [(Session.replay_call.1 h).2]

end LoadTransaction

end StoreGate
