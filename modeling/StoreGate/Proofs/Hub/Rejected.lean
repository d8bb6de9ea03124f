import StoreGate.Proofs.Engine.Blame
import StoreGate.Proofs.Hub.Answer
import StoreGate.Proofs.Txn.Frame
import StoreGate.Proofs.Txn.Sweep

/-!
# What a rejected request does

A request to the server is rejected by its path, its method, its body, or by a check of its names
and values, some of them deep inside the client. Whichever it is, the engine has not been asked for
anything, and the leases are as they were.

* `Session.BlamesEarly` — an operation that blames the caller has sent nothing and changed no lease.
* `Hub.blamesEarly_perform` — every command is such an operation.
* `rejected_request_does_nothing` — an answer that blames the caller comes of no request and of no
  change.
-/

namespace StoreGate

namespace Session

variable {α β : Type}

/-- On every network, an operation that blames the caller has sent nothing and changed no lease. -/
def BlamesEarly (x : SessionM (Except Fault α)) : Prop :=
  ∀ s network f s', ((x.run s).against network).1 = (.error f, s') → f.BlamesCaller →
    ((x.run s).against network).2 = [] ∧ s'.leases = s.leases

namespace BlamesEarly

theorem pure (r : Except Fault α) : BlamesEarly (pure r) := by
  intro s network f s' h _
  obtain ⟨-, rfl⟩ := Prod.mk.inj h
  exact ⟨rfl, rfl⟩

/-- An operation that always succeeds blames nobody. -/
theorem of_ok (x : SessionM α) (g : α → β) : BlamesEarly (do return .ok (g (← x))) := by
  intro s network f s' h _
  rw [against_map_run fun a => (.ok (g a) : Except Fault β)] at h
  cases (Prod.mk.inj h).1

theorem map {x : SessionM (Except Fault α)} (hx : BlamesEarly x) (g : α → β) :
    BlamesEarly (do return (← x).map g) := by
  intro s network f s' h hblames
  rw [against_map_run fun r : Except Fault α => r.map g] at h ⊢
  obtain ⟨hresult, hsession⟩ := Prod.mk.inj h
  cases hr : ((x.run s).against network).1.1 with
  | error f' =>
      rw [hr] at hresult
      cases hresult
      exact hx s network f s' (Prod.ext hr hsession) hblames
  | ok a =>
      rw [hr] at hresult
      cases hresult

/-- A call, and then what only the session has to do with: it hands on the fault of the call and
keeps the leases then, and it finds no fault of the caller's in what a successful call gives. -/
theorem call_then {x : Call α} (hx : x.BlamesEarly) {f : Except Fault α → SessionM (Except Fault β)}
    (herror : ∀ fault s, (f (.error fault)).run s = .done (.error fault, s))
    (hok : ∀ a s, ∃ result s', (f (.ok a)).run s = .done (result, s') ∧ Spares result) :
    BlamesEarly (call x >>= f) := by
  have hdone : ∀ r s, ∃ p, (f r).run s = .done p := by
    rintro (fault | a) s
    · exact ⟨_, herror fault s⟩
    · obtain ⟨result, s', hrun, -⟩ := hok a s
      exact ⟨_, hrun⟩
  choose g hg using hdone
  intro s network fault s' hend hblames
  rw [against_call_then hg] at hend ⊢
  dsimp only at hend ⊢
  cases hr : ((x s.turn).1.against network).1 with
  | error fault' =>
      rw [hr, Exchange.done.inj ((hg _ _).symm.trans (herror _ _))] at hend
      obtain ⟨hfault, rfl⟩ := Prod.mk.inj hend
      cases hfault
      exact ⟨hx s.turn network fault hr hblames, rfl⟩
  | ok a =>
      obtain ⟨result, s'', hrun, hspares⟩ := hok a { s with turn := (x s.turn).2 }
      rw [hr, Exchange.done.inj ((hg _ _).symm.trans hrun)] at hend
      exact absurd hblames (hspares fault (congrArg Prod.fst hend))

theorem call {x : Call α} (hx : x.BlamesEarly) : BlamesEarly (Session.call x) := by
  rw [← bind_pure (Session.call x)]
  exact call_then hx (fun _ _ => rfl) fun a s => ⟨.ok a, s, rfl, spares_ok a⟩

end BlamesEarly

end Session

/-! ## Operations -/

namespace Coordinator

variable (c : Coordinator)

theorem blamesEarly_beginTxn (now : Instant) (database table label : String) (timeoutSecs : Nat) :
    Session.BlamesEarly (c.beginTxn now database table label timeoutSecs) := by
  unfold beginTxn
  refine Session.BlamesEarly.call_then
    (c.client.blamesEarly_beginTxn none database table label timeoutSecs) (fun _ _ => rfl) ?_
  exact fun o s => ⟨.ok o, _, rfl, spares_ok o⟩

theorem blamesEarly_endTxn (ending : Client.Ending) (database : String) (txnId : Int) :
    Session.BlamesEarly (c.endTxn ending database txnId) := by
  unfold endTxn
  refine Session.BlamesEarly.call_then (c.client.blamesEarly_endTxn none ending database txnId)
    (fun _ _ => rfl) ?_
  exact fun _ s => ⟨.ok (), _, rfl, spares_ok ()⟩

end Coordinator

namespace Hub

variable (h : Hub)

theorem blamesEarly_load (database table : String) (parameters : LoadParameters)
    (payload : ByteArray) :
    Session.BlamesEarly (h.load database table parameters payload) := by
  unfold load
  split
  · exact .pure _
  · exact .call (h.client.blamesEarly_load none _ _ _ _)

theorem blamesEarly_beginTxn (m : Moment) (b : BeginBody) :
    Session.BlamesEarly (h.beginTxn m b) := by
  unfold beginTxn
  split
  · exact .pure _
  · exact h.coordinator.blamesEarly_beginTxn _ _ _ _ _

theorem blamesEarly_endTxn (how : Client.Ending) (database : String) (txnId : Int) :
    Session.BlamesEarly (h.endTxn how database txnId) := by
  unfold endTxn
  split
  · exact .pure _
  · exact h.coordinator.blamesEarly_endTxn _ _ _

theorem blamesEarly_describe (database table : String) :
    Session.BlamesEarly (TableSchema.describe h.query database table) := by
  unfold TableSchema.describe
  split
  · exact .pure _
  · exact .pure _
  · refine Session.BlamesEarly.call_then (h.client.blamesEarly_executeIn none _ _)
      (fun _ _ => rfl) ?_
    exact fun rows s => ⟨_, s, rfl, TableSchema.spares_ofDescription database table rows⟩

/-- A search is invalid as a whole, or it succeeds whatever its statements come to. -/
theorem blamesEarly_search (r : SearchRequest) :
    Session.BlamesEarly (r.run h.query h.config.search) := by
  unfold SearchRequest.run
  split
  · exact .pure _
  · exact .of_ok _ (SearchResult.ofOutcomes h.config.search r)

/-- **A command that blames the caller** has sent nothing and changed no lease. -/
theorem blamesEarly_perform (m : Moment) (command : Command) :
    Session.BlamesEarly (h.perform m command) := by
  cases command with
  | health => exact .of_ok get fun s => h.healthJson s.leases.stillOpen.length
  | execute b => exact .map (.call (h.client.blamesEarly_executeIn none _ _)) _
  | search r => exact .map (h.blamesEarly_search r) _
  | ingest events => exact .of_ok _ IngestReport.json
  | load database table parameters payload =>
      exact .map (h.blamesEarly_load database table parameters payload) _
  | transactions openOnly =>
      exact .of_ok get fun s => Json.arr ((listed s.leases openOnly).map Lease.json)
  | beginTxn b => exact .map (h.blamesEarly_beginTxn m b) _
  | endTxn how database txnId => exact .map (h.blamesEarly_endTxn how database txnId) _
  | describe database table => exact .map (h.blamesEarly_describe database table) _

end Hub

/-! ## Answers -/

/-- The status of a fault is of the four hundreds exactly if the caller is to blame. -/
theorem Fault.blamesCaller_iff (f : Fault) :
    f.BlamesCaller ↔ 400 ≤ f.kind.httpStatus ∧ f.kind.httpStatus < 500 := by
  unfold BlamesCaller
  cases f.kind <;> simp [FaultKind.httpStatus]

/-- **A rejected request does nothing.** On every network and whatever leases there are, if the
answer to a request has a status of the four hundreds, then no request was sent to the engine, and
the leases are as they were. -/
theorem rejected_request_does_nothing (h : Hub) (m : Moment) (r : HubRequest) (s s' : Session)
    (network : Nat → Outcome) (reply : HubReply) (sent : List Request)
    (hanswer : ((h.answer m r).run s).against network = ((reply, s'), sent))
    (hlow : 400 ≤ reply.status) (hhigh : reply.status < 500) :
    sent = [] ∧ s'.leases = s.leases := by
  rcases Hub.answer_cases hanswer with ⟨hsent, rfl⟩ | ⟨command, outcome, -, hperform, hstatus⟩
  · exact ⟨hsent, rfl⟩
  · cases outcome with
    | ok data =>
        have htwoHundred : reply.status = 200 := hstatus
        omega
    | error f =>
        rw [hstatus] at hlow hhigh
        have hblames : f.BlamesCaller := f.blamesCaller_iff.2 ⟨hlow, hhigh⟩
        have hearly := h.blamesEarly_perform m command s network f s'
        rw [hperform] at hearly
        exact hearly rfl hblames

namespace Sample

/-- A load whose label breaks off a line, which nothing but the client looks at. -/
def brokenLabel : HubRequest :=
  ⟨"PUT", "/api/v1/load/logs/app?label=a%0Ab", none, ⟨#[91, 93]⟩⟩

/-- Two transactions are open. -/
def busy : Session := ⟨turn, twoOpen⟩

end Sample

/-- A load is rejected on a network that would take it. -/
theorem rejected_request_does_nothing_of_brokenLabel :
    ∃ reply s', ((Sample.hub.answer Sample.moment Sample.brokenLabel).run Sample.busy).against
        Sample.willing = ((reply, s'), []) ∧
      reply.status = 400 ∧ s'.leases = Sample.twoOpen := by
  have hstatus : (((Sample.hub.answer Sample.moment Sample.brokenLabel).run Sample.busy).against
      Sample.willing).1.1.status = 400 := by decide +kernel
  rcases hanswer : ((Sample.hub.answer Sample.moment Sample.brokenLabel).run Sample.busy).against
      Sample.willing with ⟨⟨reply, s'⟩, sent⟩
  rw [hanswer] at hstatus
  dsimp only at hstatus
  obtain ⟨rfl, hleases⟩ := rejected_request_does_nothing Sample.hub Sample.moment
    Sample.brokenLabel Sample.busy s' Sample.willing reply sent hanswer (by omega) (by omega)
  exact ⟨reply, s', rfl, hstatus, hleases⟩

end StoreGate
