import StoreGate.Engine.Transaction
import StoreGate.Txn.Registry

/-!
# Coordinated transactions

Every transaction that is begun here is put into a registry after the engine has answered, and every
end that the engine has confirmed is marked there. A sweep aborts what nobody has ended in time. The
exchange with the engine and the change of the registry are two steps, in this order.

* `Coordinator.beginTxn`, `Coordinator.endTxn`, `Coordinator.sweep` — the operations.
* `LoadTransaction` — a transaction with the table that it loads.
-/

namespace StoreGate

/-- Whose turn it is, and the leases. -/
structure Session where
  turn : Turn
  leases : Registry

/-- What is done with the engine in a session. -/
abbrev SessionM := StateT Session Exchange

namespace Session

/-- A session whose loads begin with the frontend at the given place. -/
def first (start : Nat) : Session := ⟨Turn.first start, .empty⟩

/-- Carries out a call: the turn changes, and then the exchange takes place. -/
def call {α : Type} (x : Call α) : SessionM (Except Fault α) := fun s =>
  let (exchange, turn) := x s.turn
  exchange >>= fun r => .done (r, { s with turn := turn })

def changeLeases (f : Registry → Registry) : SessionM Unit :=
  modify fun s => { s with leases := f s.leases }

end Session

structure Coordinator where
  client : Client
  /-- Added to the engine's timeout before a lease counts as expired. -/
  grace : Span

namespace Coordinator

/-- Begins a transaction and records its lease. -/
def beginTxn (c : Coordinator) (now : Instant) (database table label : String)
    (timeoutSecs : Nat) : SessionM (Except Fault BeginOutcome) := do
  match ← Session.call (c.client.beginTxn none database table label timeoutSecs) with
  | .error f => return .error f
  | .ok o =>
    Session.changeLeases fun r => r.track o database table now timeoutSecs c.grace
    return .ok o

/-- Ends a transaction and marks its lease. -/
def endTxn (c : Coordinator) (ending : Client.Ending) (database : String) (txnId : Int) :
    SessionM (Except Fault Unit) := do
  match ← Session.call (c.client.endTxn none ending database txnId) with
  | .error f => return .error f
  | .ok () =>
    Session.changeLeases fun r => r.mark txnId ending.state
    return .ok ()

/-! ## Sweeps -/

/-- Aborts transactions one after another; gives the number of those that were aborted. -/
def abortAll (c : Coordinator) : List Lease → SessionM Nat
  | [] => pure 0
  | l :: rest => do
    match ← c.endTxn .abort l.database l.txnId with
    | .ok () => return (← c.abortAll rest) + 1
    | .error _ => c.abortAll rest

/-- Drops the leases that are spent and aborts those that have expired. A lease whose abort fails
stays as it is. -/
def sweep (c : Coordinator) (now : Instant) : SessionM Nat := do
  Session.changeLeases fun r => r.dropSpent now
  c.abortAll ((← get).leases.expired now)

end Coordinator

/-! ## Transactions with a table -/

/-- A transaction and the table that it loads. -/
structure LoadTransaction where
  database : String
  table : String
  outcome : BeginOutcome
deriving DecidableEq, Repr

namespace LoadTransaction

/-- Begins a transaction for a table. -/
def start (c : Coordinator) (now : Instant) (database table label : String)
    (timeoutSecs : Nat) : SessionM (Except Fault LoadTransaction) := do
  return (← c.beginTxn now database table label timeoutSecs).map fun o => ⟨database, table, o⟩

/-- Loads a payload under the transaction, whatever transaction the options name. -/
def load (t : LoadTransaction) (c : Coordinator) (payload : ByteArray) (o : LoadOptions) :
    SessionM (Except Fault LoadVerdict) :=
  Session.call (c.client.load none t.database t.table payload (o.inTransaction t.outcome.txnId))

/-- Ends the transaction. -/
def finish (t : LoadTransaction) (c : Coordinator) (ending : Client.Ending) :
    SessionM (Except Fault Unit) :=
  c.endTxn ending t.database t.outcome.txnId

end LoadTransaction

end StoreGate
