import StoreGate.Time.Rfc3339
import StoreGate.Time.Span

/-!
# Transactions and their leases

A transaction that was begun here is remembered as a `Lease` until it is final and its time is over.
A lease that is still open past its expiry belongs to nobody any more.

* `Lease.expiry` — begin, timeout and grace added up, or the last instant of the calendar.
-/

namespace StoreGate

inductive TxnState where
  | notStarted
  | begun
  | committed
  | aborted
deriving DecidableEq, Repr, Inhabited

namespace TxnState

/-- Nothing can change any more. -/
def isTerminal : TxnState → Bool
  | committed | aborted => true
  | notStarted | begun => false

def text : TxnState → String
  | notStarted => "not_started"
  | begun => "begun"
  | committed => "committed"
  | aborted => "aborted"

def ofText? (s : String) : Option TxnState :=
  [notStarted, begun, committed, aborted].find? fun t => decide (t.text = s)

theorem ofText?_text (t : TxnState) : ofText? t.text = some t := by cases t <;> decide

def decode : Decoder TxnState := Decode.choice "transaction state" ofText?

end TxnState

/-- What beginning a transaction came to. -/
structure BeginOutcome where
  txnId : Int
  label : String
  /-- The label already named an open transaction, which may hold data. -/
  reused : Bool
deriving DecidableEq, Repr

namespace BeginOutcome

def json (o : BeginOutcome) : Json :=
  Json.object [("txn_id", Json.int o.txnId), ("label", .str o.label), ("reused", .bool o.reused)]

end BeginOutcome

/-! ## Leases -/

structure Lease where
  txnId : Int
  label : String
  database : String
  table : String
  state : TxnState
  beganAt : Instant
  /-- The engine's timeout and a grace period after the begin. -/
  expiresAt : Instant
deriving DecidableEq, Repr, Inhabited

namespace Lease

/-- The time is over. -/
def isPast (l : Lease) (now : Instant) : Bool := decide (l.expiresAt ≤ now)

/-- Still open past its expiry. -/
def isExpired (l : Lease) (now : Instant) : Bool := l.state == .begun && l.isPast now

/-- Final and past its expiry: nothing is left to do for it. -/
def isSpent (l : Lease) (now : Instant) : Bool := l.state.isTerminal && l.isPast now

/-- When a lease that begins `now` expires. -/
def expiry (now : Instant) (timeoutSecs : Nat) (grace : Span) : Instant :=
  (((Span.plus? (Span.ofSeconds timeoutSecs) grace).bind Span.signed?).bind now.plus?).getD
    Instant.latest

def json (l : Lease) : Json :=
  Json.object [("txn_id", Json.int l.txnId), ("label", .str l.label), ("database", .str l.database),
    ("table", .str l.table), ("state", .str l.state.text), ("began_at", l.beganAt.json),
    ("expires_at", l.expiresAt.json)]

def decode : Decoder Lease :=
  Decode.record default [
    Decode.field ["txn_id"] .required Decode.int64 fun v l => { l with txnId := v },
    Decode.field ["label"] .required Decode.text fun v l => { l with label := v },
    Decode.field ["database"] .required Decode.text fun v l => { l with database := v },
    Decode.field ["table"] .required Decode.text fun v l => { l with table := v },
    Decode.field ["state"] .required TxnState.decode fun v l => { l with state := v },
    Decode.field ["began_at"] .required Instant.decode fun v l => { l with beganAt := v },
    Decode.field ["expires_at"] .required Instant.decode fun v l => { l with expiresAt := v }]

end Lease

end StoreGate
