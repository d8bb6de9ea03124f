import StoreGate.SortedMap
import StoreGate.Txn.Lease

/-!
# The registry of leases

The leases of the transactions that were begun here, by number. Beginning a transaction adds a lease
or renews the one there is; ending it marks the lease; a lease that is final and past its expiry is
dropped.

* `Registry.get?_mark` — a mark changes the state of one lease and nothing else.
* `Registry.get?_track` — a begin changes the lease of its own number alone.
-/

namespace StoreGate

abbrev Registry := SortedMap Int Lease

namespace Registry

/-- The lease of a transaction that has just begun. -/
def freshLease (o : BeginOutcome) (database table : String) (now : Instant) (timeoutSecs : Nat)
    (grace : Span) : Lease where
  txnId := o.txnId
  label := o.label
  database := database
  table := table
  state := .begun
  beganAt := now
  expiresAt := Lease.expiry now timeoutSecs grace

/-- The lease after a begin: a transaction that was there already keeps its state and expiry unless
it is new to the engine. -/
def trackedLease (known : Option Lease) (o : BeginOutcome) (database table : String)
    (now : Instant) (timeoutSecs : Nat) (grace : Span) : Lease :=
  let lease := known.getD (freshLease o database table now timeoutSecs grace)
  if o.reused then lease
  else { lease with state := .begun, expiresAt := Lease.expiry now timeoutSecs grace }

/-- Records what a begin came to. -/
def track (r : Registry) (o : BeginOutcome) (database table : String) (now : Instant)
    (timeoutSecs : Nat) (grace : Span) : Registry :=
  r.insert o.txnId (trackedLease (r.get? o.txnId) o database table now timeoutSecs grace)

/-- Records the state of a transaction, if it is one of these. -/
def mark (r : Registry) (txnId : Int) (state : TxnState) : Registry :=
  r.modify txnId fun l => { l with state := state }

/-- Drops the leases that are final and past their expiry. -/
def dropSpent (r : Registry) (now : Instant) : Registry := r.filter fun _ l => !l.isSpent now

/-- The leases that are open past their expiry, by number. -/
def expired (r : Registry) (now : Instant) : List Lease := r.values.filter fun l => l.isExpired now

/-- The leases of transactions that are still open, by number. -/
def stillOpen (r : Registry) : List Lease := r.values.filter fun l => l.state == .begun

theorem get?_track (r : Registry) (o : BeginOutcome) (database table : String) (now : Instant)
    (timeoutSecs : Nat) (grace : Span) (id : Int) :
    (r.track o database table now timeoutSecs grace).get? id =
      if o.txnId = id then
        some (trackedLease (r.get? o.txnId) o database table now timeoutSecs grace)
      else r.get? id :=
  SortedMap.get?_insert r o.txnId _ id

theorem get?_mark (r : Registry) (txnId : Int) (state : TxnState) (id : Int) :
    (r.mark txnId state).get? id =
      if id = txnId then (r.get? id).map fun l => { l with state := state } else r.get? id :=
  SortedMap.get?_modify r txnId _ id

end Registry

end StoreGate
