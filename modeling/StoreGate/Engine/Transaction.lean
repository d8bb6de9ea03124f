import StoreGate.Engine.Load
import StoreGate.Txn.Lease

/-!
# Control of transactions

A transaction is begun under a label, and committed or aborted by its number. Each is one request
without a body, answered by a short record.

* `Client.beginTxn` — a label that already names an open transaction gives that one back.
* `Client.endTxn` — a commit takes nothing but success; an abort takes any answer that can be read,
  for the transaction may be gone already.
-/

namespace StoreGate

/-! ## Replies -/

/-- The engine's answer to a control request. -/
structure TxnReply where
  status : LoadStatus
  txnId : Int
  /-- The open transaction that the label names already. -/
  existingTxnId : Option Int
  label : Option String
  message : String
deriving DecidableEq, Repr

namespace TxnReply

instance : Inhabited TxnReply := ⟨⟨.fail, 0, none, none, ""⟩⟩

def fields : List (Decode.Field TxnReply) := [
  Decode.field ["Status"] .defaulted LoadStatus.decode fun v r => { r with status := v },
  Decode.field ["TxnId"] .defaulted Decode.int64 fun v r => { r with txnId := v },
  Decode.field ["ExistingTxnId"] .defaulted (Decode.optional Decode.int64)
    fun v r => { r with existingTxnId := v },
  Decode.field ["Label"] .defaulted (Decode.optional Decode.text)
    fun v r => { r with label := v },
  Decode.field ["msg", "Message"] .defaulted Decode.text fun v r => { r with message := v }]

def decode : Decoder TxnReply := Decode.record default fields

/-- The reply that a body spells. -/
def parse (body : String) : Except DecodeError TxnReply := Document.decodeText decode body

/-- The number of a transaction that is open already; only positive ones count. -/
def existing (r : TxnReply) : Option Int := r.existingTxnId.filter fun id => decide (0 < id)

def beginFailed (r : TxnReply) : Fault :=
  .database ("failed to begin transaction: " ++ r.status.text ++ " - " ++ r.message) none

/-- What a reply to a begin under a label says. -/
def beginOutcome (r : TxnReply) (label : String) : Except Fault BeginOutcome :=
  match r.status, r.existing with
  | .success, none => .ok ⟨r.txnId, label, false⟩
  | .success, some id | .labelAlreadyExists, some id => .ok ⟨id, r.label.getD label, true⟩
  | _, _ => .error r.beginFailed

/-- What a reply to a commit says. -/
def commitOutcome (r : TxnReply) (txnId : Int) : Except Fault Unit :=
  if r.status = .success then .ok ()
  else
    .error (.database ("failed to commit transaction " ++ Decimal.intText txnId ++ ": " ++
      r.status.text ++ " - " ++ r.message) none)

end TxnReply

/-! ## Requests -/

namespace Client

/-- The fields of every control request. -/
def commonControlHeaders : Headers := SortedMap.ofList [("expect", "100-continue")]

def badControlValue (purpose name : String) : Fault :=
  .invalidArgument ("invalid value for " ++ purpose ++ " header " ++ name)

/-- Sets a field, if its value may be sent. -/
def setControlHeader (purpose : String) (headers : Headers) (field : String × String) :
    Except Fault Headers :=
  if HeaderValue.isValid field.2 then .ok (headers.insert field.1 field.2)
  else .error (badControlValue purpose field.1)

/-- What the last answer to a control request says. -/
def controlOutcome (purpose : String) (status : Nat) (body : String) : Except Fault TxnReply :=
  if status < 200 ∨ 300 ≤ status then
    .error (.database (purpose ++ " failed with HTTP " ++ Decimal.natText status ++ ": " ++ body)
      none)
  else
    (TxnReply.parse body).mapError fun e =>
      .deserialization ("failed to decode " ++ purpose ++ " response: " ++ e.message ++ ": " ++
        body)

/-- Sends a control request and reads its answer. -/
def control (c : Client) (deadline : Option Span) (target : String)
    (fields : List (String × String)) (purpose : String) : Exchange (Except Fault TxnReply) :=
  match Url.parse target with
  | .error e => .done (.error (badTarget purpose e))
  | .ok url =>
    match fields.foldlM (setControlHeader purpose) commonControlHeaders with
    | .error f => .done (.error f)
    | .ok headers => do
      let answer ← Redirect.putFollowing
        ⟨c.authorized headers, ByteArray.empty, some (c.queryPatience deadline), purpose⟩ url
      return answer >>= fun (status, body) => controlOutcome purpose status body

/-! ## Begin -/

def beginPurpose : String := "begin transaction"

def beginTarget (e : Endpoint) (database table : String) : String :=
  e.baseUrl ++ "/api/" ++ database ++ "/" ++ table ++ "/_stream_load_2pc?txn_action=begin"

def beginExchange (c : Client) (deadline : Option Span) (e : Endpoint)
    (database table label : String) (timeoutSecs : Nat) : Exchange (Except Fault BeginOutcome) := do
  let reply ← c.control deadline (beginTarget e database table)
    [("label", label), ("timeout", Decimal.natText timeoutSecs)] beginPurpose
  return reply >>= fun r => r.beginOutcome label

/-- Begins a transaction under a label. -/
def beginTxn (c : Client) (deadline : Option Span) (database table label : String)
    (timeoutSecs : Nat) : Call BeginOutcome :=
  if maxTimeoutSecs < timeoutSecs then Call.refuse (tooLong timeoutSecs)
  else c.ask .load fun e => c.beginExchange deadline e database table label timeoutSecs

/-! ## Commit and abort -/

/-- How a transaction ends. -/
inductive Ending where
  | commit
  | abort
deriving DecidableEq, Repr

namespace Ending

def text : Ending → String
  | commit => "commit"
  | abort => "abort"

def purpose (e : Ending) : String := e.text ++ " transaction"

/-- The state of a transaction that has ended so. -/
def state : Ending → TxnState
  | commit => .committed
  | abort => .aborted

/-- What a reply says. -/
def outcome (e : Ending) (txnId : Int) (r : TxnReply) : Except Fault Unit :=
  match e with
  | commit => r.commitOutcome txnId
  | abort => .ok ()

end Ending

def endTarget (e : Endpoint) (database : String) (ending : Ending) (txnId : Int) : String :=
  e.baseUrl ++ "/api/" ++ database ++ "/_stream_load_2pc?txn_action=" ++ ending.text ++
    "&txn_id=" ++ Decimal.intText txnId

def endExchange (c : Client) (deadline : Option Span) (e : Endpoint) (ending : Ending)
    (database : String) (txnId : Int) : Exchange (Except Fault Unit) := do
  let reply ← c.control deadline (endTarget e database ending txnId) [] ending.purpose
  return reply >>= ending.outcome txnId

/-- Ends a transaction. -/
def endTxn (c : Client) (deadline : Option Span) (ending : Ending) (database : String)
    (txnId : Int) : Call Unit :=
  c.ask .load fun e => c.endExchange deadline e ending database txnId

end Client

end StoreGate
