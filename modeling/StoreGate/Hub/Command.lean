import StoreGate.Hub.Body
import StoreGate.Hub.LoadParameters
import StoreGate.Hub.Resource
import StoreGate.Http.MediaType
import StoreGate.Search.Request

/-!
# Commands to the server

A request is read completely before anything is done: its path, its query, and at last its body. A
request that cannot be read is rejected with a status and nothing else.

* `Command.ofRequest` — the command that a request spells, or why it is none.
-/

namespace StoreGate

/-- A request as the server meets it. -/
structure HubRequest where
  method : String
  /-- Path and query. -/
  target : String
  contentType : Option String
  body : ByteArray

inductive Rejection where
  | noResource
  | wrongMethod
  /-- A part of the path is no text, or no number where one has to be. -/
  | badPath
  | badQuery
  | notJson
  | tooLarge
  /-- The body is not JSON. -/
  | malformed
  /-- The body is JSON of another shape. -/
  | mismatch
deriving DecidableEq, Repr

namespace Rejection

/-- The status of the answer. -/
def status : Rejection → Nat
  | noResource => 404
  | wrongMethod => 405
  | badPath | badQuery | malformed => 400
  | notJson => 415
  | tooLarge => 413
  | mismatch => 422

end Rejection

namespace HubRequest

/-- The target from its path on; a scheme and a host before it do not matter. -/
def tail (r : HubRequest) : Url.Tail :=
  let cs := r.target.toList
  match cs.dropWhile Url.isSchemeChar with
  | ':' :: '/' :: '/' :: rest => Url.splitTail (rest.dropWhile fun c => !Url.endsAuthority c)
  | _ => Url.splitTail cs

/-- The fields of the query. -/
def fields (r : HubRequest) : List (String × String) := Percent.pairs (r.tail.query.getD [])

/-- The size that a body may have. -/
def bodyLimit : Nat := 2 * 1024 * 1024

/-- The body, unless it is too large. -/
def payload (r : HubRequest) : Except Rejection ByteArray :=
  if bodyLimit < r.body.size then .error .tooLarge else .ok r.body

/-- Reads the JSON at the start of a body. -/
def decodeBody {α : Type} (read : Decoder α) (body : ByteArray) : Except Rejection α :=
  match String.fromUTF8? body with
  | none => .error .malformed
  | some text =>
    (read nestingLimit (Document.parseStart text).doc).mapError fun e =>
      if e.isMismatch then .mismatch else .malformed

/-- The body, if it is there as JSON. -/
def json {α : Type} (r : HubRequest) (read : Decoder α) : Except Rejection α := do
  if !(r.contentType.map MediaType.isJson).getD false then throw .notJson
  decodeBody read (← r.payload)

end HubRequest

/-! ## Parts of a path -/

/-- A segment as text. -/
def segmentText (s : String) : Except Rejection String :=
  match Utf8.decode? (Percent.decode s.toList) with
  | some cs => .ok (String.ofList cs)
  | none => .error .badPath

/-- A segment as the number of a transaction. -/
def segmentTxnId (s : String) : Except Rejection Int := do
  match Decimal.readIntIn? Json.minInt64 Json.maxInt64 (← segmentText s).toList with
  | some n => return n
  | none => throw .badPath

/-! ## Commands -/

inductive Command where
  | health
  | execute (statement : StatementBody)
  | search (request : SearchRequest)
  | ingest (events : List RawEvent)
  | load (database table : String) (parameters : LoadParameters) (payload : ByteArray)
  /-- Lists transactions, all of them or the open ones. -/
  | transactions (openOnly : Bool)
  | beginTxn (body : BeginBody)
  | endTxn (how : Client.Ending) (database : String) (txnId : Int)
  | describe (database table : String)

namespace Command

/-- Whether the last field of the name `state` asks for open transactions. -/
def asksForOpen (fields : List (String × String)) : Bool :=
  (fields.reverse.find? fun f => f.1 == "state").map (·.2) == some TxnState.begun.text

/-- The command of a request for a resource. -/
def ofResource (r : HubRequest) : Resource → Except Rejection Command
  | .health => .ok .health
  | .statements => (r.json StatementBody.decode).map .execute
  | .searches => (r.json SearchRequest.decode).map .search
  | .events => (r.json EventsBody.decode).map .ingest
  | .load database table => do
    let database ← segmentText database
    let table ← segmentText table
    match LoadParameters.read? r.fields with
    | none => throw .badQuery
    | some parameters => return .load database table parameters (← r.payload)
  | .transactions => .ok (.transactions (asksForOpen r.fields))
  | .newTransactions => (r.json BeginBody.decode).map .beginTxn
  | .ending how database txnId => do
    return .endTxn how (← segmentText database) (← segmentTxnId txnId)
  | .schema database table => do
    return .describe (← segmentText database) (← segmentText table)

/-- The command that a request spells. -/
def ofRequest (r : HubRequest) : Except Rejection Command :=
  match Resource.ofPath? r.tail.path with
  | none => .error .noResource
  | some resource =>
    if resource.takes r.method then ofResource r resource else .error .wrongMethod

end Command

end StoreGate
