import StoreGate.Cli.Action
import StoreGate.Envelope
import StoreGate.Http.Exchange
import StoreGate.Http.Status
import StoreGate.Hub.Resource

/-!
# Calls of the server

An action is one request to the server, and its answer is an envelope.

* `Action.call` — what an action asks for.
* `ApiCall.request` — the request, for a server at a given address. Names become part of the path as
  they stand.
* `readOutcome` — the data of the answer, or what is to be said about it.
-/

namespace StoreGate

namespace Cli

/-- What goes with a request. -/
inductive Payload where
  | nothing
  | json (value : Json)
  | bytes (content : ByteArray)

/-- What is asked of the server. -/
structure ApiCall where
  resource : Resource
  /-- Fields of the query. -/
  fields : List (String × String)
  payload : Payload

/-! ## Files -/

/-- Files by name: their contents, or why they cannot be read. -/
abbrev Files := String → Except String ByteArray

def unreadableFile (name detail : String) : String := "cannot read " ++ name ++ ": " ++ detail

def invalidFile (name : String) (e : DecodeError) : String :=
  name ++ " is not valid JSON: " ++ e.message

def notEvents (name : String) : String := name ++ " must hold a JSON array of events"

def contentOf (files : Files) (name : String) : Except String ByteArray :=
  (files name).mapError (unreadableFile name)

/-- The events of a file. -/
def eventsOf (files : Files) (name : String) : Except String Json := do
  let content ← contentOf files name
  match String.fromUTF8? content with
  | none => throw (unreadableFile name "the file is not UTF-8")
  | some text =>
    let events ← (Json.parse text).mapError (invalidFile name)
    if events.arr?.isNone then throw (notEvents name)
    return events

/-! ## Requests -/

/-- The file that an action reads. -/
def Action.file? : Action → Option String
  | .load l => some l.file
  | .ingest file => some file
  | _ => none

/-- What an action asks for, if its file is in order. -/
def Action.call (files : Files) : Action → Except String ApiCall
  | .health => .ok ⟨.health, [], .nothing⟩
  | .query b => .ok ⟨.statements, [], .json b.json⟩
  | .search r => .ok ⟨.searches, [], .json r.json⟩
  | .load l => (contentOf files l.file).map fun content =>
    ⟨.load l.database l.table, l.parameters.fields, .bytes content⟩
  | .ingest file => (eventsOf files file).map fun events =>
    ⟨.events, [], .json (EventsBody.json events)⟩
  | .beginTxn b => .ok ⟨.newTransactions, [], .json b.json⟩
  | .endTxn how database txnId =>
    .ok ⟨.ending how database (Decimal.intText txnId), [], .nothing⟩
  | .listTxns openOnly =>
    .ok ⟨.transactions, if openOnly then [("state", TxnState.begun.text)] else [], .nothing⟩
  | .schema database table => .ok ⟨.schema database table, [], .nothing⟩

def Payload.body : Payload → ByteArray
  | nothing => ByteArray.empty
  | json v => (Json.render v).toUTF8
  | bytes content => content

def Payload.headers : Payload → Headers
  | json _ => SortedMap.ofList [("content-type", "application/json")]
  | nothing | bytes _ => .empty

/-- The address of the server, unless another one is given. -/
def defaultBase : String := "http://127.0.0.1:8080"

/-- An address without the slashes at its end. -/
def trimBase (base : String) : String :=
  String.ofList (base.toList.reverse.dropWhile fun c => c == '/').reverse

/-- Where a call goes. -/
def ApiCall.url (c : ApiCall) (base : String) : Except UrlFault Url :=
  (Url.parse (trimBase base ++ c.resource.path)).map fun u =>
    if c.fields.isEmpty then u else u.withFields c.fields

def ApiCall.request (c : ApiCall) (base : String) : Except UrlFault Request :=
  (c.url base).map fun url => ⟨c.resource.method, url, c.payload.headers, c.payload.body, none⟩

/-! ## Answers -/

def unreachable (detail : String) : String := "hub unreachable: " ++ detail

def unreadableAnswer (status : Nat) (detail : String) : String :=
  "unreadable hub response (HTTP " ++ HttpStatus.text status ++ "): " ++ detail

/-- The value that the bytes of an answer spell, or why they spell none. -/
def readValue (bytes : ByteArray) : Except String Json :=
  match Utf8.decode? bytes.data.toList with
  | none => .error "the bytes are no text"
  | some cs => (Json.parse (String.ofList cs)).mapError DecodeError.message

/-- The data of an answer. -/
def readOutcome : Outcome → Except String Json
  | .error f => .error (unreachable f.detail)
  | .ok reply =>
    match reply.body with
    | .error f => .error (unreadableAnswer reply.status f.detail)
    | .ok bytes =>
      match readValue bytes with
      | .error detail => .error (unreadableAnswer reply.status detail)
      | .ok v => Envelope.unwrap reply.status v

/-- Asks the server at an address. -/
def ApiCall.send (c : ApiCall) (base : String) : Exchange (Except String Json) :=
  match c.request base with
  | .error e => .done (.error (unreachable e.message))
  | .ok request => .send request fun outcome => .done (readOutcome outcome)

end Cli

end StoreGate
