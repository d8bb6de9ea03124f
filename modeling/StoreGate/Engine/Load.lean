import StoreGate.Engine.Client
import StoreGate.Load.Options

/-!
# Bulk loads

A load puts its payload to an address made of database and table, with its options as header fields.
The engine answers with a verdict, and only a verdict of success is a success.

* `Client.load` — loads a payload.
* `Client.loadHeaders` — the header fields of a load; later ones replace earlier ones.
-/

namespace StoreGate

namespace Client

/-! ## Header fields -/

def badHeaderName (name : String) : Fault :=
  .invalidArgument ("invalid load header name: " ++ name)

def badHeaderValue (name : String) : Fault :=
  .invalidArgument ("invalid value for load header " ++ name)

/-- Sets a field, if its name and its value may be sent. -/
def setLoadHeader (headers : Headers) (field : String × String) : Except Fault Headers :=
  match HeaderName.ofText? field.1 with
  | none => .error (badHeaderName field.1)
  | some name =>
    if HeaderValue.isValid field.2 then .ok (headers.insert name field.2)
    else .error (badHeaderValue name)

/-- The fields of every load. -/
def commonLoadHeaders : Headers :=
  SortedMap.ofList [("expect", "100-continue"), ("content-type", "application/octet-stream")]

/-- The header fields of a load with the given options. -/
def loadHeaders (o : LoadOptions) : Except Fault Headers :=
  o.wireHeaders.foldlM setLoadHeader commonLoadHeaders

/-! ## Verdicts -/

def loadPurpose : String := "stream load"

/-- A verdict that is none of success. -/
def loadFailed (v : LoadVerdict) : Fault :=
  .database ("stream load failed: status " ++ v.status.text ++ ", message: " ++ v.message ++
    ", error url: " ++ v.errorUrl.getD "-") (some v)

/-- An answer that is no verdict. -/
def unreadableVerdict (status : Nat) (e : DecodeError) (body : String) : Fault :=
  .deserialization ((if status != 200 then
      "stream load failed with HTTP " ++ Decimal.natText status ++ " and unparsable body"
    else "failed to decode stream load response") ++ ": " ++ e.message ++ ": " ++ body)

/-- What the last answer to a load says. Whether its rows balance makes no difference to the caller:
if they do not, only the log tells, which is left out. -/
def loadOutcome (status : Nat) (body : String) : Except Fault LoadVerdict :=
  match LoadVerdict.parse body with
  | .error e => .error (unreadableVerdict status e body)
  | .ok v => if v.isSuccessEquivalent then .ok v else .error (loadFailed v)

/-! ## Loads -/

/-- The time that is added to the engine's own limit, so that the engine gives up first. -/
def loadSlack : Span := Span.ofSeconds 30

/-- The time to wait for a load. -/
def loadPatience (deadline : Option Span) (o : LoadOptions) : Span :=
  deadline.getD (min Span.longest (Span.ofSeconds o.timeoutSecs + loadSlack))

def badTarget (purpose : String) (e : UrlFault) : Fault :=
  .invalidArgument ("invalid " ++ purpose ++ " target: " ++ e.message)

/-- Where a load goes. -/
def loadTarget (e : Endpoint) (database table : String) : String :=
  e.baseUrl ++ "/api/" ++ database ++ "/" ++ table ++ "/_stream_load"

/-- Sends a payload to a frontend. -/
def loadExchange (c : Client) (deadline : Option Span) (e : Endpoint) (database table : String)
    (payload : ByteArray) (o : LoadOptions) (headers : Headers) :
    Exchange (Except Fault LoadVerdict) :=
  match Url.parse (loadTarget e database table) with
  | .error fault => .done (.error (badTarget loadPurpose fault))
  | .ok url => do
    let answer ← Redirect.putFollowing
      ⟨c.authorized headers, payload, some (loadPatience deadline o), loadPurpose⟩ url
    return answer >>= fun (status, body) => loadOutcome status body

/-- Loads a payload into a table. -/
def load (c : Client) (deadline : Option Span) (database table : String) (payload : ByteArray)
    (o : LoadOptions) : Call LoadVerdict :=
  if maxTimeoutSecs < o.timeoutSecs then Call.refuse (tooLong o.timeoutSecs)
  else
    match loadHeaders o with
    | .error f => Call.refuse f
    | .ok headers =>
      c.ask .load fun e => c.loadExchange deadline e database table payload o headers

end Client

end StoreGate
