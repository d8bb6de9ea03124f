import StoreGate.Engine.Client
import StoreGate.Json.Printer
import StoreGate.Query.Result
import StoreGate.Text.Clip

/-!
# Statements

A statement is sent to the engine as it is, and the engine answers with an envelope: a code, zero
for success, a message, and the columns, rows and properties of the result.

* `Client.executeIn` — executes a statement in a database, or in none.
-/

namespace StoreGate

/-! ## Replies -/

/-- Columns, rows and properties of a reply. -/
structure QueryData where
  columns : List String
  rows : List (List Json)
  property : QueryStats.Property

namespace QueryData

instance : Inhabited QueryData := ⟨⟨[], [], .empty⟩⟩

/-- The name of a column; what else is said of it is passed over. -/
def decodeColumn : Decoder String :=
  Decode.record "" [Decode.field ["name"] .required Decode.text fun v _ => v]

def decode : Decoder QueryData :=
  Decode.record default [
    Decode.field ["meta"] .defaulted (Decode.list decodeColumn) fun v d => { d with columns := v },
    Decode.field ["result"] .defaulted (Decode.list (Decode.list Decode.data))
      fun v d => { d with rows := v },
    Decode.field ["property"] .defaulted (Decode.dict Decode.data)
      fun v d => { d with property := v }]

def result (d : QueryData) : QueryResult := ⟨d.columns, d.rows, QueryStats.ofProperty? d.property⟩

end QueryData

structure QueryReply where
  code : Int
  message : String
  data : Option QueryData

namespace QueryReply

instance : Inhabited QueryReply := ⟨⟨0, "", none⟩⟩

def fields : List (Decode.Field QueryReply) := [
  Decode.field ["code"] .defaulted Decode.int64 fun v r => { r with code := v },
  Decode.field ["msg"] .defaulted Decode.text fun v r => { r with message := v },
  Decode.field ["data"] .defaulted (Decode.optional QueryData.decode)
    fun v r => { r with data := v }]

def decode : Decoder QueryReply := Decode.record default fields

/-- The result that a reply of the engine holds. -/
def read (status : Nat) (body : String) : Except Fault QueryResult :=
  if status != 200 then
    .error (.database ("query failed: HTTP " ++ Decimal.natText status ++ ", response: " ++ body)
      none)
  else
    match Document.decodeText decode body with
    | .error e =>
      .error (.deserialization ("failed to decode query response: " ++ e.message ++ ": " ++ body))
    | .ok reply =>
      if reply.code != 0 then
        .error (.database ("query error: code " ++ Decimal.intText reply.code ++ ", msg: " ++
          reply.message ++ ", response: " ++ body) none)
      else .ok (reply.data.getD default).result

end QueryReply

/-! ## Requests -/

namespace Client

def queryPurpose : String := "query"

/-- A header of the database, if there is one with a name. -/
def databaseHeader (database : Option String) : List (String × String) :=
  match database with
  | some name => if name.isEmpty then [] else [("database", name)]
  | none => []

/-- The request of a statement, or why it cannot be made. -/
def queryRequest (c : Client) (deadline : Option Span) (e : Endpoint) (database : Option String)
    (sql : String) : Except TransportFault Request :=
  match Url.parse (e.baseUrl ++ "/api/v1/query") with
  | .error fault => .error ⟨false, fault.message⟩
  | .ok url =>
    let fields := ("content-type", "application/json;charset=UTF-8") :: databaseHeader database
    if fields.all fun f => HeaderValue.isValid f.2 then
      .ok {
        method := .post
        url := url
        headers := c.authorized (SortedMap.ofList fields)
        body := (Json.render (Json.object [("sql", .str sql)])).toUTF8
        patience := some (c.queryPatience deadline) }
    else .error ⟨false, "invalid header value"⟩

/-- What a reply to a statement says. -/
def queryOutcome : Outcome → Except Fault QueryResult
  | .error f => .error (Redirect.unsent queryPurpose f)
  | .ok reply =>
    match reply.text with
    | .error f => .error (Redirect.unread queryPurpose f)
    | .ok body => QueryReply.read reply.status body

/-- Sends a statement to a frontend. -/
def queryExchange (c : Client) (deadline : Option Span) (e : Endpoint) (database : Option String)
    (sql : String) : Exchange (Except Fault QueryResult) :=
  match c.queryRequest deadline e database sql with
  | .error f => .done (.error (Redirect.unsent queryPurpose f))
  | .ok request => .send request fun outcome => .done (queryOutcome outcome)

def emptyStatement : Fault := .invalidArgument "empty SQL statement"

/-- Executes a statement in the given database. -/
def executeIn (c : Client) (deadline : Option Span) (database : Option String) (sql : String) :
    Call QueryResult :=
  if Text.isBlankText sql then Call.refuse emptyStatement
  else c.ask .query fun e => c.queryExchange deadline e database sql

/-- Executes a statement in the database of the configuration. -/
def execute (c : Client) (deadline : Option Span) (sql : String) : Call QueryResult :=
  c.executeIn deadline c.config.database sql

/-- The longest part of a statement that is shown, in characters. -/
def previewLimit : Nat := 200

/-- A statement as it is shown before it is sent. -/
def preview (sql : String) : String := Text.clip previewLimit sql

end Client

end StoreGate
