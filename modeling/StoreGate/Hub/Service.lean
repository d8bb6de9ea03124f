import StoreGate.Envelope
import StoreGate.Hub.Command
import StoreGate.Hub.Config
import StoreGate.Engine.Query
import StoreGate.Query.Describe
import StoreGate.Txn.Coordinator

/-!
# The server

The server carries out commands with the engine and answers each request with an envelope.

* `Hub.perform` — what a command does, and the data of its answer.
* `Hub.answer` — the answer to a request; one that is rejected does nothing.
-/

namespace StoreGate

/-- What a request meets by chance: the time, how long its search takes, and identifiers that are
made up for it. -/
structure Moment where
  now : Instant
  tookMs : Nat
  ids : Nat → Uuid

structure HubReply where
  status : Nat
  /-- Nothing but a status, if the request was rejected or the body was not asked for. -/
  body : Option Json

namespace HubReply

/-- The answer that a command came to. -/
def ofOutcome : Except Fault Json → HubReply
  | .ok data => ⟨200, some (Envelope.success data)⟩
  | .error f => ⟨f.kind.httpStatus, some (Envelope.failure f)⟩

end HubReply

structure Hub where
  config : HubConfig
  client : Client

namespace Hub

/-- The server of a configuration with at least one frontend. -/
def new (config : HubConfig) : Except Fault Hub :=
  (Client.new config.engine).map fun client => ⟨config, client⟩

def coordinator (h : Hub) : Coordinator := ⟨h.client, h.config.leaseGrace⟩

/-! ## Statements and searches -/

def healthJson (h : Hub) (open_ : Nat) : Json :=
  Json.object [("status", .str "ok"), ("version", .str version),
    ("query_endpoints", Json.nat h.client.selector.query.length),
    ("load_endpoints", Json.nat h.client.selector.load.length),
    ("open_transactions", Json.nat open_)]

/-- A result with its rows also keyed by column. -/
def statementJson (r : QueryResult) : Json :=
  Json.object ([("columns", Json.ofStrings r.columns), ("rows", .arr (r.rows.map .arr)),
    ("records", .arr (r.rowMaps.map (Json.ofDict id)))] ++
    Json.optionalMember "stats" (r.stats.map QueryStats.json))

/-- Executes a statement in the database of the configuration. -/
def query (h : Hub) (sql : String) : SessionM (Except Fault QueryResult) :=
  Session.call (h.client.execute none sql)

/-- Executes a statement in its own database, or else in that of the configuration. -/
def execute (h : Hub) (b : StatementBody) : SessionM (Except Fault QueryResult) :=
  Session.call (h.client.executeIn none (b.database <|> h.config.engine.database) b.sql)

/-! ## Loads -/

/-- Passes names of a database and of a table. -/
def checkNames (database table : String) : Except Fault Unit := do
  (checkName "database" database).mapError PlanFault.fault
  (checkName "table" table).mapError PlanFault.fault

def emptyLoad : Fault := .invalidArgument "load body is empty"

/-- The options of a load, if its names, its payload and its parameters are in order. -/
def loadOptions (database table : String) (parameters : LoadParameters) (payload : ByteArray) :
    Except Fault LoadOptions := do
  checkNames database table
  if payload.isEmpty then throw emptyLoad
  parameters.options

/-- Loads a payload that came over HTTP. -/
def load (h : Hub) (database table : String) (parameters : LoadParameters) (payload : ByteArray) :
    SessionM (Except Fault LoadVerdict) :=
  match loadOptions database table parameters payload with
  | .error f => pure (.error f)
  | .ok options => Session.call (h.client.load none database table payload options)

/-- Loads text into a table. -/
def loadText (h : Hub) (database table payload : String) (options : LoadOptions) :
    SessionM (Except Fault LoadVerdict) :=
  Session.call (h.client.load none database table payload.toUTF8 options)

/-! ## Transactions -/

/-- The label of a transaction: the caller's, unless it is blank. -/
def labelOf (label : Option String) (id : Uuid) : String :=
  (label.filter fun l => !Text.isBlankText l).getD ("ds_txn_" ++ id.simple)

/-- Begins a transaction for a table. -/
def beginTxn (h : Hub) (m : Moment) (b : BeginBody) : SessionM (Except Fault BeginOutcome) :=
  match checkNames b.database b.table with
  | .error f => pure (.error f)
  | .ok () =>
    h.coordinator.beginTxn m.now b.database b.table (labelOf b.label (m.ids 0))
      (b.timeoutSecs.getD defaultLoadTimeout)

/-- Ends a transaction of a database. -/
def endTxn (h : Hub) (how : Client.Ending) (database : String) (txnId : Int) :
    SessionM (Except Fault Unit) :=
  match checkName "database" database with
  | .error e => pure (.error e.fault)
  | .ok () => h.coordinator.endTxn how database txnId

/-- What is said of a transaction that has ended. -/
def endedJson (how : Client.Ending) (txnId : Int) : Json :=
  Json.object [("txn_id", Json.int txnId), ("state", .str how.state.text)]

/-- The leases that are listed, by number. -/
def listed (r : Registry) (openOnly : Bool) : List Lease :=
  if openOnly then r.stillOpen else r.values

/-! ## Commands -/

/-- Carries out a command and gives the data of its answer. -/
def perform (h : Hub) (m : Moment) : Command → SessionM (Except Fault Json)
  | .health => do return .ok (h.healthJson (← get).leases.stillOpen.length)
  | .execute b => do return (← h.execute b).map statementJson
  | .search r => do return (← r.run h.query h.config.search).map fun found => found.json m.tookMs
  | .ingest events => do
    return .ok (← IngestReport.ingest h.loadText h.config.ingestion m.ids events).json
  | .load database table parameters payload => do
    return (← h.load database table parameters payload).map LoadVerdict.json
  | .transactions openOnly => do
    return .ok (.arr ((listed (← get).leases openOnly).map Lease.json))
  | .beginTxn b => do return (← h.beginTxn m b).map BeginOutcome.json
  | .endTxn how database txnId => do
    return (← h.endTxn how database txnId).map fun () => endedJson how txnId
  | .describe database table => do
    return (← TableSchema.describe h.query database table).map TableSchema.json

/-- The answer to a request. -/
def answer (h : Hub) (m : Moment) (r : HubRequest) : SessionM HubReply :=
  if r.method = Resource.optionsMethod then pure ⟨200, none⟩
  else
    match Command.ofRequest r with
    | .error rejection => pure ⟨rejection.status, none⟩
    | .ok command => do
      let reply := HubReply.ofOutcome (← h.perform m command)
      return if r.method = Resource.headMethod then { reply with body := none } else reply

end Hub

end StoreGate
