import StoreGate.Ingest.Event

/-!
# Bodies of requests

The JSON that goes with a statement, with events, and with the begin of a transaction. What may be
left out may also be `null`.
-/

namespace StoreGate

/-- A statement and the database that it is executed in. -/
structure StatementBody where
  sql : String
  database : Option String
deriving DecidableEq, Repr, Inhabited

namespace StatementBody

def json (b : StatementBody) : Json :=
  Json.object [("sql", .str b.sql), ("database", Json.ofOption .str b.database)]

def decode : Decoder StatementBody :=
  Decode.record default [
    Decode.field ["sql"] .required Decode.text fun v b => { b with sql := v },
    Decode.field ["database"] .defaulted (Decode.optional Decode.text)
      fun v b => { b with database := v }]

end StatementBody

/-- The table and the label of a transaction to be begun. -/
structure BeginBody where
  database : String
  table : String
  /-- Made up if it is missing or blank. -/
  label : Option String
  timeoutSecs : Option Nat
deriving DecidableEq, Repr, Inhabited

namespace BeginBody

def json (b : BeginBody) : Json :=
  Json.object [("database", .str b.database), ("table", .str b.table),
    ("label", Json.ofOption .str b.label), ("timeout_secs", Json.ofOption Json.nat b.timeoutSecs)]

def decode : Decoder BeginBody :=
  Decode.record default [
    Decode.field ["database"] .required Decode.text fun v b => { b with database := v },
    Decode.field ["table"] .required Decode.text fun v b => { b with table := v },
    Decode.field ["label"] .defaulted (Decode.optional Decode.text)
      fun v b => { b with label := v },
    Decode.field ["timeout_secs"] .defaulted (Decode.optional Decode.nat64)
      fun v b => { b with timeoutSecs := v }]

end BeginBody

namespace EventsBody

/-- The body that holds the given events. -/
def json (events : Json) : Json := Json.object [("events", events)]

def decode : Decoder (List RawEvent) :=
  Decode.record [] [
    Decode.field ["events"] .required (Decode.list RawEvent.decode) fun v _ => v]

end EventsBody

end StoreGate
