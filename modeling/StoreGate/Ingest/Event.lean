import StoreGate.Fault
import StoreGate.Time.Rfc3339
import StoreGate.Search.Plan

/-!
# Raw events

An event of a data source has an envelope (id, source, type, time, tags) and data, as an object or
as the text that it came in. It becomes one row of the table that its type names.

* `RawEvent.check` — what an event needs to be ingested.
* `RawEvent.row` — the data with the envelope written over it.
-/

namespace StoreGate

structure RawEvent where
  /-- Given by the source; made up if it is missing. -/
  id : Option String
  source : String
  type : String
  timestamp : Instant
  data : Option (Dict Json)
  /-- The text that the event came in. -/
  rawPayload : Option String
  tags : Dict String

inductive EventFault where
  | noSource
  | noType
  | badType (name : String)
  | zeroTime
  | noData
deriving DecidableEq, Repr

namespace EventFault

def fault : EventFault → Fault
  | noSource => .invalidArgument "data_source_id cannot be empty"
  | noType => .invalidArgument "data_type cannot be empty"
  | badType name => (PlanFault.badName "data_type" name).fault
  | zeroTime => .invalidArgument "timestamp cannot be zero"
  | noData => .invalidArgument "either data or raw_payload must be provided"

end EventFault

namespace RawEvent

instance : Inhabited RawEvent := ⟨⟨none, "", "", default, none, none, .empty⟩⟩

/-- There is a text that the event came in. -/
def hasPayload (e : RawEvent) : Bool :=
  match e.rawPayload with
  | some p => !p.isEmpty
  | none => false

/-- What is wrong with an event, if anything; of several faults the first. -/
def check (e : RawEvent) : Except EventFault Unit :=
  if Text.isBlankText e.source then .error .noSource
  else if Text.isBlankText e.type then .error .noType
  else if !Sql.isName e.type then .error (.badType e.type)
  else if e.timestamp.second = 0 then .error .zeroTime
  else if e.data.isNone && !e.hasPayload then .error .noData
  else .ok ()

def isValid (e : RawEvent) : Bool := (check e).toBool

/-- The payload under its own name, unless the data has that name already. -/
def withPayload (e : RawEvent) (row : Dict Json) : Dict Json :=
  match e.rawPayload with
  | some raw => if (row.get? "raw_payload").isSome then row else row.insert "raw_payload" (.str raw)
  | none => row

/-- The row of an event; `madeUpId` stands for a missing id. -/
def row (e : RawEvent) (madeUpId : String) : Dict Json :=
  ((((e.withPayload (e.data.getD .empty)).insert "event_id" (.str (e.id.getD madeUpId))).insert
    "data_source_id" (.str e.source)).insert "event_time" (.str e.timestamp.writtenText)).insert
    "tags" (Json.ofDict .str e.tags)

/-! ## As data -/

def json (e : RawEvent) : Json :=
  Json.object (Json.optionalMember "id" (e.id.map .str) ++
    [("data_source_id", .str e.source), ("data_type", .str e.type),
      ("timestamp", e.timestamp.json)] ++
    Json.optionalMember "data" (e.data.map (Json.ofDict fun v => v)) ++
    Json.optionalMember "raw_payload" (e.rawPayload.map .str) ++
    [("tags", Json.ofDict .str e.tags)])

def decode : Decoder RawEvent :=
  Decode.record default [
    Decode.field ["id"] .defaulted (Decode.optional Decode.text) fun v e => { e with id := v },
    Decode.field ["data_source_id", "dataSourceId"] .required Decode.text
      fun v e => { e with source := v },
    Decode.field ["data_type", "dataType"] .required Decode.text fun v e => { e with type := v },
    Decode.field ["timestamp"] .required Instant.decode fun v e => { e with timestamp := v },
    Decode.field ["data"] .defaulted (Decode.optional (Decode.dict Decode.data))
      fun v e => { e with data := v },
    Decode.field ["raw_payload", "rawPayload"] .defaulted (Decode.optional Decode.text)
      fun v e => { e with rawPayload := v },
    Decode.field ["tags"] .defaulted (Decode.dict Decode.text) fun v e => { e with tags := v }]

end RawEvent

end StoreGate
