import StoreGate.Page
import StoreGate.Time.Rfc3339

/-!
# Search requests

A request names the words to look for, the tables and fields to look in, and conditions that every
row has to meet. A table may have a list of fields of its own.

* `SearchRequest.fieldsFor` — the fields that are searched in a table.
-/

namespace StoreGate

/-- A range of time on a column; either end may be open. -/
structure TimeRange where
  /-- The column; a default one if there is none. -/
  field : Option String
  start : Option Instant
  finish : Option Instant
deriving DecidableEq, Repr, Inhabited

namespace TimeRange

/-- Both ends are open. -/
def isEmpty (r : TimeRange) : Bool := r.start.isNone && r.finish.isNone

def json (r : TimeRange) : Json :=
  Json.object (Json.optionalMember "field" (r.field.map .str) ++
    Json.optionalMember "start" (r.start.map Instant.json) ++
    Json.optionalMember "end" (r.finish.map Instant.json))

/-- How a range is read. -/
def layout : List (Decode.Field TimeRange) := [
  Decode.field ["field"] .defaulted (Decode.optional Decode.text)
    fun v r => { r with field := v },
  Decode.field ["start"] .defaulted (Decode.optional Instant.decode)
    fun v r => { r with start := v },
  Decode.field ["end"] .defaulted (Decode.optional Instant.decode)
    fun v r => { r with finish := v }]

def decode : Decoder TimeRange := Decode.record default layout

end TimeRange

structure SearchRequest where
  keywords : String
  tables : List String
  /-- The fields of every table without a list of its own. -/
  fields : List String
  tableFields : Dict (List String)
  /-- Kept for callers; the engine's index decides how words are cut. -/
  tokenizer : Option String
  /-- Any of the words suffices; otherwise every one has to be there. -/
  anyWord : Bool
  timeRange : Option TimeRange
  /-- Values that columns have to be equal to. -/
  filters : Dict Json
  page : PageRequest

namespace SearchRequest

/-- A request for words in fields of tables, without conditions. -/
def new (keywords : String) (tables fields : List String) : SearchRequest where
  keywords := keywords
  tables := tables
  fields := fields
  tableFields := .empty
  tokenizer := none
  anyWord := true
  timeRange := none
  filters := .empty
  page := default

instance : Inhabited SearchRequest := ⟨new "" [] []⟩

/-- A table's own list of fields, even an empty one, or else the shared list. -/
def fieldsFor (r : SearchRequest) (table : String) : List String :=
  (r.tableFields.get? table).getD r.fields

def json (r : SearchRequest) : Json :=
  Json.object ([
    ("keywords", .str r.keywords),
    ("target_tables", Json.ofStrings r.tables),
    ("target_fields", Json.ofStrings r.fields),
    ("table_fields", Json.ofDict Json.ofStrings r.tableFields)] ++
    Json.optionalMember "tokenizer" (r.tokenizer.map .str) ++
    [("recall_priority", .bool r.anyWord)] ++
    Json.optionalMember "time_range" (r.timeRange.map TimeRange.json) ++
    [("filters", Json.ofDict id r.filters), ("pagination", r.page.json)])

/-- How a request is read. Most fields may also go by a second name. -/
def layout : List (Decode.Field SearchRequest) := [
  Decode.field ["keywords"] .defaulted Decode.text fun v r => { r with keywords := v },
  Decode.field ["target_tables", "targetTables"] .defaulted (Decode.list Decode.text)
    fun v r => { r with tables := v },
  Decode.field ["target_fields", "targetFields"] .defaulted (Decode.list Decode.text)
    fun v r => { r with fields := v },
  Decode.field ["table_fields", "tableFields"] .defaulted (Decode.dict (Decode.list Decode.text))
    fun v r => { r with tableFields := v },
  Decode.field ["tokenizer"] .defaulted (Decode.optional Decode.text)
    fun v r => { r with tokenizer := v },
  Decode.field ["recall_priority", "recallPriority"] .defaulted Decode.bool
    fun v r => { r with anyWord := v },
  Decode.field ["time_range", "timeRangeFilter"] .defaulted (Decode.optional TimeRange.decode)
    fun v r => { r with timeRange := v },
  Decode.field ["filters"] .defaulted (Decode.dict Decode.data)
    fun v r => { r with filters := v },
  Decode.field ["pagination"] .defaulted PageRequest.decode fun v r => { r with page := v }]

def decode : Decoder SearchRequest := Decode.record default layout

end SearchRequest

end StoreGate
