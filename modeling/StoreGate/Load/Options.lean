import StoreGate.Fault
import StoreGate.Text.Blank
import StoreGate.Json.Decode
import StoreGate.Decimal.Style

/-!
# Options of a bulk load

A load says in what format its payload is, how the engine is to read it, and how long it may take.
`LoadOptions.wireHeaders` lists the control headers of a load in a fixed order: the fields before
the caller's own headers, then the merge condition, and last the transaction that the load is
staged under.
-/

namespace StoreGate

/-! ## Formats -/

inductive LoadFormat where
  | json
  | csv
deriving DecidableEq, Repr, Inhabited

namespace LoadFormat

def text : LoadFormat → String
  | json => "json"
  | csv => "csv"

/-- The format of exactly this name. -/
def ofText? (s : String) : Option LoadFormat :=
  if s = "json" then some .json else if s = "csv" then some .csv else none

/-- The name as it is looked up: without blanks around it and in lower case. -/
def spelling (s : String) : String := Text.lowerAscii (Text.trim s)

/-- The format that a caller names, in any case and with blanks around it. -/
def read? (s : String) : Option LoadFormat := ofText? (spelling s)

def unsupported (s : String) : Fault :=
  .invalidArgument ("unsupported load format: " ++ spelling s)

/-- The format that a caller names, or the fault of naming another. -/
def parse (s : String) : Except Fault LoadFormat := (read? s).elim (.error (unsupported s)) .ok

def decode : Decoder LoadFormat := Decode.choice "load format" ofText?

theorem ofText?_text (f : LoadFormat) : ofText? f.text = some f := by cases f <;> rfl

end LoadFormat

/-! ## Options -/

/-- The time an engine may take for a load unless the caller says otherwise, in seconds. -/
def defaultLoadTimeout : Nat := 300

structure LoadOptions where
  format : LoadFormat
  /-- Of a text payload only. -/
  columnSeparator : Option String
  /-- Of a text payload only. -/
  rowDelimiter : Option String
  /-- Of a JSON payload only: it is one array of rows. -/
  stripOuterArray : Bool
  timeoutSecs : Nat
  /-- The share of rows that may be rejected; sent only above zero. -/
  maxFilterRatio : Double
  label : Option String
  /-- Further headers, passed on as they are. -/
  headers : Dict String
  mergeCondition : Option String
  /-- The open transaction that the load is staged under. -/
  txnId : Option Int

namespace LoadOptions

def standard : LoadOptions where
  format := .json
  columnSeparator := none
  rowDelimiter := none
  stripOuterArray := false
  timeoutSecs := defaultLoadTimeout
  maxFilterRatio := Double.zero
  label := none
  headers := .empty
  mergeCondition := none
  txnId := none

instance : Inhabited LoadOptions := ⟨standard⟩

/-- Rows packed in one JSON array. -/
def jsonArray : LoadOptions := { standard with stripOuterArray := true }

/-- Rows of text with the given column separator. -/
def csv (separator : String) : LoadOptions :=
  { standard with format := .csv, columnSeparator := some separator }

def withLabel (o : LoadOptions) (label : String) : LoadOptions := { o with label := some label }

def withTimeout (o : LoadOptions) (secs : Nat) : LoadOptions := { o with timeoutSecs := secs }

def withHeader (o : LoadOptions) (name value : String) : LoadOptions :=
  { o with headers := o.headers.insert name value }

/-- Stages the load under an open transaction. -/
def inTransaction (o : LoadOptions) (id : Int) : LoadOptions := { o with txnId := some id }

def isTwoPhase (o : LoadOptions) : Bool := o.txnId.isSome

/-! ## Headers -/

/-- A header that is there only if the field has a value. -/
def headerOf (name : String) (value : Option String) : List (String × String) :=
  match value with
  | some v => [(name, v)]
  | none => []

/-- How the payload is laid out. -/
def layoutHeaders (o : LoadOptions) : List (String × String) :=
  match o.format with
  | .csv => headerOf "column_separator" o.columnSeparator ++ headerOf "row_delimiter" o.rowDelimiter
  | .json => if o.stripOuterArray then [("strip_outer_array", "true")] else []

/-- The headers that come from fields and stand before the caller's own. -/
def controlHeaders (o : LoadOptions) : List (String × String) :=
  ("format", o.format.text) :: o.layoutHeaders ++
    (if o.maxFilterRatio.isPositive then
      [("max_filter_ratio", DecimalStyle.plain.text o.maxFilterRatio)]
    else []) ++
    ("timeout", Decimal.natText o.timeoutSecs) :: headerOf "label" o.label

/-- The headers that bind the load to a transaction. -/
def transactionHeaders (o : LoadOptions) : List (String × String) :=
  match o.txnId with
  | some id => [("txn_id", Decimal.intText id), ("two_phase_commit", "true")]
  | none => []

/-- The control headers of the load, in order. -/
def wireHeaders (o : LoadOptions) : List (String × String) :=
  o.controlHeaders ++ o.headers.entries ++ headerOf "merge_condition" o.mergeCondition ++
    o.transactionHeaders

/-! ## As data -/

def json (o : LoadOptions) : Json :=
  Json.object [
    ("column_separator", Json.ofOption .str o.columnSeparator),
    ("format", .str o.format.text),
    ("headers", Json.ofDict .str o.headers),
    ("label", Json.ofOption .str o.label),
    ("max_filter_ratio", Json.double o.maxFilterRatio),
    ("merge_condition", Json.ofOption .str o.mergeCondition),
    ("row_delimiter", Json.ofOption .str o.rowDelimiter),
    ("strip_outer_array", .bool o.stripOuterArray),
    ("timeout_secs", Json.nat o.timeoutSecs),
    ("txn_id", Json.ofOption Json.int o.txnId)]

def decode : Decoder LoadOptions :=
  Decode.record standard [
    Decode.field ["format"] .defaulted LoadFormat.decode fun v o => { o with format := v },
    Decode.field ["column_separator"] .defaulted (Decode.optional Decode.text)
      fun v o => { o with columnSeparator := v },
    Decode.field ["row_delimiter"] .defaulted (Decode.optional Decode.text)
      fun v o => { o with rowDelimiter := v },
    Decode.field ["strip_outer_array"] .defaulted Decode.bool
      fun v o => { o with stripOuterArray := v },
    Decode.field ["timeout_secs"] .defaulted Decode.nat64 fun v o => { o with timeoutSecs := v },
    Decode.field ["max_filter_ratio"] .defaulted Decode.double
      fun v o => { o with maxFilterRatio := v },
    Decode.field ["label"] .defaulted (Decode.optional Decode.text)
      fun v o => { o with label := v },
    Decode.field ["headers"] .defaulted (Decode.dict Decode.text)
      fun v o => { o with headers := v },
    Decode.field ["merge_condition"] .defaulted (Decode.optional Decode.text)
      fun v o => { o with mergeCondition := v },
    Decode.field ["txn_id"] .defaulted (Decode.optional Decode.int64)
      fun v o => { o with txnId := v }]

end LoadOptions

end StoreGate
