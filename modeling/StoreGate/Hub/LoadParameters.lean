import StoreGate.Decimal.Reading
import StoreGate.Load.Options
import StoreGate.Text.Percent

/-!
# Parameters of a load

A load over HTTP gives its options as fields of the query.

* `LoadParameters.read?` — the parameters that fields spell: one that is given twice or cannot be
  read spoils them all, an unknown one is passed over.
* `LoadParameters.fields` — the fields of parameters.
* `LoadParameters.options` — the options of the load.
-/

namespace StoreGate

structure LoadParameters where
  format : Option String := none
  label : Option String := none
  stripOuterArray : Option Bool := none
  timeoutSecs : Option Nat := none
  columnSeparator : Option String := none
  rowDelimiter : Option String := none
  maxFilterRatio : Option Double := none
  /-- The columns of the payload, as the engine is to read them. -/
  columns : Option String := none
  mergeCondition : Option String := none
  txnId : Option Int := none

namespace LoadParameters

instance : Inhabited LoadParameters := ⟨{}⟩

/-! ## Reading -/

def readBool? (s : String) : Option Bool :=
  if s = "true" then some true else if s = "false" then some false else none

def readNat64? (s : String) : Option Nat := Decimal.readNatUpTo? (UInt64.size - 1) s.toList

def readInt64? (s : String) : Option Int :=
  Decimal.readIntIn? Json.minInt64 Json.maxInt64 s.toList

/-- Sets a parameter that has not been set yet. -/
def once {α : Type} (old new : Option α) (set : α → LoadParameters) : Option LoadParameters :=
  if old.isSome then none else new.map set

/-- Adds a field to parameters. -/
def add? (p : LoadParameters) (field : String × String) : Option LoadParameters :=
  let value := field.2
  match field.1 with
  | "format" => once p.format (some value) fun v => { p with format := some v }
  | "label" => once p.label (some value) fun v => { p with label := some v }
  | "strip_outer_array" =>
    once p.stripOuterArray (readBool? value) fun v => { p with stripOuterArray := some v }
  | "timeout" => once p.timeoutSecs (readNat64? value) fun v => { p with timeoutSecs := some v }
  | "column_separator" =>
    once p.columnSeparator (some value) fun v => { p with columnSeparator := some v }
  | "row_delimiter" => once p.rowDelimiter (some value) fun v => { p with rowDelimiter := some v }
  | "max_filter_ratio" =>
    once p.maxFilterRatio (Double.read? value.toList) fun v => { p with maxFilterRatio := some v }
  | "columns" => once p.columns (some value) fun v => { p with columns := some v }
  | "merge_condition" =>
    once p.mergeCondition (some value) fun v => { p with mergeCondition := some v }
  | "txn_id" => once p.txnId (readInt64? value) fun v => { p with txnId := some v }
  | _ => some p

def read? (fields : List (String × String)) : Option LoadParameters := fields.foldlM add? {}

/-! ## Writing -/

/-- A field that is there only if the parameter is. -/
def fieldOf {α : Type} (name : String) (write : α → String) (value : Option α) :
    List (String × String) :=
  match value with
  | some v => [(name, write v)]
  | none => []

def boolText (b : Bool) : String := if b then "true" else "false"

def fields (p : LoadParameters) : List (String × String) :=
  fieldOf "format" id p.format ++ fieldOf "strip_outer_array" boolText p.stripOuterArray ++
    fieldOf "column_separator" id p.columnSeparator ++ fieldOf "label" id p.label ++
    fieldOf "txn_id" Decimal.intText p.txnId ++ fieldOf "timeout" Decimal.natText p.timeoutSecs ++
    fieldOf "row_delimiter" id p.rowDelimiter ++
    fieldOf "max_filter_ratio" DecimalStyle.plain.text p.maxFilterRatio ++
    fieldOf "columns" id p.columns ++ fieldOf "merge_condition" id p.mergeCondition

/-! ## Options -/

def badRatio : Fault := .invalidArgument "max_filter_ratio must be between 0 and 1"

/-- A share of rows: neither below zero nor above one. -/
def isRatio (x : Double) : Bool := Double.zero.le x && x.le (Double.ofInt 1)

/-- The format of a load; JSON, unless another one is named. -/
def loadFormat (p : LoadParameters) : Except Fault LoadFormat :=
  match p.format with
  | some name => LoadFormat.parse name
  | none => .ok .json

/-- The columns as a header of the caller's own. -/
def ownHeaders (p : LoadParameters) : Dict String :=
  match p.columns with
  | some columns => (SortedMap.empty : Dict String).insert "columns" columns
  | none => .empty

/-- The options that the parameters stand for. -/
def options (p : LoadParameters) : Except Fault LoadOptions := do
  let format ← p.loadFormat
  let ratio := p.maxFilterRatio.getD Double.zero
  if !isRatio ratio then throw badRatio
  return {
    format := format
    columnSeparator := p.columnSeparator
    rowDelimiter := p.rowDelimiter
    stripOuterArray := p.stripOuterArray.getD false
    timeoutSecs := p.timeoutSecs.getD defaultLoadTimeout
    maxFilterRatio := ratio
    label := p.label
    headers := p.ownHeaders
    mergeCondition := p.mergeCondition
    txnId := p.txnId }

end LoadParameters

end StoreGate
