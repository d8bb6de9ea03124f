import StoreGate.Text.Blank
import StoreGate.Json.Decode
import StoreGate.Decimal.Reading

/-!
# Results of a statement

A result has the names of its columns, its rows by position, and whatever statistics the engine
reports. A statistic goes by several names, and the first name that is present counts.

* `QueryResult.rowMaps` — the rows by column name.
* `QueryStats.ofProperty?` — the statistics in a reply's properties, if there are any.
-/

namespace StoreGate

/-! ## Statistics -/

/-- What a statement cost; the engine promises none of it. -/
structure QueryStats where
  scanRows : Option Int := none
  scanBytes : Option Int := none
  durationMs : Option Nat := none
  peakMemoryBytes : Option Int := none
  affectedRows : Option Int := none
  message : Option String := none
deriving DecidableEq, Repr

namespace QueryStats

/-- The properties of a reply. -/
abbrev Property := Dict Json

/-- The value under the first of the names that is present. -/
def firstOf (property : Property) (names : List String) : Option Json :=
  names.findSome? property.get?

/-- A count: a number, its fraction dropped, or the text of an integer. -/
def count? : Json → Option Int
  | .num (.int n) =>
    if Json.minInt64 ≤ n ∧ n ≤ Json.maxInt64 then some n
    else some ((Double.ofInt n).truncated Json.minInt64 Json.maxInt64)
  | .num (.double x) => some (x.truncated Json.minInt64 Json.maxInt64)
  | .str s => Decimal.readIntIn? Json.minInt64 Json.maxInt64 (Text.trimChars s.toList)
  | _ => none

/-- The value of a number as a double. -/
def numberValue : Number → Double
  | .int n => Double.ofInt n
  | .double x => x

/-- A text cut before `ending`, if it ends so. -/
def before? (cs ending : List Char) : Option (List Char) :=
  if ending.isSuffixOf cs then some (cs.take (cs.length - ending.length)) else none

/-- The units of a duration, the amount before them, and their length in milliseconds. -/
def durationParts (cs : List Char) : List Char × Double :=
  match before? cs ['m', 's'] with
  | some amount => (amount, Double.ofInt 1)
  | none =>
    match (before? cs ['u', 's']).or (before? cs ['µ', 's']) with
    | some amount => (amount, Double.ofRatio false 1 1000)
    | none =>
      match before? cs ['s'] with
      | some amount => (amount, Double.ofInt 1000)
      | none => (cs, Double.ofInt 1)

/-- A duration in milliseconds: a number, its fraction dropped, or a text such as `23ms`, `1.5s`,
`800us`, rounded. What is below zero counts as zero. -/
def duration? : Json → Option Nat
  | .num n => some ((numberValue n).truncated 0 Json.maxNat64).toNat
  | .str s =>
    let (amount, unit) := durationParts (Text.trimChars s.toList)
    (Double.read? (Text.trimChars amount)).map fun x =>
      ((x.mul unit).rounded 0 Json.maxNat64).toNat
  | _ => none

/-- Whatever statistics the properties carry. -/
def ofProperty (property : Property) : QueryStats where
  scanRows := (firstOf property ["ScanRows", "scanRows", "scan_rows"]).bind count?
  scanBytes := (firstOf property ["ScanBytes", "scanBytes", "scan_bytes"]).bind count?
  durationMs := (firstOf property ["Time", "time", "Duration"]).bind duration?
  peakMemoryBytes :=
    (firstOf property ["PeakMemoryBytes", "peakMemoryBytes", "MemCostBytes"]).bind count?
  affectedRows := (firstOf property ["Affected Rows", "AffectedRows"]).bind count?
  message := ((property.get? "Time").bind Json.str?).map ("Time: " ++ ·)

/-- The statistics of a reply, if it carries any. -/
def ofProperty? (property : Property) : Option QueryStats :=
  let stats := ofProperty property
  if stats = {} then none else some stats

def json (s : QueryStats) : Json :=
  Json.object (
    Json.optionalMember "scan_rows" (s.scanRows.map Json.int) ++
    Json.optionalMember "scan_bytes" (s.scanBytes.map Json.int) ++
    Json.optionalMember "duration_ms" (s.durationMs.map Json.nat) ++
    Json.optionalMember "peak_memory_bytes" (s.peakMemoryBytes.map Json.int) ++
    Json.optionalMember "affected_rows" (s.affectedRows.map Json.int) ++
    Json.optionalMember "message" (s.message.map .str))

def decode : Decoder QueryStats :=
  Decode.record {} [
    Decode.field ["scan_rows"] .defaulted (Decode.optional Decode.int64)
      fun v s => { s with scanRows := v },
    Decode.field ["scan_bytes"] .defaulted (Decode.optional Decode.int64)
      fun v s => { s with scanBytes := v },
    Decode.field ["duration_ms"] .defaulted (Decode.optional Decode.nat64)
      fun v s => { s with durationMs := v },
    Decode.field ["peak_memory_bytes"] .defaulted (Decode.optional Decode.int64)
      fun v s => { s with peakMemoryBytes := v },
    Decode.field ["affected_rows"] .defaulted (Decode.optional Decode.int64)
      fun v s => { s with affectedRows := v },
    Decode.field ["message"] .defaulted (Decode.optional Decode.text)
      fun v s => { s with message := v }]

end QueryStats

/-! ## Results -/

/-- The columns and rows of a statement. -/
structure QueryResult where
  columns : List String
  /-- Each row by position; its cells belong to the columns in order. -/
  rows : List (List Json)
  stats : Option QueryStats
deriving Inhabited

namespace QueryResult

def size (r : QueryResult) : Nat := r.rows.length

def isEmpty (r : QueryResult) : Bool := r.rows.isEmpty

/-- The cells of a row by column name; a short row leaves its last columns out, and of two columns
with one name the later counts. -/
def rowMap (columns : List String) (row : List Json) : Dict Json :=
  SortedMap.ofList (columns.zip row)

def rowMaps (r : QueryResult) : List (Dict Json) := r.rows.map (rowMap r.columns)

def json (r : QueryResult) : Json :=
  Json.object ([("columns", Json.ofStrings r.columns), ("rows", .arr (r.rows.map .arr))] ++
    Json.optionalMember "stats" (r.stats.map QueryStats.json))

def decode : Decoder QueryResult :=
  Decode.record default [
    Decode.field ["columns"] .required (Decode.list Decode.text) fun v r => { r with columns := v },
    Decode.field ["rows"] .required (Decode.list (Decode.list Decode.data))
      fun v r => { r with rows := v },
    Decode.field ["stats"] .defaulted (Decode.optional QueryStats.decode)
      fun v r => { r with stats := v }]

end QueryResult

end StoreGate
