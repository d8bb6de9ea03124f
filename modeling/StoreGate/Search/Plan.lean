import StoreGate.Fault
import StoreGate.Json.Printer
import StoreGate.Sql.Identifier
import StoreGate.Sql.Literal
import StoreGate.Text.Quoted
import StoreGate.Search.Request

/-!
# Search plans

A valid request becomes one statement per table, in the order of the request:

    SELECT * FROM logs.app WHERE (message MATCH_ANY 'disk full' OR detail MATCH_ANY 'disk full')
      AND timestamp >= '2024-05-01 00:00:00' AND level = 'error' LIMIT 1000 OFFSET 0

Names are checked, texts are quoted, and a request with any invalid part has no plan at all.

* `PlanFault` — what makes a request invalid; of several faults the first in the order of the
  checks is reported.
* `TablePlan.sql` — the statement of a plan.
-/

namespace StoreGate

/-! ## Faults -/

inductive PlanFault where
  | noKeywords
  | noTables
  /-- A name that may not stand in a statement; `what` says of what. -/
  | badName (what name : String)
  | noFields (table : String)
  | filterNotScalar (field : String)
  | rangeReversed
deriving DecidableEq, Repr

namespace PlanFault

def text : PlanFault → String
  | noKeywords => "keywords must not be empty"
  | noTables => "target tables must be specified"
  | badName what name => "invalid " ++ what ++ " name: " ++ Text.quoted name
  | noFields table =>
    "target fields must be specified for table " ++ table ++
      " (auto-discovery is not supported)"
  | filterNotScalar field => "filter " ++ field ++ " must be a scalar value"
  | rangeReversed => "time range start is after its end"

def fault (f : PlanFault) : Fault := .invalidArgument f.text

end PlanFault

/-- Passes a name that may stand in a statement. -/
def checkName (what name : String) : Except PlanFault Unit :=
  if Sql.isName name then .ok () else .error (.badName what name)

/-! ## Conditions -/

/-- A value that a column can be compared with. -/
inductive Scalar where
  | text (s : String)
  | number (n : Number)
  | bool (b : Bool)
deriving DecidableEq, Repr

namespace Scalar

def written : Scalar → String
  | text s => Sql.Literal.quote s
  | number n => String.ofList (Json.writeNumber n)
  | bool b => if b then "true" else "false"

end Scalar

/-- What every row has to meet. -/
inductive Condition where
  | notBefore (field : String) (i : Instant)
  | notAfter (field : String) (i : Instant)
  | isNull (field : String)
  | equals (field : String) (value : Scalar)
deriving DecidableEq, Repr

namespace Condition

def sql : Condition → String
  | notBefore field i => field ++ " >= '" ++ i.writtenText ++ "'"
  | notAfter field i => field ++ " <= '" ++ i.writtenText ++ "'"
  | isNull field => field ++ " IS NULL"
  | equals field value => field ++ " = " ++ value.written

end Condition

/-- The conditions of a time range on the given column. -/
def TimeRange.conditions (r : TimeRange) (column : String) : List Condition :=
  (match r.start with
    | some i => [.notBefore column i]
    | none => []) ++
  (match r.finish with
    | some i => [.notAfter column i]
    | none => [])

/-- The range runs forwards, as far as both ends are given. -/
def TimeRange.isForward (r : TimeRange) : Bool :=
  match r.start, r.finish with
  | some a, some b => decide (a ≤ b)
  | _, _ => true

/-- The conditions of a time range; a range without an end is no condition. -/
def timeConditions (defaultColumn : String) : Option TimeRange → Except PlanFault (List Condition)
  | none => .ok []
  | some r =>
    if r.isEmpty then .ok []
    else
      let column := r.field.getD defaultColumn
      match checkName "time field" column with
      | .error e => .error e
      | .ok () => if r.isForward then .ok (r.conditions column) else .error .rangeReversed

/-- The condition of one filter. -/
def filterCondition (field : String) (value : Json) : Except PlanFault Condition :=
  match checkName "filter field" field with
  | .error e => .error e
  | .ok () =>
    match value with
    | .null => .ok (.isNull field)
    | .str s => .ok (.equals field (.text s))
    | .num n => .ok (.equals field (.number n))
    | .bool b => .ok (.equals field (.bool b))
    | .arr _ | .obj _ => .error (.filterNotScalar field)

/-! ## Plans -/

/-- The statement for one table. -/
structure TablePlan where
  table : String
  fields : List String
  anyWord : Bool
  keywords : String
  conditions : List Condition
  limit : Nat
deriving DecidableEq, Repr

namespace TablePlan

/-- How a field is matched against the words. -/
def operator (anyWord : Bool) : String := if anyWord then "MATCH_ANY" else "MATCH_ALL"

/-- The words in one field. -/
def fieldMatch (p : TablePlan) (field : String) : String :=
  field ++ " " ++ operator p.anyWord ++ " " ++ Sql.Literal.quote p.keywords

def clauses (p : TablePlan) : List String :=
  ("(" ++ String.intercalate " OR " (p.fields.map p.fieldMatch) ++ ")") ::
    p.conditions.map Condition.sql

def sql (p : TablePlan) : String :=
  "SELECT * FROM " ++ p.table ++ " WHERE " ++ String.intercalate " AND " p.clauses ++
    " LIMIT " ++ Decimal.natText p.limit ++ " OFFSET 0"

end TablePlan

namespace SearchRequest

/-- The words without blanks around them. -/
def words (r : SearchRequest) : String := Text.trim r.keywords

/-- The conditions that every table shares: the time range, then the filters in key order. -/
def conditions (r : SearchRequest) (timeColumn : String) : Except PlanFault (List Condition) :=
  match timeConditions timeColumn r.timeRange with
  | .error e => .error e
  | .ok range => (r.filters.entries.mapM fun e => filterCondition e.1 e.2).map (range ++ ·)

/-- The plan for one table. -/
def planTable (r : SearchRequest) (limit : Nat) (conditions : List Condition) (table : String) :
    Except PlanFault TablePlan :=
  if !Sql.isTableName table then .error (.badName "table" table)
  else
    let fields := r.fieldsFor table
    if fields.isEmpty then .error (.noFields table)
    else
      match fields.mapM (checkName "field") with
      | .error e => .error e
      | .ok _ => .ok ⟨table, fields, r.anyWord, r.words, conditions, limit⟩

/-- One plan per table, in the order of the request, or the first fault. -/
def plan (r : SearchRequest) (limit : Nat) (timeColumn : String) :
    Except PlanFault (List TablePlan) :=
  if r.words.isEmpty then .error .noKeywords
  else if r.tables.isEmpty then .error .noTables
  else
    match r.conditions timeColumn with
    | .error e => .error e
    | .ok conditions => r.tables.mapM (r.planTable limit conditions)

end SearchRequest

end StoreGate
