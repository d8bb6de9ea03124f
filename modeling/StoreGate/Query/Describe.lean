import StoreGate.Fault
import StoreGate.Schema
import StoreGate.Query.Result
import StoreGate.Sql.Identifier
import StoreGate.Text.Quoted
import StoreGate.Json.Printer

/-!
# Described tables

The engine describes a table by rows of six columns: name, type, nullability, key, default and
extra; a seventh is a comment. Rows with fewer cells are passed over.

* `TableSchema.describe` — asks for the description of a table and reads it.
-/

namespace StoreGate

namespace TableSchema

/-- The number of columns that a description has. -/
def describedColumns : Nat := 6

/-- The text of a cell; nothing for `null`. -/
def cellText : Json → String
  | .str s => s
  | .null => ""
  | v => Json.render v

/-- The field that a row describes, if the row is long enough. -/
def fieldOfRow? : List Json → Option FieldSchema
  | name :: type :: nullable :: _ :: _ :: _ :: rest =>
    some {
      name := cellText name
      dataType := cellText type
      nullable := Text.lowerAscii (cellText nullable) = "yes"
      comment := (rest.head?.map cellText).getD "" }
  | _ => none

/-- The schema that a description spells. -/
def ofDescription (database table : String) (r : QueryResult) : Except Fault TableSchema :=
  if r.columns.length < describedColumns then
    .error (.database ("unexpected DESCRIBE result: expected at least " ++
      Decimal.natText describedColumns ++ " columns, got " ++ Decimal.natText r.columns.length)
      none)
  else if r.isEmpty then
    .error (.database ("DESCRIBE " ++ database ++ "." ++ table ++ " returned no fields") none)
  else .ok ⟨database, table, r.rows.filterMap fieldOfRow?⟩

/-- Passes a name that may stand in a description. -/
def checkIdentifier (name : String) : Except Fault Unit :=
  if Sql.isIdentifier name then .ok ()
  else .error (.invalidArgument ("invalid identifier: " ++ Text.quoted name))

def describeSql (database table : String) : String := "DESCRIBE " ++ database ++ "." ++ table

/-- The schema of a table. -/
def describe {m : Type → Type} [Monad m] (execute : String → m (Except Fault QueryResult))
    (database table : String) : m (Except Fault TableSchema) :=
  match checkIdentifier database, checkIdentifier table with
  | .error e, _ => pure (.error e)
  | .ok (), .error e => pure (.error e)
  | .ok (), .ok () => do
    match ← execute (describeSql database table) with
    | .error e => return .error e
    | .ok r => return ofDescription database table r

end TableSchema

end StoreGate
