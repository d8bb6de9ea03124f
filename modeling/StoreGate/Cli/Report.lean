import StoreGate.Cli.Action
import StoreGate.Json.Printer
import StoreGate.Text.Grid

/-!
# What is printed at the terminal

Statements, searches and schemas are shown as grids, unless JSON is asked for; everything else is
shown as indented JSON. Tables that a search could not read are warned about.

* `Printout.ofAnswer` — what is printed for an answer to an action.
-/

namespace StoreGate

namespace Cli

/-- What the program leaves behind. -/
structure Printout where
  status : Nat
  out : String
  err : String
deriving DecidableEq, Repr

namespace Printout

def success (out : String) : Printout := ⟨0, out, ""⟩

def failure (message : String) : Printout := ⟨1, "", "Error: " ++ message ++ "\n"⟩

end Printout

/-! ## Parts of an answer -/

/-- The member of an object; `null` if it is not there. -/
def part (key : String) (v : Json) : Json := (v.member? key).getD .null

/-- The items of an array; none of anything else. -/
def items (v : Json) : List Json := v.arr?.getD []

/-- A value in a cell. -/
def cellText : Json → String
  | .str s => s
  | .null => "NULL"
  | v => Json.render v

def partText (key : String) (v : Json) : String := cellText (part key v)

def line (s : String) : String := s ++ "\n"

/-! ## Grids -/

/-- The time that a statement took. -/
def timeLine (data : Json) : String :=
  match part "duration_ms" (part "stats" data) with
  | .num (.int n) => if 0 ≤ n then line ("Time: " ++ Decimal.intText n ++ " ms") else ""
  | _ => ""

/-- The columns and rows of a statement. -/
def rowsText (data : Json) : String :=
  let rows := items (part "rows" data)
  let records := rows.map fun row => (items row).map cellText
  line (Grid.render ((items (part "columns" data)).map cellText :: records)) ++
    line ("(" ++ Decimal.natText rows.length ++ " rows)") ++ timeLine data

/-- The fields of a hit that matched, with what matched. -/
def matchedText (hit : Json) : String :=
  match part "hit_fields" hit with
  | .obj fields => String.intercalate " | " (fields.map fun f => f.1 ++ ": " ++ cellText f.2)
  | _ => ""

/-- The place of the page among the hits. -/
def pageLine (data : Json) : String :=
  let page := part "pagination" data
  line ("page " ++ Json.render (part "page" page) ++ " of " ++
    Json.render (part "total_hits" data) ++ " hits (" ++ Json.render (part "page_size" page) ++
    " per page) in " ++ Json.render (part "took_ms" data) ++ " ms")

def hitsText (data : Json) : String :=
  let records := (items (part "hits" data)).map fun hit =>
    [partText "source_table" hit, partText "id" hit, matchedText hit]
  line (Grid.render (["table", "id", "matched"] :: records)) ++ pageLine data

/-- A warning for every table that could not be searched. -/
def warnings (data : Json) : String :=
  String.join ((items (part "tables_failed" data)).map fun failure =>
    line ("warning: " ++ partText "table" failure ++ " failed: " ++ partText "error" failure))

def schemaText (data : Json) : String :=
  let records := (items (part "fields" data)).map fun field =>
    [partText "name" field, partText "data_type" field, partText "nullable" field,
      partText "comment" field]
  line (Grid.render (["field", "type", "nullable", "comment"] :: records))

/-! ## Answers -/

def Printout.ofData (data : Json) : Printout := .success (line (Json.renderIndented data))

/-- What is printed for the data of an answer. -/
def Printout.ofAnswer (i : Invocation) (data : Json) : Printout :=
  if i.asJson then .ofData data
  else
    match i.action with
    | .query _ => .success (rowsText data)
    | .search _ => ⟨0, hitsText data, warnings data⟩
    | .schema _ _ => .success (schemaText data)
    | _ => .ofData data

end Cli

end StoreGate
