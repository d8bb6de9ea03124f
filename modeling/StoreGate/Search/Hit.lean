import StoreGate.Text.Clip
import StoreGate.Text.LowerCase
import StoreGate.Query.Result
import StoreGate.Json.Printer

/-!
# Search hits

A row that a search found: its cells by column, an id if one of its columns is an id, and a snippet
of every searched field in which the words stand as they were given, in any case.

* `SearchHit.withCell` — what one cell adds to a hit.
* `SearchHit.ofRow` — what remains after the cells of a row have been read one after another.
-/

namespace StoreGate

structure SearchHit where
  table : String
  id : Option String
  document : Dict Json
  /-- Field name and snippet. -/
  snippets : Dict String

namespace SearchHit

/-- The score of every hit; relevance is not computed. -/
def score : Double := Double.ofInt 1

/-- The name `id`, or one that ends in `_id`, in any case. -/
def isIdColumn (name : String) : Bool :=
  let cs := name.toList.map Char.toLower
  cs == ['i', 'd'] || ['_', 'i', 'd'].isSuffixOf cs

/-- The text of a value that can be an id: a text or an integer. -/
def idText? : Json → Option String
  | .str s => some s
  | .num (.int n) => some (Decimal.intText n)
  | _ => none

/-- The snippet of a searched field, if the lowered words stand in it. -/
def snippet? (fields : List String) (needle : String) (limit : Nat) (column : String)
    (value : Json) : Option (String × String) :=
  match value with
  | .str text =>
    if fields.contains column && !needle.isEmpty && Text.contains (Text.lower text) needle then
      some (column, Text.clip limit text)
    else none
  | _ => none

/-- A hit before any cell is read. -/
def unread (table : String) : SearchHit := ⟨table, none, .empty, .empty⟩

/-- One more cell is read: an id is kept, the cell is written into the document, and its snippet,
if it has one, among the snippets. -/
def withCell (fields : List String) (needle : String) (limit : Nat) (h : SearchHit)
    (cell : String × Json) : SearchHit where
  table := h.table
  id := if h.id.isNone && isIdColumn cell.1 then idText? cell.2 else h.id
  document := h.document.insert cell.1 cell.2
  snippets :=
    match snippet? fields needle limit cell.1 cell.2 with
    | some (name, snippet) => h.snippets.insert name snippet
    | none => h.snippets

/-- The hit of one row. A column without a value is not read, and neither is a value without a
column. -/
def ofRow (table : String) (columns : List String) (row : List Json) (fields : List String)
    (keywords : String) (limit : Nat) : SearchHit :=
  (columns.zip row).foldl (withCell fields (Text.lower keywords) limit) (unread table)

def json (h : SearchHit) : Json :=
  Json.object ([("source_table", .str h.table)] ++ Json.optionalMember "id" (h.id.map .str) ++
    [("score", Json.double score), ("document", Json.ofDict (fun v => v) h.document),
      ("hit_fields", Json.ofDict .str h.snippets)])

end SearchHit

end StoreGate
