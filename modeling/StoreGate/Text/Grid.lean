import StoreGate.Text.Percent
import StoreGate.Text.Quoted
import StoreGate.Text.WidthTable

/-!
# Grids of text

A grid is a list of records, the first of which is the heading. Every column is as wide as its
widest cell; a cell of several lines makes its record as high. Cells stand at the left with one
blank on both sides, columns are parted by a bar, and a rule follows the heading:

     field | type
    -------+---------
     id    | bigint

* `Grid.render` — a grid as lines of text.
* `Text.width` — the columns of a terminal that a line takes.
-/

namespace StoreGate

namespace Text

/-- The columns that a character takes. -/
def charWidth (c : Char) : Nat :=
  let n := c.toNat
  if n < 0x300 then 1
  else if extendsOther c || inRanges weightlessRanges n then 0
  else if inRanges wideRanges n then 2
  else 1

def width (line : List Char) : Nat := line.foldr (fun c n => charWidth c + n) 0

end Text

/-- Records of cells. A short record ends with empty cells. -/
abbrev Grid := List (List String)

namespace Grid

/-- A cell as its lines. -/
abbrev Lines := List (List Char)

def linesOf (cell : String) : Lines := Percent.splitOn '\n' cell.toList

/-- The greatest of some numbers, zero for none. -/
def greatest (ns : List Nat) : Nat := ns.foldl max 0

def columnCount (g : Grid) : Nat := greatest (g.map List.length)

/-- The cells of a record, as many as the grid has columns. -/
def cells (columns : Nat) (record : List String) : List Lines :=
  (List.range columns).map fun i => linesOf (record.getD i "")

def cellWidth (cell : Lines) : Nat := greatest (cell.map Text.width)

/-- The width of every column. -/
def columnWidths (columns : Nat) (records : List (List Lines)) : List Nat :=
  (List.range columns).map fun i => greatest (records.map fun r => cellWidth (r.getD i []))

/-! ## Lines of text -/

/-- A line of a cell between blanks, filled up to the width of its column. -/
def padded (columnWidth : Nat) (line : List Char) : List Char :=
  ' ' :: line ++ List.replicate (columnWidth - Text.width line + 1) ' '

/-- One line of a record. -/
def recordLine (widths : List Nat) (record : List Lines) (i : Nat) : List Char :=
  List.intercalate ['|'] ((record.zip widths).map fun (cell, w) => padded w (cell.getD i []))

def recordLines (widths : List Nat) (record : List Lines) : List (List Char) :=
  (List.range (greatest (record.map List.length))).map (recordLine widths record)

/-- The line under the heading. -/
def rule (widths : List Nat) : List Char :=
  List.intercalate ['+'] (widths.map fun w => List.replicate (w + 2) '-')

/-- The lines of a grid; none if there are no columns. -/
def lines (g : Grid) : List (List Char) :=
  let columns := g.columnCount
  let records := g.map (cells columns)
  let widths := columnWidths columns records
  match records with
  | [] => []
  | heading :: rest =>
    if columns = 0 then []
    else recordLines widths heading ++ rule widths :: rest.flatMap (recordLines widths)

/-- The text of a grid, without an end of line after its last line. -/
def render (g : Grid) : String := String.ofList (List.intercalate ['\n'] g.lines)

example : render [["id", "name"], ["1", "x"]] = " id | name \n----+------\n 1  | x    " := by
  decide +kernel

end Grid

end StoreGate
