import StoreGate.Json.Document

/-!
# Tables of settings

A `Toml` value is what a settings file says: texts, numbers, truth values, moments, arrays and
tables. A file is a sequence of lines: headers that open a table, and entries that belong to the
table opened last. A table remembers how it came about, because a table may be written in one place
only.

* `Toml.addEntry` — one entry under a path of keys in a table that is still open.
* `Toml.assemble` — the table that the lines of a file make up.
* `Toml.document` — a table as a document, for the readers of records.
-/

namespace StoreGate

/-- How a table came about. -/
inductive TableOrigin where
  /-- Only as the way to a table below it. -/
  | implied
  /-- By an entry with several keys. -/
  | dotted
  /-- By a header of its own. -/
  | opened
  /-- As a value between braces. -/
  | inline
deriving DecidableEq, Repr

inductive Toml where
  | text (s : String)
  | int (n : Int)
  | double (x : Double)
  | bool (b : Bool)
  /-- A date, a time or both, as written. -/
  | moment (s : String)
  | array (items : List Toml)
  | table (origin : TableOrigin) (members : List (String × Toml))
  /-- Tables that were opened one after another under one name. -/
  | tables (items : List (List (String × Toml)))
deriving Repr, Inhabited

/-- Why a text is no settings file. -/
inductive TomlFault where
  | malformed (what : String)
  | duplicate (key : String)
  | notTable (key : String)
  | tooDeep
deriving DecidableEq, Repr

namespace TomlFault

def message : TomlFault → String
  | malformed what => "malformed " ++ what
  | duplicate key => "duplicate key " ++ key
  | notTable key => "key " ++ key ++ " is no table"
  | tooDeep => "too many arrays within each other"

end TomlFault

namespace Toml

/-- The members of a table in written order. -/
abbrev Members := List (String × Toml)

/-- A value under a path of keys and a last key. -/
structure Entry where
  path : List String
  key : String
  value : Toml
deriving Repr

inductive Line where
  /-- Opens the table under the path and the key. -/
  | header (path : List String) (key : String)
  /-- Opens one more table of those under the path and the key. -/
  | nextHeader (path : List String) (key : String)
  | entry (e : Entry)
deriving Repr

/-! ## Members -/

def find? (key : String) (members : Members) : Option Toml :=
  (members.find? fun e => decide (e.1 = key)).map (·.2)

/-- Puts a value in the place of the one under the key, or at the end. -/
def put (key : String) (value : Toml) : Members → Members
  | [] => [(key, value)]
  | e :: rest => if e.1 = key then (key, value) :: rest else e :: put key value rest

/-- Changes the last element. -/
def changeLast {ε α : Type} (f : α → Except ε α) : List α → Except ε (List α)
  | [] => .ok []
  | [a] => (f a).map fun b => [b]
  | a :: rest => (changeLast f rest).map (a :: ·)

/-- Changes the table under a path. Tables on the way that are missing are made, by a header or by
an entry with several keys; of several tables under one name the last is meant. An entry does not
reach into a table that has a header of its own. -/
def change (byEntry : Bool) (f : TableOrigin → Members → Except TomlFault Members) :
    List String → TableOrigin → Members → Except TomlFault Members
  | [], origin, members => f origin members
  | key :: path, _, members =>
    match find? key members with
    | none =>
      let origin := if byEntry then TableOrigin.dotted else .implied
      (change byEntry f path origin []).map fun inner => put key (.table origin inner) members
    | some (.table origin inner) =>
      if origin = .inline then .error (.notTable key)
      else if byEntry && origin == .opened then .error (.duplicate key)
      else
        (change byEntry f path origin inner).map fun inner => put key (.table origin inner) members
    | some (.tables items) =>
      (changeLast (change byEntry f path .opened) items).map fun items =>
        put key (.tables items) members
    | some _ => .error (.notTable key)

/-! ## Entries and headers -/

/-- Adds an entry to a table. A key is written once, and a path of keys ends in a table that such
paths have made. -/
def addEntry (members : Members) (e : Entry) : Except TomlFault Members :=
  change true (fun origin inner =>
    if !e.path.isEmpty && origin != .dotted then .error (.duplicate e.key)
    else
      match find? e.key inner with
      | some _ => .error (.duplicate e.key)
      | none => .ok (put e.key e.value inner)) e.path .opened members

/-- The table of the given entries. -/
def fill (members : Members) (entries : List Entry) : Except TomlFault Members :=
  entries.foldlM addEntry members

/-- Opens a table and fills it; it may be there already as the way to other tables. -/
def addTable (path : List String) (key : String) (entries : List Entry) (root : Members) :
    Except TomlFault Members :=
  change false (fun _ members =>
    match find? key members with
    | none => (fill [] entries).map fun inner => put key (.table .opened inner) members
    | some (.table .implied inner) =>
      (fill inner entries).map fun inner => put key (.table .opened inner) members
    | some _ => .error (.duplicate key)) path .opened root

/-- Opens one more of the tables under a name and fills it. -/
def addNextTable (path : List String) (key : String) (entries : List Entry) (root : Members) :
    Except TomlFault Members :=
  change false (fun _ members =>
    match find? key members with
    | none => (fill [] entries).map fun inner => put key (.tables [inner]) members
    | some (.tables items) =>
      (fill [] entries).map fun inner => put key (.tables (items ++ [inner])) members
    | some _ => .error (.duplicate key)) path .opened root

/-! ## Files -/

/-- The entries before the first header, and what each header does with the entries after it. -/
def sections : List Line → List Entry × List (Members → Except TomlFault Members)
  | [] => ([], [])
  | .entry e :: rest =>
    let (entries, steps) := sections rest
    (e :: entries, steps)
  | .header path key :: rest =>
    let (entries, steps) := sections rest
    ([], addTable path key entries :: steps)
  | .nextHeader path key :: rest =>
    let (entries, steps) := sections rest
    ([], addNextTable path key entries :: steps)

/-- The table that the lines of a file make up. -/
def assemble (lines : List Line) : Except TomlFault Members :=
  let (entries, steps) := sections lines
  match fill [] entries with
  | .error e => .error e
  | .ok root => steps.foldlM (fun members step => step members) root

/-! ## As documents -/

mutual

/-- A value as a document: a moment is an object of one member, and an array may be longer than its
reader asks. -/
def document : Toml → Document
  | text s => .text (some s)
  | int n => .number (some (.int n))
  | double x => .number (some (.double x))
  | bool b => .bool b
  | moment s => .object [(some "date-time", .text (some s))] .closed
  | array items => .array (documents items) .lenient
  | table _ members => .object (memberDocuments members) .closed
  | tables items => .array (tableDocuments items) .lenient

def documents : List Toml → List Document
  | [] => []
  | v :: rest => document v :: documents rest

def memberDocuments : List (String × Toml) → List (Option String × Document)
  | [] => []
  | (k, v) :: rest => (some k, document v) :: memberDocuments rest

def tableDocuments : List (List (String × Toml)) → List Document
  | [] => []
  | members :: rest => .object (memberDocuments members) .closed :: tableDocuments rest

end

end Toml

end StoreGate
