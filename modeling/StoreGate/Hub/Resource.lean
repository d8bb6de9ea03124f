import StoreGate.Engine.Transaction
import StoreGate.Text.Percent

/-!
# Resources of the server

What can be asked of the server, and under which path. Names and numbers are segments of a path of
their own; they are kept as they stand in the path.

* `Resource.path` — the path of a resource.
* `Resource.ofPath?` — the resource under a path. The last segment of a path is never empty.
* `Resource.ofSegments?_segments` — a path leads to the resource that it was made for.
-/

namespace StoreGate

inductive Resource where
  | health
  /-- Statements to be executed. -/
  | statements
  /-- Searches in full text. -/
  | searches
  /-- Events to be ingested. -/
  | events
  /-- A table to be loaded. -/
  | load (database table : String)
  /-- The transactions that the server knows. -/
  | transactions
  /-- Transactions to be begun. -/
  | newTransactions
  /-- A transaction to be ended. -/
  | ending (how : Client.Ending) (database txnId : String)
  /-- The schema of a table. -/
  | schema (database table : String)
deriving DecidableEq, Repr

namespace Resource

/-! ## Paths -/

/-- The segments of the path after the version. -/
def versioned : Resource → List String
  | health => []
  | statements => ["query", "sql"]
  | searches => ["query", "search", "fulltext"]
  | events => ["ingest", "events"]
  | load database table => ["load", database, table]
  | transactions => ["txn"]
  | newTransactions => ["txn", "begin"]
  | ending how database txnId => ["txn", database, txnId, how.text]
  | schema database table => ["tables", database, table, "schema"]

def segments : Resource → List String
  | health => ["health"]
  | r => "api" :: "v1" :: r.versioned

def path (r : Resource) : String := String.join (r.segments.map ("/" ++ ·))

/-- The resource under a path after the version. -/
def ofVersioned? : List String → Option Resource
  | ["query", "sql"] => some statements
  | ["query", "search", "fulltext"] => some searches
  | ["ingest", "events"] => some events
  | ["load", database, table] => if table.isEmpty then none else some (load database table)
  | ["txn"] => some transactions
  | ["txn", "begin"] => some newTransactions
  | ["txn", database, txnId, "commit"] => some (ending .commit database txnId)
  | ["txn", database, txnId, "abort"] => some (ending .abort database txnId)
  | ["tables", database, table, "schema"] => some (schema database table)
  | _ => none

def ofSegments? : List String → Option Resource
  | ["health"] => some health
  | "api" :: "v1" :: rest => ofVersioned? rest
  | _ => none

/-- The resource under a path that begins with a slash. -/
def ofPath? : List Char → Option Resource
  | '/' :: rest => ofSegments? ((Percent.splitOn '/' rest).map String.ofList)
  | _ => none

/-- The path ends with a segment that is not empty. -/
def isReachable : Resource → Bool
  | load _ table => !table.isEmpty
  | _ => true

theorem ofSegments?_segments {r : Resource} (h : r.isReachable = true) :
    ofSegments? r.segments = some r := by
  cases r with
  | load database table =>
    have ht : table.isEmpty = false := by simpa [isReachable] using h
    simp [segments, versioned, ofSegments?, ofVersioned?, ht]
  | ending how database txnId =>
    cases how <;> simp [segments, versioned, ofSegments?, ofVersioned?, Client.Ending.text]
  | _ => rfl

/-! ## Methods -/

/-- The one method of a resource. -/
def method : Resource → Method
  | health | transactions | schema _ _ => .get
  | statements | searches | events | newTransactions | ending _ _ _ => .post
  | load _ _ => .put

/-- The method that asks for an answer without its body. -/
def headMethod : String := "HEAD"

/-- The method by which a browser asks what it may do; it is answered whatever is asked for. -/
def optionsMethod : String := "OPTIONS"

/-- A resource takes its own method; what can be got can also be had without its body. -/
def takes (r : Resource) (method : String) : Bool :=
  method == r.method.text || (r.method == .get && method == headMethod)

end Resource

end StoreGate
