import StoreGate.Search.Hit
import StoreGate.Search.Plan

/-!
# Search results

The outcomes of a plan's statements are put together in the order of the request: the rows of the
tables that answered, one after another, and the tables that did not. The page is cut from all hits.

* `SearchResult.ofOutcomes` — the result of the outcomes.
* `SearchRequest.run` — plans, executes one statement after another, and puts the outcomes together.
-/

namespace StoreGate

/-- How a search is carried out. -/
structure SearchConfig where
  /-- The most rows that one table contributes. -/
  tableLimit : Nat
  /-- The most statements in flight at once; zero counts as one. -/
  fanOut : Nat
  /-- The length of a snippet in characters. -/
  snippetChars : Nat
  /-- The column of a time range that names none. -/
  timeField : String
deriving DecidableEq, Repr

namespace SearchConfig

def standard : SearchConfig := ⟨1000, 1, 100, "timestamp"⟩

instance : Inhabited SearchConfig := ⟨standard⟩

def json (c : SearchConfig) : Json :=
  Json.object [("per_table_limit", Json.nat c.tableLimit), ("fan_out", Json.nat c.fanOut),
    ("snippet_chars", Json.nat c.snippetChars), ("default_time_field", .str c.timeField)]

def fields : List (Decode.Field SearchConfig) := [
  Decode.field ["per_table_limit"] .defaulted Decode.nat64 fun v c => { c with tableLimit := v },
  Decode.field ["fan_out"] .defaulted Decode.nat64 fun v c => { c with fanOut := v },
  Decode.field ["snippet_chars"] .defaulted Decode.nat64 fun v c => { c with snippetChars := v },
  Decode.field ["default_time_field"] .defaulted Decode.text fun v c => { c with timeField := v }]

def decode : Decoder SearchConfig := Decode.record standard fields

end SearchConfig

/-- A table whose statement failed. -/
structure TableFailure where
  table : String
  error : String
deriving DecidableEq, Repr

structure SearchResult where
  /-- The hits of the page. -/
  hits : List SearchHit
  /-- The number of hits on all pages. -/
  total : Nat
  page : PageEcho
  searched : List String
  failed : List TableFailure

namespace SearchResult

/-- A plan and what its statement came to. -/
abbrev Outcome := TablePlan × Except Fault QueryResult

/-- The hits of one outcome, in row order. -/
def hitsOf (snippetChars : Nat) (keywords : String) : Outcome → List SearchHit
  | (p, .ok r) =>
    r.rows.map fun row => SearchHit.ofRow p.table r.columns row p.fields keywords snippetChars
  | (_, .error _) => []

def searchedOf : Outcome → Option String
  | (p, .ok _) => some p.table
  | (_, .error _) => none

def failureOf : Outcome → Option TableFailure
  | (_, .ok _) => none
  | (p, .error f) => some ⟨p.table, f.message⟩

/-- The hits of all outcomes before the page is cut. -/
def allHits (config : SearchConfig) (request : SearchRequest) (outcomes : List Outcome) :
    List SearchHit :=
  outcomes.flatMap (hitsOf config.snippetChars request.words)

/-- The result of the outcomes, which stand in the order of the request. -/
def ofOutcomes (config : SearchConfig) (request : SearchRequest) (outcomes : List Outcome) :
    SearchResult :=
  let hits := allHits config request outcomes
  let page := request.page.normalized
  { hits := page.cut hits
    total := hits.length
    page := ⟨page.page, page.size, hits.length⟩
    searched := outcomes.filterMap searchedOf
    failed := outcomes.filterMap failureOf }

def json (r : SearchResult) (tookMs : Nat) : Json :=
  Json.object [
    ("hits", .arr (r.hits.map SearchHit.json)),
    ("total_hits", Json.nat r.total),
    ("pagination", r.page.json),
    ("tables_searched", Json.ofStrings r.searched),
    ("tables_failed", .arr (r.failed.map fun f =>
      Json.object [("table", .str f.table), ("error", .str f.error)])),
    ("took_ms", Json.nat tookMs)]

end SearchResult

namespace SearchRequest

/-- Executes the statement of a plan. -/
def executePlan {m : Type → Type} [Monad m] (execute : String → m (Except Fault QueryResult))
    (p : TablePlan) : m SearchResult.Outcome := do
  return (p, ← execute p.sql)

/-- Runs a search; only an invalid request fails, and then nothing is executed. -/
def run {m : Type → Type} [Monad m] (execute : String → m (Except Fault QueryResult))
    (config : SearchConfig) (request : SearchRequest) : m (Except Fault SearchResult) :=
  match request.plan config.tableLimit config.timeField with
  | .error e => pure (.error e.fault)
  | .ok plans => do
    let outcomes ← plans.mapM (executePlan execute)
    return .ok (SearchResult.ofOutcomes config request outcomes)

end SearchRequest

end StoreGate
