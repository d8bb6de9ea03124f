import StoreGate.Ingest.Event
import StoreGate.Load.Options
import StoreGate.Uuid

/-!
# Ingested events

Valid events are grouped by type and each group is written with one load. A group that cannot be
written is reported, and the other groups are written all the same. The counters of the report are
kept as the events are taken in and the groups are loaded.

* `IngestReport.takeIn` — puts a valid event into its group and counts another.
* `IngestReport.enter` — counts a group as written or not, and enters its load.
* `IngestReport.ingest` — loads the groups in the order of their tables and reports.
-/

namespace StoreGate

/-- Where events are written. -/
structure IngestConfig where
  /-- Each type of event is a table of this database. -/
  database : String
  loadTimeoutSecs : Nat
deriving DecidableEq, Repr

namespace IngestConfig

def standard : IngestConfig := ⟨"dataseap", 300⟩

instance : Inhabited IngestConfig := ⟨standard⟩

def json (c : IngestConfig) : Json :=
  Json.object [("database", .str c.database), ("load_timeout_secs", Json.nat c.loadTimeoutSecs)]

def fields : List (Decode.Field IngestConfig) := [
  Decode.field ["database"] .defaulted Decode.text fun v c => { c with database := v },
  Decode.field ["load_timeout_secs"] .defaulted Decode.nat64
    fun v c => { c with loadTimeoutSecs := v }]

def decode : Decoder IngestConfig := Decode.record standard fields

end IngestConfig

/-- What loading one group came to. -/
structure GroupLoad where
  table : String
  events : Nat
  label : String
  status : Option LoadStatus
  error : Option String
  errorUrl : Option String
deriving DecidableEq, Repr

namespace GroupLoad

def ofOutcome (table : String) (events : Nat) (label : String) :
    Except Fault LoadVerdict → GroupLoad
  | .ok v => ⟨table, events, label, some v.status, none, v.errorUrl⟩
  | .error f =>
    ⟨table, events, label, f.load?.map (·.status), some f.message, f.load?.bind (·.errorUrl)⟩

def json (g : GroupLoad) : Json :=
  Json.object ([("table", .str g.table), ("events", Json.nat g.events), ("label", .str g.label)] ++
    Json.optionalMember "status" (g.status.map fun s => .str s.text) ++
    Json.optionalMember "error" (g.error.map .str) ++
    Json.optionalMember "error_url" (g.errorUrl.map .str))

end GroupLoad

/-- What became of events. -/
structure IngestReport where
  ingested : Nat := 0
  /-- The events of the groups that were not written. -/
  persistFailed : Nat := 0
  validationFailed : Nat := 0
  loads : List GroupLoad := []
deriving DecidableEq, Repr

namespace IngestReport

def json (r : IngestReport) : Json :=
  Json.object [("ingested", Json.nat r.ingested), ("persist_failed", Json.nat r.persistFailed),
    ("validation_failed", Json.nat r.validationFailed),
    ("loads", .arr (r.loads.map GroupLoad.json))]

/-! ## Groups -/

/-- Adds a row at the end of the group of its table. -/
def addRow (groups : Dict (List (Dict Json))) (table : String) (row : Dict Json) :
    Dict (List (Dict Json)) :=
  groups.insert table ((groups.get? table).getD [] ++ [row])

/-- Adds the row of an event to its group, with the id to use if the event has none. An event that
is not valid is counted and left out. -/
def takeIn : IngestReport × Dict (List (Dict Json)) → RawEvent × Uuid →
    IngestReport × Dict (List (Dict Json))
  | (report, groups), (e, id) =>
    if e.isValid then (report, addRow groups e.type (e.row id.hyphenated))
    else ({ report with validationFailed := report.validationFailed + 1 }, groups)

/-- The text of a group: one array of its rows. -/
def payload (rows : List (Dict Json)) : String :=
  Json.render (.arr (rows.map (Json.ofDict fun v => v)))

def labelFor (table : String) (id : Uuid) : String := "ds_" ++ table ++ "_" ++ id.simple

/-- How a group is loaded. -/
def optionsFor (config : IngestConfig) (label : String) : LoadOptions :=
  (LoadOptions.jsonArray.withLabel label).withTimeout config.loadTimeoutSecs

/-! ## Loads -/

/-- Loads text into a table of a database. -/
abbrev Loader (m : Type → Type) :=
  String → String → String → LoadOptions → m (Except Fault LoadVerdict)

/-- Counts the events of a group and enters what its load came to. -/
def enter (r : IngestReport) (table : String) (events : Nat) (label : String)
    (outcome : Except Fault LoadVerdict) : IngestReport :=
  let load := GroupLoad.ofOutcome table events label outcome
  match outcome with
  | .ok _ => { r with ingested := r.ingested + events, loads := r.loads ++ [load] }
  | .error _ => { r with persistFailed := r.persistFailed + events, loads := r.loads ++ [load] }

/-- Loads groups one after another, each under a label with the next of the identifiers. -/
def loadGroups {m : Type → Type} [Monad m] (load : Loader m) (config : IngestConfig)
    (ids : Nat → Uuid) : Nat → IngestReport → List (String × List (Dict Json)) → m IngestReport
  | _, report, [] => pure report
  | n, report, (table, rows) :: rest => do
    let label := labelFor table (ids n)
    let outcome ← load config.database table (payload rows) (optionsFor config label)
    loadGroups load config ids (n + 1) (report.enter table rows.length label outcome) rest

/-- Ingests events. The identifiers are used in turn: one per event, then one per group. -/
def ingest {m : Type → Type} [Monad m] (load : Loader m) (config : IngestConfig)
    (ids : Nat → Uuid) (events : List RawEvent) : m IngestReport :=
  let given := events.zip ((List.range events.length).map ids)
  let (report, groups) := given.foldl takeIn ({}, .empty)
  loadGroups load config ids events.length report groups.entries

end IngestReport

end StoreGate
