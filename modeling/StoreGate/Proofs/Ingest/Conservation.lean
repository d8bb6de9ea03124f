import Mathlib.Data.List.Count
import Mathlib.Data.List.Perm.Basic
import StoreGate.Proofs.Ingest.Groups

/-!
# What becomes of ingested events

Whatever the events are and whatever the loads of their groups come to, every event is written, has
failed with its group, or was not valid. A load is of one table; it says nothing of other tables,
and depends on nothing but the events of its own.

* `LoadCall`, `IngestReport.against` — the loads that are asked for, and what a report says when the
  load at each place is answered by what is given for the place.
* `IngestReport.Tallied`, `IngestReport.Tallied.enter` — the counters are sums over the entries, and
  stay so with every load.
* `IngestReport.run_loadGroups`, `IngestReport.exists_against` — one load and one entry for every
  group.
* `Conserves` — every event is accounted for, and every load has the rows of one table.
* `SameByType` — the same events up to the order of events of different types.
* `ingest_conserves` — what ingestion makes of any events.
-/

namespace StoreGate

/-! ## Asking for loads -/

/-- What a loader is asked for. -/
structure LoadCall where
  database : String
  table : String
  payload : String
  options : LoadOptions

/-- The load as it is but for its label, which is made up. -/
def LoadCall.unlabelled (c : LoadCall) : LoadCall :=
  { c with options := { c.options with label := none } }

def GroupLoad.unlabelled (g : GroupLoad) : GroupLoad := { g with label := "" }

/-- The group was written. -/
def GroupLoad.isLoaded (g : GroupLoad) : Bool := g.error.isNone

/-- Notes every load. The load at each place is answered by what is given for the place. -/
def notingLoads (answers : Nat → Except Fault LoadVerdict) :
    IngestReport.Loader (StateM (List LoadCall)) :=
  fun database table payload options before =>
    (answers before.length, before ++ [⟨database, table, payload, options⟩])

namespace IngestReport

/-- What a report says, and the loads that are asked for. -/
def against (config : IngestConfig) (ids : Nat → Uuid) (events : List RawEvent)
    (answers : Nat → Except Fault LoadVerdict) : IngestReport × List LoadCall :=
  (ingest (notingLoads answers) config ids events).run []

/-- Events with the identifiers that are there for them. -/
def placed (ids : Nat → Uuid) (events : List RawEvent) : List (RawEvent × Uuid) :=
  events.mapIdx fun place e => (e, ids place)

/-- The rows of the valid events of one type, in order of arrival. -/
def validRows (ids : Nat → Uuid) (events : List RawEvent) (table : String) : List (Dict Json) :=
  rowsOf ((placed ids events).filter fun e => e.1.isValid) table

/-- The groups of the valid events. -/
def groups (ids : Nat → Uuid) (events : List RawEvent) : List (String × List (Dict Json)) :=
  (groupRows ((placed ids events).filter fun e => e.1.isValid)).entries

/-- The label of the group at a place, after so many events. -/
def labelAt (ids : Nat → Uuid) (before : Nat) (place : Nat) (table : String) : String :=
  labelFor table (ids (before + place))

def callAt (config : IngestConfig) (ids : Nat → Uuid) (before place : Nat)
    (group : String × List (Dict Json)) : LoadCall :=
  ⟨config.database, group.1, payload group.2, optionsFor config (labelAt ids before place group.1)⟩

def entryAt (ids : Nat → Uuid) (answers : Nat → Except Fault LoadVerdict) (before place : Nat)
    (group : String × List (Dict Json)) : GroupLoad :=
  .ofOutcome group.1 group.2.length (labelAt ids before place group.1) (answers place)

variable {config : IngestConfig} {ids : Nat → Uuid} {events : List RawEvent}
  {answers : Nat → Except Fault LoadVerdict}

section Entries

variable {n : Nat} (place : Nat) (group : String × List (Dict Json))

@[simp] theorem table_entryAt : (entryAt ids answers n place group).table = group.1 := by
  unfold entryAt
  cases answers place <;> rfl

@[simp] theorem events_entryAt : (entryAt ids answers n place group).events = group.2.length := by
  unfold entryAt
  cases answers place <;> rfl

@[simp] theorem label_entryAt :
    (entryAt ids answers n place group).label = labelAt ids n place group.1 := by
  unfold entryAt
  cases answers place <;> rfl

@[simp] theorem isLoaded_entryAt :
    (entryAt ids answers n place group).isLoaded = (answers place).toBool := by
  unfold entryAt
  cases answers place <;> rfl

theorem labelAt_succ : labelAt ids (n + 1) = fun place => labelAt ids n (place + 1) := by
  funext place table
  simp [labelAt, Nat.add_assoc, Nat.add_comm 1]

/-- The loads of later groups take the next identifiers, … -/
theorem callAt_succ : callAt config ids (n + 1) = fun place => callAt config ids n (place + 1) := by
  funext place group
  rw [callAt, labelAt_succ, callAt]

/-- … and their answers come after one more note. -/
theorem entryAt_succ (notes : Nat) :
    entryAt ids (fun place => answers (notes + 1 + place)) (n + 1) =
      fun place => entryAt ids (fun place => answers (notes + place)) n (place + 1) := by
  funext place group
  rw [entryAt, labelAt_succ, entryAt, Nat.add_assoc, Nat.add_comm 1]

end Entries

/-! ## Sums over entries -/

/-- The events of all the entries. -/
def total (loads : List GroupLoad) : Nat := loads.foldr (fun g n => g.events + n) 0

theorem total_eq_sum (loads : List GroupLoad) : total loads = (loads.map GroupLoad.events).sum := by
  induction loads with
  | nil => rfl
  | cons g loads ih => rw [List.map_cons, List.sum_cons, ← ih]; rfl

theorem total_filter_add (p : GroupLoad → Bool) (loads : List GroupLoad) :
    total (loads.filter p) + total (loads.filter fun g => !p g) = total loads := by
  induction loads with
  | nil => rfl
  | cons g loads ih =>
      have hcons : ∀ loads, total (g :: loads) = g.events + total loads := fun _ => rfl
      cases hp : p g with
      | false =>
          rw [List.filter_cons_of_neg (by simp [hp]), List.filter_cons_of_pos (by simp [hp]), hcons,
            hcons]
          omega
      | true =>
          rw [List.filter_cons_of_pos hp, List.filter_cons_of_neg (by simp [hp]), hcons, hcons]
          omega

theorem total_filter_concat (p : GroupLoad → Bool) (loads : List GroupLoad) (g : GroupLoad) :
    total ((loads ++ [g]).filter p) = total (loads.filter p) + if p g then g.events else 0 := by
  rw [total_eq_sum, total_eq_sum, List.filter_append, List.map_append, List.sum_append]
  cases hp : p g with
  | false => simp [hp]
  | true => simp [hp]

/-- The entries of which `p` holds, told by the places that `q` holds of. -/
theorem total_filter_eq_sum {p : GroupLoad → Bool} {q : Nat → Bool} {loads : List GroupLoad}
    (h : ∀ g place, loads[place]? = some g → p g = q place) :
    total (loads.filter p) =
      ((loads.zipIdx.filter fun g => q g.2).map fun g => g.1.events).sum := by
  have hplaces : loads.filter p = (loads.zipIdx.filter fun g => q g.2).map Prod.fst := by
    calc loads.filter p = (loads.zipIdx.map Prod.fst).filter p := by rw [List.zipIdx_map_fst]
      _ = (loads.zipIdx.filter fun g => p g.1).map Prod.fst := List.filter_map
      _ = (loads.zipIdx.filter fun g => q g.2).map Prod.fst := by
        refine congrArg _ (List.filter_congr fun g hg => ?_)
        exact h _ _ (List.mem_zipIdx_iff_getElem?.1 hg)
  rw [total_eq_sum, hplaces, List.map_map]
  rfl

/-- Labels do not count. -/
theorem total_filter_unlabelled {p : GroupLoad → Bool} (hp : ∀ g, p g.unlabelled = p g)
    (loads : List GroupLoad) :
    total ((loads.map GroupLoad.unlabelled).filter p) = total (loads.filter p) := by
  have hcomp : p ∘ GroupLoad.unlabelled = p := funext hp
  rw [List.filter_map, hcomp, total_eq_sum, total_eq_sum, List.map_map]
  rfl

/-! ## Counters -/

/-- The counters are the sums over the entries of the groups that were written, and of those that
were not. -/
structure Tallied (r : IngestReport) : Prop where
  ingested : r.ingested = total (r.loads.filter GroupLoad.isLoaded)
  persistFailed : r.persistFailed = total (r.loads.filter fun g => !g.isLoaded)

section Enter

variable (r : IngestReport) (table : String) (n : Nat) (label : String)
  (outcome : Except Fault LoadVerdict)

@[simp] theorem loads_enter : (r.enter table n label outcome).loads =
    r.loads ++ [GroupLoad.ofOutcome table n label outcome] := by
  cases outcome <;> rfl

@[simp] theorem validationFailed_enter :
    (r.enter table n label outcome).validationFailed = r.validationFailed := by
  cases outcome <;> rfl

variable {r}

/-- **A load is counted once**, by what it came to. -/
theorem Tallied.enter (h : r.Tallied) : (r.enter table n label outcome).Tallied := by
  constructor
  case ingested =>
    rw [loads_enter, total_filter_concat, ← h.ingested]
    cases outcome <;> rfl
  case persistFailed =>
    rw [loads_enter, total_filter_concat, ← h.persistFailed]
    cases outcome <;> rfl

end Enter

theorem counts_of_unlabelled {r r' : IngestReport} (hr : r.Tallied) (hr' : r'.Tallied)
    (h : r'.loads.map GroupLoad.unlabelled = r.loads.map GroupLoad.unlabelled) :
    r'.ingested = r.ingested ∧ r'.persistFailed = r.persistFailed := by
  have hcount : ∀ p : GroupLoad → Bool, (∀ g, p g.unlabelled = p g) →
      total (r'.loads.filter p) = total (r.loads.filter p) := by
    intro p hp
    rw [← total_filter_unlabelled hp, h, total_filter_unlabelled hp]
  rw [hr.ingested, hr'.ingested, hr.persistFailed, hr'.persistFailed]
  exact ⟨hcount _ fun _ => rfl, hcount _ fun _ => rfl⟩

/-! ## Loads of all groups -/

/-- **One load and one entry for every group**, and the counters stay sums. Loads of before move the
places of the answers, and the events and loads of before those of the labels. -/
theorem run_loadGroups (config : IngestConfig) (ids : Nat → Uuid)
    (answers : Nat → Except Fault LoadVerdict) (groups : List (String × List (Dict Json))) (n : Nat)
    (r : IngestReport) (before : List LoadCall) :
    ∃ r', (loadGroups (notingLoads answers) config ids n r groups).run before =
        (r', before ++ groups.mapIdx (callAt config ids n)) ∧
      r'.loads = r.loads ++
        groups.mapIdx (entryAt ids (fun place => answers (before.length + place)) n) ∧
      r'.validationFailed = r.validationFailed ∧ (r.Tallied → r'.Tallied) := by
  induction groups generalizing n r before with
  | nil =>
      exact ⟨r, congrArg (Prod.mk r) (List.append_nil before).symm, (List.append_nil r.loads).symm,
        rfl, id⟩
  | cons group groups ih =>
      obtain ⟨r', hrun, hloads, hinvalid, htallied⟩ := ih (n + 1)
        (r.enter group.1 group.2.length (labelAt ids n 0 group.1) (answers before.length))
        (before ++ [callAt config ids n 0 group])
      refine ⟨r', ?_, ?_, ?_, fun h => htallied (h.enter _ _ _ _)⟩
      · refine Eq.trans hrun ?_
        rw [callAt_succ, List.mapIdx_cons, List.append_assoc]
        rfl
      · rw [hloads, List.length_append, List.length_singleton, entryAt_succ, loads_enter,
          List.mapIdx_cons, List.append_assoc]
        rfl
      · rw [hinvalid, validationFailed_enter]

theorem zip_map_range :
    events.zip ((List.range events.length).map ids) = placed ids events := by
  refine List.ext_getElem? fun place => ?_
  by_cases h : place < events.length
  · simp [placed, h]
  · simp [placed, h]

theorem map_fst_placed (ids : Nat → Uuid) (events : List RawEvent) :
    (placed ids events).map Prod.fst = events := by
  refine List.ext_getElem? fun place => ?_
  simp [placed, Function.comp_def]

theorem countP_placed (ids : Nat → Uuid) (p : RawEvent → Bool) :
    (placed ids events).countP (fun e => p e.1) = events.countP p := by
  conv_rhs => rw [← map_fst_placed ids events, List.countP_map]
  rfl

/-- **What ingestion comes to**: the invalid events are counted, and there is one load and one entry
for every group. -/
theorem exists_against (config : IngestConfig) (ids : Nat → Uuid) (events : List RawEvent)
    (answers : Nat → Except Fault LoadVerdict) :
    ∃ report, against config ids events answers =
        (report, (groups ids events).mapIdx (callAt config ids events.length)) ∧
      report.loads = (groups ids events).mapIdx (entryAt ids answers events.length) ∧
      report.validationFailed = (events.countP fun e => !e.isValid) ∧ report.Tallied := by
  have hrun : against config ids events answers =
      (loadGroups (notingLoads answers) config ids events.length
        { validationFailed := 0 + events.countP fun e => !e.isValid } (groups ids events)).run [] := by
    rw [← countP_placed ids, against, ingest, zip_map_range, foldl_takeIn, groups]
  obtain ⟨report, hreport, hloads, hinvalid, htallied⟩ := run_loadGroups config ids answers
    (groups ids events) events.length
    { validationFailed := 0 + events.countP fun e => !e.isValid } []
  refine ⟨report, hrun.trans hreport, ?_, ?_, htallied ⟨rfl, rfl⟩⟩
  · simpa using hloads
  · simpa using hinvalid

end IngestReport

/-! ## Conservation -/

/-- Every event is written, has failed or was not valid; and there is one load for every type of
valid events, in the order of the types, which has the rows of these events as they came. -/
structure Conserves (config : IngestConfig) (ids : Nat → Uuid) (events : List RawEvent)
    (answers : Nat → Except Fault LoadVerdict) (report : IngestReport) (calls : List LoadCall) :
    Prop where
  accounted : report.ingested + report.persistFailed + report.validationFailed = events.length
  invalid : report.validationFailed = events.countP fun e => !e.isValid
  increasing : (calls.map LoadCall.table).Pairwise (· < ·)
  mem_tables : ∀ table, table ∈ calls.map LoadCall.table ↔
    ∃ e ∈ events, e.isValid = true ∧ e.type = table
  database : ∀ c ∈ calls, c.database = config.database
  payload : ∀ c ∈ calls, c.payload =
    Json.render (.arr ((IngestReport.validRows ids events c.table).map (Json.ofDict fun v => v)))
  tables : report.loads.map GroupLoad.table = calls.map LoadCall.table
  options : calls.map LoadCall.options =
    report.loads.map fun g => IngestReport.optionsFor config g.label
  events : ∀ g ∈ report.loads, g.events = (IngestReport.validRows ids events g.table).length
  outcome : ∀ g place, report.loads[place]? = some g →
    g = GroupLoad.ofOutcome g.table g.events g.label (answers place)
  ingested : report.ingested =
    ((report.loads.zipIdx.filter fun g => (answers g.2).toBool).map fun g => g.1.events).sum
  persistFailed : report.persistFailed =
    ((report.loads.zipIdx.filter fun g => !(answers g.2).toBool).map fun g => g.1.events).sum

namespace IngestReport

variable {config : IngestConfig} {ids : Nat → Uuid} {events : List RawEvent}
  {answers : Nat → Except Fault LoadVerdict}

theorem mem_groups {group : String × List (Dict Json)} :
    group ∈ groups ids events ↔
      group.2 = validRows ids events group.1 ∧ validRows ids events group.1 ≠ [] :=
  mem_entries_groupRows _

theorem mem_placed (ids : Nat → Uuid) {e : RawEvent} (h : e ∈ events) :
    ∃ id, (e, id) ∈ placed ids events := by
  rw [← map_fst_placed ids events] at h
  obtain ⟨⟨_, id⟩, hmem, rfl⟩ := List.mem_map.1 h
  exact ⟨id, hmem⟩

/-- What does not depend on the place is told from the groups. -/
theorem map_mapIdx_eq_map {α β γ : Type} {f : Nat → α → β} {g : β → γ} {k : α → γ}
    (h : ∀ place a, g (f place a) = k a) (xs : List α) : (xs.mapIdx f).map g = xs.map k := by
  refine List.ext_getElem? fun place => ?_
  simp [Function.comp_def, h]

theorem sum_length_groups (ids : Nat → Uuid) (events : List RawEvent) :
    ((groups ids events).map fun group => group.2.length).sum = events.countP RawEvent.isValid := by
  rw [groups, sum_length_groupRows, ← List.countP_eq_length_filter, countP_placed]

theorem entry_eq {n place : Nat} {g : GroupLoad}
    (h : ((groups ids events).mapIdx (entryAt ids answers n))[place]? = some g) :
    g = GroupLoad.ofOutcome g.table g.events g.label (answers place) ∧
      g.isLoaded = (answers place).toBool := by
  rw [List.getElem?_mapIdx] at h
  obtain ⟨group, -, rfl⟩ := Option.map_eq_some_iff.1 h
  refine ⟨?_, isLoaded_entryAt place group⟩
  rw [table_entryAt, events_entryAt, label_entryAt, entryAt]

theorem mem_tables_groups (table : String) :
    table ∈ (groups ids events).map Prod.fst ↔ ∃ e ∈ events, e.isValid = true ∧ e.type = table := by
  refine (mem_keys_groupRows _ _).trans ?_
  constructor
  · rintro ⟨⟨e, id⟩, hmem, htype⟩
    obtain ⟨hplaced, hvalid⟩ := List.mem_filter.1 hmem
    have he : e ∈ (placed ids events).map Prod.fst := List.mem_map.2 ⟨_, hplaced, rfl⟩
    rw [map_fst_placed] at he
    exact ⟨e, he, hvalid, htype⟩
  · rintro ⟨e, he, hvalid, htype⟩
    obtain ⟨id, hplaced⟩ := mem_placed ids he
    exact ⟨(e, id), List.mem_filter.2 ⟨hplaced, hvalid⟩, htype⟩

/-- **Every event is accounted for**, and every load has the rows of one table. -/
theorem conserves_against :
    Conserves config ids events answers (against config ids events answers).1
      (against config ids events answers).2 := by
  have hcallTables : ((groups ids events).mapIdx (callAt config ids events.length)).map
      LoadCall.table = (groups ids events).map Prod.fst :=
    map_mapIdx_eq_map (fun _ group => show _ = group.1 from rfl) _
  have hentryTables : ((groups ids events).mapIdx (entryAt ids answers events.length)).map
      GroupLoad.table = (groups ids events).map Prod.fst :=
    map_mapIdx_eq_map (fun place group => table_entryAt place group) _
  obtain ⟨report, hrun, hloads, hinvalid, htallied⟩ := exists_against config ids events answers
  have hentry : ∀ g place, report.loads[place]? = some g →
      g = GroupLoad.ofOutcome g.table g.events g.label (answers place) ∧
        g.isLoaded = (answers place).toBool := by
    rw [hloads]
    exact fun g place h => entry_eq h
  rw [hrun]
  constructor
  case accounted =>
    have hvalid := events.length_eq_countP_add_countP RawEvent.isValid
    simp only [Bool.not_eq_true, Bool.decide_eq_false] at hvalid
    have hsum : total report.loads = events.countP RawEvent.isValid := by
      rw [hloads, total_eq_sum, ← sum_length_groups ids events]
      exact congrArg List.sum (map_mapIdx_eq_map (fun place group => events_entryAt place group) _)
    have hparts := total_filter_add GroupLoad.isLoaded report.loads
    rw [htallied.ingested, htallied.persistFailed, hinvalid]
    omega
  case invalid =>
    exact hinvalid
  case increasing =>
    rw [hcallTables]
    exact (SortedMap.pairwise_keys _).imp fun h => of_decide_eq_true h
  case mem_tables =>
    intro table
    rw [hcallTables]
    exact mem_tables_groups table
  case database =>
    intro c hc
    obtain ⟨place, hplace, rfl⟩ := List.mem_mapIdx.1 hc
    rfl
  case payload =>
    intro c hc
    obtain ⟨place, hplace, rfl⟩ := List.mem_mapIdx.1 hc
    have hrows := (mem_groups.1 (List.getElem_mem hplace)).1
    dsimp only [callAt]
    rw [payload, hrows]
  case tables =>
    dsimp only
    rw [hloads]
    exact hentryTables.trans hcallTables.symm
  case options =>
    dsimp only
    rw [hloads]
    refine List.ext_getElem? fun place => ?_
    simp [callAt, Function.comp_def]
  case events =>
    intro g hg
    dsimp only at hg
    rw [hloads] at hg
    obtain ⟨place, hplace, rfl⟩ := List.mem_mapIdx.1 hg
    have hrows := (mem_groups.1 (List.getElem_mem hplace)).1
    rw [events_entryAt, table_entryAt, ← hrows]
  case outcome =>
    exact fun g place h => (hentry g place h).1
  case ingested =>
    refine htallied.ingested.trans ?_
    exact total_filter_eq_sum fun g place h => (hentry g place h).2
  case persistFailed =>
    refine htallied.persistFailed.trans ?_
    exact total_filter_eq_sum fun g place h => congrArg not (hentry g place h).2

/-- **An answer changes its own entry**, and no load and no other entry. -/
theorem against_congr (config : IngestConfig) (ids : Nat → Uuid) (events : List RawEvent)
    (answers answers' : Nat → Except Fault LoadVerdict) :
    (against config ids events answers').2 = (against config ids events answers).2 ∧
    (against config ids events answers').1.validationFailed =
      (against config ids events answers).1.validationFailed ∧
    ∀ place, answers' place = answers place →
      (against config ids events answers').1.loads[place]? =
        (against config ids events answers).1.loads[place]? := by
  obtain ⟨report, hrun, hloads, hinvalid, -⟩ := exists_against config ids events answers
  obtain ⟨report', hrun', hloads', hinvalid', -⟩ := exists_against config ids events answers'
  rw [hrun, hrun']
  refine ⟨rfl, hinvalid'.trans hinvalid.symm, fun place h => ?_⟩
  have hentry : entryAt ids answers' events.length place =
      entryAt ids answers events.length place := by
    funext group
    rw [entryAt, h, entryAt]
  dsimp only
  rw [hloads, hloads', List.getElem?_mapIdx, List.getElem?_mapIdx, hentry]

end IngestReport

/-! ## The order of events -/

/-- The event under the identifier that it is written with. -/
def RawEvent.identify (e : RawEvent) (madeUp : Uuid) : RawEvent :=
  { e with id := some (e.id.getD madeUp.hyphenated) }

/-- Events under the identifiers that they are written with. -/
def IngestReport.identified (ids : Nat → Uuid) (events : List RawEvent) : List RawEvent :=
  events.mapIdx fun place e => e.identify (ids place)

/-- The same events, in the same order as far as they are of one type. -/
def SameByType (xs ys : List RawEvent) : Prop :=
  ∀ type, (xs.filter fun e => e.type = type) = ys.filter fun e => e.type = type

theorem SameByType.perm {xs ys : List RawEvent} (h : SameByType xs ys) : xs.Perm ys := by
  classical
  refine List.perm_iff_count.2 fun e => ?_
  -- all copies of an event are among the events of its type
  have hcount : ∀ events : List RawEvent,
      (events.filter fun x => x.type = e.type).count e = events.count e :=
    fun events => List.count_filter (decide_eq_true rfl)
  rw [← hcount xs, h e.type, hcount ys]

namespace IngestReport

variable {ids ids' : Nat → Uuid} {events events' : List RawEvent}

theorem identified_eq_map :
    identified ids events = (placed ids events).map fun e => e.1.identify e.2 := by
  refine List.ext_getElem? fun place => ?_
  simp [identified, placed, Function.comp_def]

/-- An event that has an identifier is written with it, whatever is there to be made up. -/
theorem validRows_eq (table : String) :
    validRows ids events table =
      (((identified ids events).filter fun e => e.type = table).filter RawEvent.isValid).map
        fun e => e.row "" := by
  rw [identified_eq_map, List.filter_map, List.filter_map, List.map_map, validRows, rowsOf,
    List.filter_comm]
  rfl

theorem groups_eq_of_sameByType (h : SameByType (identified ids' events') (identified ids events)) :
    groups ids' events' = groups ids events := by
  refine SortedMap.entries_eq_of_get? fun table => ?_
  have hrows : validRows ids' events' table = validRows ids events table := by
    rw [validRows_eq, validRows_eq, h table]
  unfold validRows at hrows
  rw [get?_groupRows, get?_groupRows, hrows]

theorem countP_identified :
    (identified ids events).countP (fun e => !e.isValid) = events.countP fun e => !e.isValid := by
  conv_rhs => rw [← map_fst_placed ids events, List.countP_map]
  rw [identified_eq_map, List.countP_map]
  rfl

theorem length_identified : (identified ids events).length = events.length := List.length_mapIdx

/-- Loads that differ in their labels alone, … -/
theorem unlabelled_call (config : IngestConfig) (table text label label' : String) :
    LoadCall.unlabelled ⟨config.database, table, text, optionsFor config label⟩ =
      LoadCall.unlabelled ⟨config.database, table, text, optionsFor config label'⟩ := rfl

/-- … and entries that do. -/
theorem unlabelled_ofOutcome (table : String) (events : Nat) (label label' : String)
    (outcome : Except Fault LoadVerdict) :
    (GroupLoad.ofOutcome table events label outcome).unlabelled =
      (GroupLoad.ofOutcome table events label' outcome).unlabelled := by
  cases outcome with
  | ok v => rfl
  | error f => rfl

/-- **The order of events of different types** changes nothing but labels. -/
theorem against_of_sameByType (config : IngestConfig) (answers : Nat → Except Fault LoadVerdict)
    (h : SameByType (identified ids' events') (identified ids events)) :
    (against config ids' events' answers).2.map LoadCall.unlabelled =
      (against config ids events answers).2.map LoadCall.unlabelled ∧
    (against config ids' events' answers).1.loads.map GroupLoad.unlabelled =
      (against config ids events answers).1.loads.map GroupLoad.unlabelled ∧
    (against config ids' events' answers).1.ingested =
      (against config ids events answers).1.ingested ∧
    (against config ids' events' answers).1.persistFailed =
      (against config ids events answers).1.persistFailed ∧
    (against config ids' events' answers).1.validationFailed =
      (against config ids events answers).1.validationFailed := by
  have hlength := h.perm.length_eq
  have hcount := h.perm.countP_eq fun e => !e.isValid
  rw [length_identified, length_identified] at hlength
  rw [countP_identified, countP_identified] at hcount
  have hcall : ∀ place group, (callAt config ids' events.length place group).unlabelled =
      (callAt config ids events.length place group).unlabelled :=
    fun _ group => unlabelled_call config group.1 (payload group.2) _ _
  have hentry : ∀ place group, (entryAt ids' answers events.length place group).unlabelled =
      (entryAt ids answers events.length place group).unlabelled :=
    fun place group => unlabelled_ofOutcome group.1 group.2.length _ _ (answers place)
  obtain ⟨report, hrun, hloads, hinvalid, htallied⟩ := exists_against config ids events answers
  obtain ⟨report', hrun', hloads', hinvalid', htallied'⟩ :=
    exists_against config ids' events' answers
  have hentries : report'.loads.map GroupLoad.unlabelled =
      report.loads.map GroupLoad.unlabelled := by
    rw [hloads, hloads', groups_eq_of_sameByType h, hlength]
    refine List.ext_getElem? fun place => ?_
    simp [Function.comp_def, hentry]
  obtain ⟨hingested, hfailed⟩ := counts_of_unlabelled htallied htallied' hentries
  rw [hrun, hrun', groups_eq_of_sameByType h, hlength]
  refine ⟨?_, hentries, hingested, hfailed, hinvalid'.trans (hcount.trans hinvalid.symm)⟩
  refine List.ext_getElem? fun place => ?_
  simp [Function.comp_def, hcall]

end IngestReport

/-- **What ingestion makes of any events**, whatever the loads come to. Every event is accounted
for, and there is one load for every type of valid events, with their rows in order. An answer
changes the entry of its own load and nothing else. Events that come in another order, but in the
same one as far as they are of one type, change nothing but labels. -/
theorem ingest_conserves (config : IngestConfig) (ids : Nat → Uuid) (events : List RawEvent)
    (answers : Nat → Except Fault LoadVerdict) :
    ∃ report calls, IngestReport.against config ids events answers = (report, calls) ∧
      Conserves config ids events answers report calls ∧
      (∀ answers', ∃ report', IngestReport.against config ids events answers' = (report', calls) ∧
        report'.validationFailed = report.validationFailed ∧
        ∀ place, answers' place = answers place → report'.loads[place]? = report.loads[place]?) ∧
      ∀ ids' events', SameByType (IngestReport.identified ids' events')
          (IngestReport.identified ids events) →
        ∃ report' calls', IngestReport.against config ids' events' answers = (report', calls') ∧
          calls'.map LoadCall.unlabelled = calls.map LoadCall.unlabelled ∧
          report'.loads.map GroupLoad.unlabelled = report.loads.map GroupLoad.unlabelled ∧
          report'.ingested = report.ingested ∧
          report'.persistFailed = report.persistFailed ∧
          report'.validationFailed = report.validationFailed := by
  refine ⟨_, _, rfl, IngestReport.conserves_against, fun answers' => ?_, fun ids' events' h => ?_⟩
  · obtain ⟨hcalls, hinvalid, hentries⟩ :=
      IngestReport.against_congr config ids events answers answers'
    exact ⟨_, Prod.ext rfl hcalls, hinvalid, hentries⟩
  · exact ⟨_, _, rfl, IngestReport.against_of_sameByType config answers h⟩

namespace Sample

/-- An event with a text; without a type it is not valid. -/
def event (id : String) (type : String) : RawEvent :=
  ⟨some id, "sensor", type, ⟨1, 0⟩, none, some "disk full", .empty⟩

def mixed : List RawEvent := [event "1" "db", event "2" "", event "3" "app", event "4" "db"]

/-- The same events by type, in another order. -/
def remixed : List RawEvent := [event "3" "app", event "1" "db", event "4" "db", event "2" ""]

/-- The second group cannot be written. -/
def secondFails (place : Nat) : Except Fault LoadVerdict :=
  if place = 1 then .error (.network "down") else .ok default

theorem sameByType_remixed : SameByType (IngestReport.identified Uuid.random remixed)
    (IngestReport.identified Uuid.random mixed) := by
  have hmixed : IngestReport.identified Uuid.random mixed = mixed := rfl
  have hremixed : IngestReport.identified Uuid.random remixed = remixed := rfl
  intro type
  rw [hmixed, hremixed]
  by_cases hdb : "db" = type
  · subst hdb
    rfl
  · by_cases happ : "app" = type
    · subst happ
      rfl
    · simp [mixed, remixed, event, List.filter_cons, hdb, happ]

end Sample

/-- Four events, of which one is not valid and two fail with their group. -/
theorem ingest_conserves_of_mixed :
    ∃ report calls report' calls',
      IngestReport.against .standard Uuid.random Sample.mixed Sample.secondFails =
        (report, calls) ∧
      report.ingested = 1 ∧ report.persistFailed = 2 ∧ report.validationFailed = 1 ∧
      IngestReport.against .standard Uuid.random Sample.remixed Sample.secondFails =
        (report', calls') ∧
      calls'.map LoadCall.unlabelled = calls.map LoadCall.unlabelled ∧
      report'.ingested = 1 := by
  obtain ⟨report, calls, hrun, hconserves, -, hreorder⟩ :=
    ingest_conserves .standard Uuid.random Sample.mixed Sample.secondFails
  obtain ⟨report', calls', hrun', hcalls, -, hsame, -, -⟩ :=
    hreorder Uuid.random Sample.remixed Sample.sameByType_remixed
  have hingested : report.ingested = 1 := by
    rw [show report = _ from (congrArg Prod.fst hrun).symm]
    decide +kernel
  have hinvalid : report.validationFailed = 1 := by
    rw [hconserves.invalid]
    decide +kernel
  have hall : report.ingested + report.persistFailed + report.validationFailed = 4 :=
    hconserves.accounted
  exact ⟨report, calls, report', calls', hrun, hingested, by omega, hinvalid, hrun', hcalls,
    hsame.trans hingested⟩

end StoreGate
