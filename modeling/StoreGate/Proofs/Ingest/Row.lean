import StoreGate.Proofs.Ingest.Conservation
import StoreGate.Proofs.Time.ReadBack

/-!
# The rows of events

An event becomes a row with columns of its own, whatever columns its data has. Four of them say
where the row comes from, and data that uses their names gives way. The text that the event came in
gives way to the data. All other data is in the row as it was, and nothing else is.

* `RawEvent.Columns` — what a row holds under every name.
* `RawEvent.columns_iff` — one row does, and it is the row of the event.
* `ingested_rows_keep_data` — whatever is ingested, the rows that are loaded are these.
-/

namespace StoreGate

namespace RawEvent

/-! ## Columns -/

/-- The columns that every row has, and the text that the event came in. -/
def ownColumns : List String := ["event_id", "data_source_id", "event_time", "tags", "raw_payload"]

/-- What the data of the event holds under a name. -/
def dataValue? (e : RawEvent) (name : String) : Option Json :=
  e.data.bind fun data => data.get? name

/-- What a row holds under every name, where `madeUpId` stands for a missing id. -/
structure Columns (e : RawEvent) (madeUpId : String) (row : Dict Json) : Prop where
  given_id : ∀ id ∈ e.id, row.get? "event_id" = some (.str id)
  missing_id : e.id = none → row.get? "event_id" = some (.str madeUpId)
  source : row.get? "data_source_id" = some (.str e.source)
  time : row.get? "event_time" = some (.str e.timestamp.writtenText)
  tags : row.get? "tags" = some (.obj (e.tags.entries.map fun tag => (tag.1, .str tag.2)))
  payload : row.get? "raw_payload" = (e.dataValue? "raw_payload").or (e.rawPayload.map .str)
  other : ∀ name, name ∉ ownColumns → row.get? name = e.dataValue? name

variable {e : RawEvent} {madeUpId : String} {row : Dict Json}

theorem get?_data (e : RawEvent) (name : String) :
    (e.data.getD .empty).get? name = e.dataValue? name := by
  unfold dataValue?
  cases e.data with
  | none => rfl
  | some data => rfl

/-- The payload is written where there is none, and nowhere else. -/
theorem get?_withPayload (e : RawEvent) (row : Dict Json) (name : String) :
    (e.withPayload row).get? name =
      if name = "raw_payload" then (row.get? name).or (e.rawPayload.map .str)
      else row.get? name := by
  unfold withPayload
  cases hraw : e.rawPayload with
  | none => simp
  | some raw =>
      by_cases hname : name = "raw_payload"
      · subst hname
        cases hrow : row.get? "raw_payload" with
        | none => simp
        | some v => simp [hrow]
      · rw [if_neg hname]
        dsimp only
        split
        · rfl
        · exact SortedMap.get?_insert_of_ne _ _ (Ne.symm hname)

theorem columns_row (e : RawEvent) (madeUpId : String) : e.Columns madeUpId (e.row madeUpId) where
  given_id id hid := by
    simp [row, SortedMap.get?_insert, Option.mem_def.1 hid]
  missing_id hid := by
    simp [row, SortedMap.get?_insert, hid]
  source := by
    simp [row, SortedMap.get?_insert]
  time := by
    simp [row, SortedMap.get?_insert]
  tags := by
    simp [row, Json.ofDict]
  payload := by
    simp [row, SortedMap.get?_insert, get?_withPayload, get?_data]
  other name hname := by
    simp only [ownColumns, List.mem_cons, List.not_mem_nil, or_false, not_or] at hname
    obtain ⟨hid, hsource, htime, htags, hpayload⟩ := hname
    rw [row, SortedMap.get?_insert_of_ne _ _ (Ne.symm htags),
      SortedMap.get?_insert_of_ne _ _ (Ne.symm htime),
      SortedMap.get?_insert_of_ne _ _ (Ne.symm hsource),
      SortedMap.get?_insert_of_ne _ _ (Ne.symm hid), get?_withPayload, if_neg hpayload, get?_data]

/-- Rows with the same columns hold the same under every name. -/
theorem Columns.get?_eq {row' : Dict Json} (h : e.Columns madeUpId row)
    (h' : e.Columns madeUpId row') (name : String) : row.get? name = row'.get? name := by
  by_cases hname : name ∈ ownColumns
  · simp only [ownColumns, List.mem_cons, List.not_mem_nil, or_false] at hname
    rcases hname with rfl | rfl | rfl | rfl | rfl
    · cases hid : e.id with
      | none => rw [h.missing_id hid, h'.missing_id hid]
      | some id => rw [h.given_id id hid, h'.given_id id hid]
    · rw [h.source, h'.source]
    · rw [h.time, h'.time]
    · rw [h.tags, h'.tags]
    · rw [h.payload, h'.payload]
  · rw [h.other name hname, h'.other name hname]

/-- **One row has these columns and no other**, and it is the row of the event. -/
theorem columns_iff : e.Columns madeUpId row ↔ row = e.row madeUpId := by
  constructor
  · exact fun h => SortedMap.ext_entries (SortedMap.entries_eq_of_get? fun name =>
      h.get?_eq (e.columns_row madeUpId) name)
  · rintro rfl
    exact e.columns_row madeUpId

end RawEvent

/-! ## What is loaded -/

namespace IngestReport

/-- The valid events of one type with the identifiers that are there for them. -/
def validOfType (ids : Nat → Uuid) (events : List RawEvent) (type : String) :
    List (RawEvent × Uuid) :=
  (placed ids events).filter fun e => e.1.isValid && e.1.type = type

theorem forall₂_validRows (ids : Nat → Uuid) (events : List RawEvent) (table : String) :
    List.Forall₂ (fun e row => e.1.Columns e.2.hyphenated row) (validOfType ids events table)
      (validRows ids events table) := by
  have hevents : validOfType ids events table =
      ((placed ids events).filter fun e => e.1.isValid).filter fun e => e.1.type = table := by
    simp [validOfType, List.filter_filter, Bool.and_comm]
  rw [hevents, validRows, rowsOf, List.forall₂_map_right_iff, List.forall₂_same]
  exact fun e _ => e.1.columns_row _

end IngestReport

/-- **Rows keep their own columns and lose no other data.** Whatever the data of an event is and
whatever names it has, the row of the event says where it comes from, and holds the rest of the data
unchanged: the columns are those that `RawEvent.Columns` lists, and no others. The time is the time
of the event without its fraction of a second. And whatever is ingested, every valid event is loaded
into the table of its type, and the rows of a load are the rows of these events, one for one. -/
theorem ingested_rows_keep_data (config : IngestConfig) (ids : Nat → Uuid)
    (events : List RawEvent) (answers : Nat → Except Fault LoadVerdict) :
    (∀ (e : RawEvent) (madeUpId : String) (row : Dict Json),
      e.Columns madeUpId row ↔ row = e.row madeUpId) ∧
    (∀ e : RawEvent, e.timestamp.IsNamed →
      Instant.parse? (e.timestamp.writtenText ++ "Z") = some e.timestamp.wholeSecond) ∧
    (∀ e ∈ events, e.isValid = true →
      ∃ c ∈ (IngestReport.against config ids events answers).2, c.table = e.type) ∧
    ∀ c ∈ (IngestReport.against config ids events answers).2, ∃ rows,
      c.payload = IngestReport.payload rows ∧
      List.Forall₂ (fun e row => e.1.Columns e.2.hyphenated row)
        (IngestReport.validOfType ids events c.table) rows := by
  have hconserves : Conserves config ids events answers _ _ := IngestReport.conserves_against
  refine ⟨fun e madeUpId row => RawEvent.columns_iff, fun e he => Instant.parse?_writtenText he,
    fun e he hvalid => ?_, fun c hc => ⟨_, hconserves.payload c hc, ?_⟩⟩
  · exact List.mem_map.1 ((hconserves.mem_tables e.type).2 ⟨e, he, hvalid, rfl⟩)
  · exact IngestReport.forall₂_validRows ids events c.table

namespace Sample

/-- An event whose data has every name of its own columns, and one more. -/
def colliding : RawEvent where
  id := none
  source := "sensor"
  type := "db"
  timestamp := ⟨1714521600, 120000000⟩
  data := some (.ofList [("event_id", .null), ("data_source_id", .null), ("event_time", .null),
    ("tags", .null), ("raw_payload", .bool false), ("level", .bool true)])
  rawPayload := some "disk full"
  tags := .ofList [("rack", "7")]

end Sample

example : (Json.ofDict id (Sample.colliding.row "made up")).render =
    "\x7b\"data_source_id\":\"sensor\",\"event_id\":\"made up\"," ++
      "\"event_time\":\"2024-05-01 00:00:00\",\"level\":true,\"raw_payload\":false," ++
      "\"tags\":\x7b\"rack\":\"7\"\x7d\x7d" := by
  decide +kernel

/-- The event is loaded with its own columns, with the payload of its data and with the rest of the
data. Its time is read without the fraction. -/
theorem ingested_rows_keep_data_of_colliding :
    Instant.parse? (Sample.colliding.timestamp.writtenText ++ "Z") = some ⟨1714521600, 0⟩ ∧
    ∃ c ∈ (IngestReport.against .standard Uuid.random [Sample.colliding] fun _ => .ok default).2,
      c.table = "db" ∧ ∃ row, c.payload = IngestReport.payload [row] ∧
        row.get? "data_source_id" = some (.str "sensor") ∧
        row.get? "raw_payload" = some (.bool false) ∧ row.get? "level" = some (.bool true) := by
  obtain ⟨-, htime, hloaded, hrows⟩ := ingested_rows_keep_data .standard Uuid.random
    [Sample.colliding] fun _ => .ok default
  refine ⟨htime Sample.colliding ⟨by decide, by decide, .inl (by decide)⟩, ?_⟩
  obtain ⟨c, hc, htable⟩ := hloaded Sample.colliding (by simp) (by decide)
  obtain ⟨rows, hpayload, hcolumns⟩ := hrows c hc
  have hevents : IngestReport.validOfType Uuid.random [Sample.colliding] c.table =
      [(Sample.colliding, Uuid.random 0)] := by
    rw [htable]
    rfl
  rw [hevents] at hcolumns
  cases hcolumns with
  | @cons _ row _ _ hrow hnone =>
      cases hnone
      refine ⟨c, hc, htable, row, hpayload, hrow.source, hrow.payload.trans ?_, ?_⟩
      · rfl
      · rw [hrow.other "level" (by decide)]
        rfl

end StoreGate
