import Mathlib.Algebra.BigOperators.Group.List.Lemmas
import Mathlib.Algebra.GroupWithZero.Nat
import Mathlib.Data.List.Dedup
import Mathlib.Data.List.Sort
import StoreGate.Ingest.Report

/-!
# Groups of rows

Rows are put in groups one after another, each at the end of the group of its table. However the
tables are mixed, a table has a group exactly if it has rows, the group is the rows of the table as
they came, and the groups together have as many rows as there are events.

* `IngestReport.foldl_takeIn` — every event is put into a group or counted.
* `IngestReport.rowsOf` — the rows of one table, in order of arrival.
* `IngestReport.get?_groupRows`, `IngestReport.mem_entries_groupRows` — the group of a table.
* `IngestReport.sum_length_groupRows` — no row is lost and none is doubled.
-/

namespace StoreGate

/-! ## Keys -/

namespace SortedMap

variable {κ α : Type} [KeyOrder κ]

theorem pairwise_keys (m : SortedMap κ α) :
    m.keys.Pairwise fun a b => KeyOrder.before a b = true :=
  List.pairwise_map.2 m.increasing

theorem nodup_keys (m : SortedMap κ α) : m.keys.Nodup := by
  refine m.pairwise_keys.imp ?_
  rintro key _ hbefore rfl
  rw [KeyOrder.irrefl] at hbefore
  cases hbefore

theorem mem_keys_iff [DecidableEq κ] (m : SortedMap κ α) (key : κ) :
    key ∈ m.keys ↔ ∃ value, m.get? key = some value := by
  constructor
  · intro h
    obtain ⟨⟨_, value⟩, hmem, rfl⟩ := List.mem_map.1 h
    exact ⟨value, (mem_entries_iff m _ value).1 hmem⟩
  · rintro ⟨value, h⟩
    exact List.mem_map.2 ⟨(key, value), (mem_entries_iff m key value).2 h, rfl⟩

/-- Maps that hold the same list the same. -/
theorem entries_eq_of_get? [DecidableEq κ] {m m' : SortedMap κ α}
    (h : ∀ key, m.get? key = m'.get? key) : m.entries = m'.entries := by
  have hperm : m.entries.Perm m'.entries := by
    refine (List.perm_ext_iff_of_nodup ?_ ?_).2 ?_
    · exact m.nodup_keys.of_map Prod.fst
    · exact m'.nodup_keys.of_map Prod.fst
    · rintro ⟨key, value⟩
      rw [mem_entries_iff, mem_entries_iff, h]
  refine hperm.eq_of_pairwise ?_ m.increasing m'.increasing
  intro a b _ _ hab hba
  have haa := KeyOrder.trans _ _ _ hab hba
  rw [KeyOrder.irrefl] at haa
  cases haa

end SortedMap

namespace IngestReport

/-! ## Events that are taken in -/

/-- The rows of events by table, each event with the id to use if it has none. -/
def groupRows (events : List (RawEvent × Uuid)) : Dict (List (Dict Json)) :=
  events.foldl (fun groups e => addRow groups e.1.type (e.1.row e.2.hyphenated)) .empty

/-- **Every event is put into a group or counted**, and nothing else of the report changes. -/
theorem foldl_takeIn (events : List (RawEvent × Uuid)) (report : IngestReport) :
    events.foldl takeIn (report, .empty) =
      ({ report with
          validationFailed := report.validationFailed + events.countP fun e => !e.1.isValid },
        groupRows (events.filter fun e => e.1.isValid)) := by
  -- from the right, since a row is added behind those that came before it
  induction events using List.reverseRecOn with
  | nil => rfl
  | append_singleton events e ih =>
      obtain ⟨event, id⟩ := e
      rw [List.foldl_append, ih, List.filter_append, List.countP_append]
      cases hvalid : event.isValid with
      | false => simp [takeIn, hvalid, Nat.add_assoc]
      | true => simp [takeIn, groupRows, hvalid]

/-! ## Rows of a table -/

/-- The rows of the events of one type, in order of arrival. -/
def rowsOf (events : List (RawEvent × Uuid)) (table : String) : List (Dict Json) :=
  (events.filter fun e => e.1.type = table).map fun e => e.1.row e.2.hyphenated

variable (events : List (RawEvent × Uuid)) (table : String)

theorem rowsOf_concat (e : RawEvent × Uuid) :
    rowsOf (events ++ [e]) table =
      if e.1.type = table then rowsOf events table ++ [e.1.row e.2.hyphenated]
      else rowsOf events table := by
  by_cases h : e.1.type = table
  · simp [rowsOf, h]
  · simp [rowsOf, h]

theorem groupRows_concat (e : RawEvent × Uuid) :
    groupRows (events ++ [e]) = addRow (groupRows events) e.1.type (e.1.row e.2.hyphenated) := by
  unfold groupRows
  rw [List.foldl_append]
  rfl

theorem get?_addRow (groups : Dict (List (Dict Json))) (type : String) (row : Dict Json) :
    (addRow groups type row).get? table =
      if type = table then some ((groups.get? table).getD [] ++ [row]) else groups.get? table := by
  unfold addRow
  rw [SortedMap.get?_insert]
  by_cases h : type = table
  · rw [if_pos h, if_pos h, h]
  · rw [if_neg h, if_neg h]

/-- **The group of a table** is its rows, and there is none without rows. -/
theorem get?_groupRows :
    (groupRows events).get? table =
      if rowsOf events table = [] then none else some (rowsOf events table) := by
  -- from the right, since a row is added behind those that came before it
  induction events using List.reverseRecOn with
  | nil => rfl
  | append_singleton events e ih =>
      rw [groupRows_concat, rowsOf_concat, get?_addRow, ih]
      by_cases htype : e.1.type = table
      · by_cases hrows : rowsOf events table = []
        · simp [htype, hrows]
        · simp [htype, hrows]
      · rw [if_neg htype, if_neg htype]

theorem mem_entries_groupRows {group : String × List (Dict Json)} :
    group ∈ (groupRows events).entries ↔
      group.2 = rowsOf events group.1 ∧ rowsOf events group.1 ≠ [] := by
  obtain ⟨table, rows⟩ := group
  rw [SortedMap.mem_entries_iff, get?_groupRows]
  by_cases h : rowsOf events table = []
  · simp [h]
  · rw [if_neg h, Option.some.injEq]
    exact ⟨fun heq => ⟨heq.symm, h⟩, fun hrows => hrows.1.symm⟩

theorem rowsOf_ne_nil : rowsOf events table ≠ [] ↔ ∃ e ∈ events, e.1.type = table := by
  simp [rowsOf, List.filter_eq_nil_iff]

theorem mem_keys_groupRows :
    table ∈ (groupRows events).keys ↔ ∃ e ∈ events, e.1.type = table := by
  rw [SortedMap.mem_keys_iff, get?_groupRows, ← rowsOf_ne_nil]
  by_cases h : rowsOf events table = []
  · simp [h]
  · simp [h]

/-! ## Counting rows -/

theorem length_rowsOf :
    (rowsOf events table).length = (events.map fun e => e.1.type).count table := by
  rw [rowsOf, List.length_map, ← List.countP_eq_length_filter, List.count, List.countP_map]
  refine List.countP_congr fun e _ => ?_
  simp

/-- The tables of the groups are the types of the events, each of them once. -/
theorem keys_groupRows_perm :
    (groupRows events).keys.Perm (events.map fun e => e.1.type).dedup := by
  refine (List.perm_ext_iff_of_nodup (groupRows events).nodup_keys (List.nodup_dedup _)).2 ?_
  intro table
  rw [mem_keys_groupRows, List.mem_dedup, List.mem_map]

/-- **No row is lost and none is doubled.** -/
theorem sum_length_groupRows :
    ((groupRows events).entries.map fun group => group.2.length).sum = events.length := by
  have hcounts : (groupRows events).entries.map (fun group => group.2.length) =
      (groupRows events).keys.map fun table => (events.map fun e => e.1.type).count table := by
    rw [SortedMap.keys, List.map_map]
    refine List.map_congr_left fun group hgroup => ?_
    rw [((mem_entries_groupRows events).1 hgroup).1, length_rowsOf]
    rfl
  calc ((groupRows events).entries.map fun group => group.2.length).sum
      = ((groupRows events).keys.map fun table =>
          (events.map fun e => e.1.type).count table).sum := by rw [hcounts]
    _ = ((events.map fun e => e.1.type).dedup.map fun table =>
          (events.map fun e => e.1.type).count table).sum :=
        ((keys_groupRows_perm events).map _).sum_eq
    _ = (events.map fun e => e.1.type).length := List.sum_map_count_dedup_eq_length _
    _ = events.length := List.length_map _

end IngestReport

end StoreGate
