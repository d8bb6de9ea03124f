import StoreGate.Proofs.Search.Plan
import StoreGate.Proofs.Sql.Name

/-!
# Which requests are planned

A request is planned exactly if each of its parts is in order: the words, the tables with their
fields, the filters and the range of time. What is in order is said here of each part by itself, and
each check is shown to pass just that.

* `SearchRequest.IsValid` — every part of a request is in order.
* `SearchRequest.ListsFields` — the fields that a request lists for a table.
* `exists_filterCondition`, `exists_timeConditions`, `SearchRequest.exists_planTable` — what each
  check passes.
* `plan_accepts` — requests in order have one plan per table, all others none.
-/

namespace StoreGate

/-! ## What is in order -/

/-- A value that a column can be compared with. -/
inductive Json.IsScalar : Json → Prop
  | null : IsScalar .null
  | text (s : String) : IsScalar (.str s)
  | number (n : Number) : IsScalar (.num n)
  | bool (b : Bool) : IsScalar (.bool b)

/-- A range of time with an end has a name for its column, and does not run backwards. -/
structure TimeRange.IsValid (t : TimeRange) (defaultColumn : String) : Prop where
  column : Sql.Word (t.field.getD defaultColumn)
  forward : ∀ first ∈ t.start, ∀ last ∈ t.finish, first ≤ last

namespace SearchRequest

/-- The fields that a request lists for a table: those of the table's own list, even of an empty
one, and without such a list the shared ones. -/
inductive ListsFields (r : SearchRequest) (table : String) : List String → Prop
  | own {fields : List String} : (table, fields) ∈ r.tableFields.entries → ListsFields r table fields
  | shared : (∀ e ∈ r.tableFields.entries, e.1 ≠ table) → ListsFields r table r.fields

/-- Every part of the request is in order. -/
structure IsValid (r : SearchRequest) (timeColumn : String) : Prop where
  words : Text.trim r.keywords ≠ ""
  someTable : r.tables ≠ []
  tables : ∀ table ∈ r.tables, Sql.TableWord table
  fields : ∀ table ∈ r.tables, ∀ fields, r.ListsFields table fields →
    fields ≠ [] ∧ ∀ field ∈ fields, Sql.Word field
  filters : ∀ e ∈ r.filters.entries, Sql.Word e.1 ∧ e.2.IsScalar
  range : ∀ t ∈ r.timeRange, t.start ≠ none ∨ t.finish ≠ none → t.IsValid timeColumn

theorem listsFields_iff {r : SearchRequest} {table : String} {fields : List String} :
    r.ListsFields table fields ↔ fields = r.fieldsFor table := by
  have hget : ∀ own, (table, own) ∈ r.tableFields.entries ↔
      r.tableFields.get? table = some own := fun own =>
    SortedMap.mem_entries_iff _ _ _
  unfold fieldsFor
  cases hown : r.tableFields.get? table with
  | some own =>
      constructor
      · rintro (hmem | hnone)
        · exact Option.some.inj (((hget _).1 hmem).symm.trans hown)
        · exact absurd rfl (hnone _ ((hget own).2 hown))
      · rintro rfl
        exact .own ((hget _).2 hown)
  | none =>
      have hnone : ∀ e ∈ r.tableFields.entries, e.1 ≠ table := by
        rintro ⟨_, own⟩ hmem rfl
        rw [(hget own).1 hmem] at hown
        cases hown
      constructor
      · rintro (hmem | _)
        · exact absurd rfl (hnone _ hmem)
        · rfl
      · rintro rfl
        exact .shared hnone

end SearchRequest

/-! ## What the checks pass -/

theorem exists_filterCondition {field : String} {value : Json} :
    (∃ c, filterCondition field value = .ok c) ↔ Sql.Word field ∧ value.IsScalar := by
  rw [← Sql.isName_iff]
  constructor
  · rintro ⟨c, h⟩
    refine ⟨(filterCondition_eq_ok h).1, ?_⟩
    unfold filterCondition at h
    rw [checkName_eq_ok.2 (filterCondition_eq_ok h).1] at h
    cases value with
    | null => exact .null
    | bool b => exact .bool b
    | num n => exact .number n
    | str s => exact .text s
    | arr items => cases h
    | obj members => cases h
  · rintro ⟨hname, hscalar⟩
    unfold filterCondition
    rw [checkName_eq_ok.2 hname]
    cases hscalar with
    | null => exact ⟨_, rfl⟩
    | text s => exact ⟨_, rfl⟩
    | number n => exact ⟨_, rfl⟩
    | bool b => exact ⟨_, rfl⟩

namespace TimeRange

variable {t : TimeRange} {column : String}

theorem isForward_iff :
    t.isForward = true ↔ ∀ first ∈ t.start, ∀ last ∈ t.finish, first ≤ last := by
  obtain ⟨field, start, finish⟩ := t
  cases start <;> cases finish <;> simp [isForward]

theorem isEmpty_eq_false_iff : t.isEmpty = false ↔ t.start ≠ none ∨ t.finish ≠ none := by
  obtain ⟨field, start, finish⟩ := t
  cases start <;> cases finish <;> simp [isEmpty]

theorem isValid_iff :
    t.IsValid column ↔ Sql.isName (t.column column) = true ∧ t.isForward = true := by
  rw [Sql.isName_iff, isForward_iff]
  exact ⟨fun h => ⟨h.column, h.forward⟩, fun h => ⟨h.1, h.2⟩⟩

end TimeRange

theorem exists_timeConditions {column : String} {range : Option TimeRange} :
    (∃ cs, timeConditions column range = .ok cs) ↔
      ∀ t ∈ range, t.start ≠ none ∨ t.finish ≠ none → t.IsValid column := by
  cases range with
  | none => exact iff_of_true ⟨[], rfl⟩ fun t ht => by cases ht
  | some t =>
      simp only [Option.mem_some_iff, forall_eq', ← TimeRange.isEmpty_eq_false_iff,
        TimeRange.isValid_iff]
      unfold timeConditions
      dsimp only
      by_cases hempty : t.isEmpty = true
      · -- a range without an end is not looked at
        rw [if_pos hempty]
        refine iff_of_true ⟨[], rfl⟩ fun h => ?_
        rw [hempty] at h
        cases h
      · rw [if_neg hempty]
        have hend : t.isEmpty = false := Bool.eq_false_iff.2 hempty
        cases hname : checkName "time field" (t.field.getD column) with
        | error e =>
            refine iff_of_false (fun ⟨cs, h⟩ => by cases h) fun h => ?_
            have hok : checkName "time field" (t.field.getD column) = .ok () :=
              checkName_eq_ok.2 (h hend).1
            rw [hname] at hok
            cases hok
        | ok =>
            dsimp only
            by_cases hforward : t.isForward = true
            · rw [if_pos hforward]
              exact iff_of_true ⟨_, rfl⟩ fun _ => ⟨checkName_eq_ok.1 hname, hforward⟩
            · rw [if_neg hforward]
              exact iff_of_false (fun ⟨cs, h⟩ => by cases h) fun h => hforward (h hend).2

namespace SearchRequest

variable {r : SearchRequest} {timeColumn : String} {limit : Nat}

theorem exists_conditions :
    (∃ cs, r.conditions timeColumn = .ok cs) ↔
      (∀ t ∈ r.timeRange, t.start ≠ none ∨ t.finish ≠ none → t.IsValid timeColumn) ∧
        ∀ e ∈ r.filters.entries, Sql.Word e.1 ∧ e.2.IsScalar := by
  have hfilters : (∃ filters, (r.filters.entries.mapM fun e => filterCondition e.1 e.2) =
      .ok filters) ↔ ∀ e ∈ r.filters.entries, Sql.Word e.1 ∧ e.2.IsScalar := by
    rw [exists_exceptMapM_eq_ok]
    exact forall₂_congr fun e _ => exists_filterCondition
  rw [← exists_timeConditions, ← hfilters]
  simp only [conditions_eq_ok, ← exceptMapM_eq_ok]
  constructor
  · rintro ⟨_, range, filters, hrange, hall, -⟩
    exact ⟨⟨range, hrange⟩, filters, hall⟩
  · rintro ⟨⟨range, hrange⟩, filters, hall⟩
    exact ⟨_, range, filters, hrange, hall, rfl⟩

/-- **One table** is planned if its name and its fields are in order, whatever the conditions. -/
theorem exists_planTable {cs : List Condition} {table : String} :
    (∃ p, r.planTable limit cs table = .ok p) ↔
      Sql.TableWord table ∧ ∀ fields, r.ListsFields table fields →
        fields ≠ [] ∧ ∀ field ∈ fields, Sql.Word field := by
  have hnames : (∃ passed, (r.fieldsFor table).mapM (checkName "field") = .ok passed) ↔
      ∀ field ∈ r.fieldsFor table, Sql.Word field := by
    rw [exists_exceptMapM_eq_ok]
    refine forall₂_congr fun field _ => ?_
    rw [← Sql.isName_iff]
    exact ⟨fun ⟨_, h⟩ => checkName_eq_ok.1 h, fun h => ⟨(), checkName_eq_ok.2 h⟩⟩
  simp only [listsFields_iff, forall_eq, ← hnames, ← Sql.isTableName_iff]
  unfold planTable
  by_cases htable : Sql.isTableName table = true
  · rw [htable]
    by_cases hfields : r.fieldsFor table = []
    · simp [hfields]
    · simp only [List.isEmpty_iff, hfields, if_false]
      cases (r.fieldsFor table).mapM (checkName "field") with
      | error e => simp
      | ok passed => simp [hfields]
  · simp [htable]

/-- **A request** is planned exactly if every part of it is in order. -/
theorem exists_plan :
    (∃ plans, r.plan limit timeColumn = .ok plans) ↔ r.IsValid timeColumn := by
  have hwords : r.words.isEmpty = false ↔ Text.trim r.keywords ≠ "" := by
    rw [Bool.eq_false_iff, Ne, String.isEmpty_iff]
    rfl
  have htables : ∀ cs, (∃ plans, List.Forall₂ (fun table p => r.planTable limit cs table = .ok p)
      r.tables plans) ↔ ∀ table ∈ r.tables, Sql.TableWord table ∧
        ∀ fields, r.ListsFields table fields → fields ≠ [] ∧ ∀ field ∈ fields, Sql.Word field := by
    intro cs
    simp only [← exceptMapM_eq_ok, exists_exceptMapM_eq_ok, exists_planTable]
  simp only [plan_eq_ok, hwords]
  constructor
  · rintro ⟨plans, hkeywords, hsome, cs, hcs, hplans⟩
    obtain ⟨hrange, hfilters⟩ := exists_conditions.1 ⟨cs, hcs⟩
    have hall := (htables cs).1 ⟨plans, hplans⟩
    exact ⟨hkeywords, hsome, fun table h => (hall table h).1, fun table h => (hall table h).2,
      hfilters, hrange⟩
  · intro h
    obtain ⟨cs, hcs⟩ := exists_conditions.2 ⟨h.range, h.filters⟩
    obtain ⟨plans, hplans⟩ :=
      (htables cs).2 fun table hmem => ⟨h.tables table hmem, h.fields table hmem⟩
    exact ⟨plans, h.words, h.someTable, cs, hcs, hplans⟩

end SearchRequest

/-! ## All or nothing -/

/-- **Plans of a request.** A request has plans exactly if every part of it is in order. Then it has
one for each of its tables, as often as the table is named and in that order, with the fields that
the request lists for the table. Otherwise it has none, and the fault is an invalid argument. -/
theorem plan_accepts (r : SearchRequest) (limit : Nat) (timeColumn : String) :
    ((∃ plans, r.plan limit timeColumn = .ok plans) ↔ r.IsValid timeColumn) ∧
    ((∃ e, r.plan limit timeColumn = .error e ∧ e.fault.kind = .invalidArgument) ↔
      ¬ r.IsValid timeColumn) ∧
    ∀ plans, r.plan limit timeColumn = .ok plans →
      List.Forall₂ (fun table p => p.table = table ∧ ∀ fields, r.ListsFields table fields ↔
        fields = p.fields) r.tables plans := by
  have hvalid : (∃ plans, r.plan limit timeColumn = .ok plans) ↔ r.IsValid timeColumn :=
    SearchRequest.exists_plan
  refine ⟨hvalid, ?_, fun plans hplans => ?_⟩
  · rw [← hvalid]
    cases hplan : r.plan limit timeColumn with
    | error e => exact iff_of_true ⟨e, rfl, rfl⟩ fun ⟨plans, h⟩ => by cases h
    | ok plans => exact iff_of_false (fun ⟨e, h, _⟩ => by cases h) fun h => h ⟨plans, rfl⟩
  · obtain ⟨-, -, cs, -, hall⟩ := SearchRequest.plan_eq_ok.1 hplans
    refine hall.imp fun table p hp => ?_
    obtain ⟨-, -, rfl⟩ := SearchRequest.planTable_eq_ok hp
    exact ⟨rfl, fun fields => SearchRequest.listsFields_iff⟩

namespace Sample

/-- A table with a list of fields of its own between two mentions of a table without one. -/
def mentionedTwice : SearchRequest :=
  { SearchRequest.new " disk full\t" ["logs.app", "audit", "logs.app"] ["message"] with
    tableFields := .ofList [("audit", ["body", "detail"])]
    timeRange := some ⟨none, some ⟨1714521600, 0⟩, some ⟨1714521600, 0⟩⟩
    filters := .ofList [("code", .num (.int 7)), ("level", .null)] }

theorem plan_mentionedTwice : ∃ plans, mentionedTwice.plan 1000 "event_time" = .ok plans :=
  exists_ok_of_isOk (by decide +kernel)

end Sample

/-- The plans of a request that names a table twice. -/
theorem plan_accepts_of_mentionedTwice :
    Sample.mentionedTwice.IsValid "event_time" ∧
    ∃ plans, Sample.mentionedTwice.plan 1000 "event_time" = .ok plans ∧
      plans.map TablePlan.table = ["logs.app", "audit", "logs.app"] ∧
      plans.map TablePlan.fields = [["message"], ["body", "detail"], ["message"]] := by
  obtain ⟨haccepts, -, hplans⟩ := plan_accepts Sample.mentionedTwice 1000 "event_time"
  refine ⟨haccepts.1 Sample.plan_mentionedTwice, ?_⟩
  obtain ⟨plans, hplan⟩ := Sample.plan_mentionedTwice
  have hshared : Sample.mentionedTwice.ListsFields "logs.app" ["message"] := .shared (by decide)
  have hown : Sample.mentionedTwice.ListsFields "audit" ["body", "detail"] := .own (by decide)
  obtain ⟨p, _, ⟨htable, hfields⟩, hrest, rfl⟩ := List.forall₂_cons_left_iff.1 (hplans plans hplan)
  obtain ⟨p', _, ⟨htable', hfields'⟩, hrest', rfl⟩ := List.forall₂_cons_left_iff.1 hrest
  obtain ⟨p'', _, ⟨htable'', hfields''⟩, hnone, rfl⟩ := List.forall₂_cons_left_iff.1 hrest'
  obtain rfl := List.forall₂_nil_left_iff.1 hnone
  refine ⟨_, hplan, ?_, ?_⟩
  · simp [htable, htable', htable'']
  · simp [← (hfields _).1 hshared, ← (hfields' _).1 hown, ← (hfields'' _).1 hshared]

end StoreGate
