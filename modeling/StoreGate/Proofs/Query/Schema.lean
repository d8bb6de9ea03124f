import StoreGate.Proofs.Sql.Name
import StoreGate.Query.Describe

/-!
# Schemas and the rows they are read from

A schema has one field for every row that is long enough, in the order of the rows, and names the
table that was asked for. Whether there are rows is asked before the short ones are passed over. So
a description whose rows are all short is taken for a table without fields.

* `TableSchema.describe_eq` — a schema depends on the engine's answer alone.
* `TableSchema.Mirrors`, `TableSchema.mirrors_of_answered` — what a schema says of the rows.
* `TableSchema.answered_of_short` — what becomes of a description without a row that is long enough.
* `described_schema_nonempty_iff` — the descriptions whose schemas have a field.
* `short_rows_accepted` — a schema without fields.
-/

namespace StoreGate

namespace TableSchema

/-- The schema of a table, if the engine answers so. -/
def answered (database table : String) (answer : Except Fault QueryResult) :
    Except Fault TableSchema :=
  Id.run (describe (fun _ => pure answer) database table)

variable {database table : String} {answer : Except Fault QueryResult} {r : QueryResult}
  {s : TableSchema}

/-! ## Names -/

theorem checkIdentifier_of_word {name : String} (h : Sql.Word name) :
    checkIdentifier name = .ok () :=
  if_pos (Sql.isIdentifier_iff.2 h)

theorem word_of_checkIdentifier {name : String} (h : checkIdentifier name = .ok ()) :
    Sql.Word name := by
  unfold checkIdentifier at h
  split at h
  · next hname => exact Sql.isIdentifier_iff.1 hname
  · cases h

theorem answered_of_words (hdatabase : Sql.Word database) (htable : Sql.Word table) :
    answered database table answer = answer.bind (ofDescription database table) := by
  unfold answered describe
  rw [checkIdentifier_of_word hdatabase, checkIdentifier_of_word htable]
  cases answer <;> rfl

theorem words_of_answered (h : answered database table answer = .ok s) :
    Sql.Word database ∧ Sql.Word table := by
  unfold answered describe at h
  split at h
  · cases h
  · cases h
  · next hdatabase htable =>
    exact ⟨word_of_checkIdentifier hdatabase, word_of_checkIdentifier htable⟩

/-- **A schema depends on the engine's answer alone**, and the engine is asked for it once, if the
names are identifiers, and is not asked otherwise. -/
theorem describe_eq {m : Type → Type} [Monad m] [LawfulMonad m]
    (execute : String → m (Except Fault QueryResult)) (database table : String) :
    (Sql.Word database ∧ Sql.Word table → describe execute database table =
      answered database table <$> execute (describeSql database table)) ∧
    (¬ (Sql.Word database ∧ Sql.Word table) → ∀ answer,
      describe execute database table = pure (answered database table answer)) := by
  constructor
  · rintro ⟨hdatabase, htable⟩
    have hanswered : answered database table = fun answer =>
        answer.bind (ofDescription database table) :=
      funext fun answer => answered_of_words hdatabase htable
    rw [hanswered, describe, checkIdentifier_of_word hdatabase, checkIdentifier_of_word htable,
      map_eq_pure_bind]
    refine bind_congr fun answer => ?_
    cases answer <;> rfl
  · intro hnames answer
    unfold answered describe
    split
    · rfl
    · rfl
    · next hdatabase htable =>
      exact absurd ⟨word_of_checkIdentifier hdatabase, word_of_checkIdentifier htable⟩ hnames

/-! ## Rows -/

/-- The row has a cell for every column of a description. -/
def IsLong (row : List Json) : Prop := describedColumns ≤ row.length

instance : DecidablePred IsLong := fun row => Nat.decLe describedColumns row.length

/-- Name, type and nullability stand in the first three cells, and the comment in the seventh, if
there is one. -/
structure IsFieldOf (row : List Json) (f : FieldSchema) : Prop where
  name : row[0]?.map cellText = some f.name
  dataType : row[1]?.map cellText = some f.dataType
  nullable : row[2]?.map (fun cell => decide (Text.lowerAscii (cellText cell) = "yes")) =
    some f.nullable
  comment : (row[6]?.map cellText).getD "" = f.comment

/-- **A row that is long enough describes a field**, and a short one describes none. -/
theorem fieldOfRow?_cases (row : List Json) :
    (IsLong row ∧ ∃ f, fieldOfRow? row = some f ∧ IsFieldOf row f) ∨
      (¬ IsLong row ∧ fieldOfRow? row = none) := by
  unfold fieldOfRow?
  split
  · next name type nullable a b c rest =>
    refine .inl ⟨by simp [IsLong, describedColumns], _, rfl, rfl, rfl, rfl, ?_⟩
    rw [List.head?_eq_getElem?]
    rfl
  · next hshort =>
    refine .inr ⟨fun hlong => ?_, rfl⟩
    match row, hlong, hshort with
    | a :: b :: c :: d :: e :: f :: rest, _, hshort => exact hshort a b c d e f rest rfl

theorem forall₂_isFieldOf (rows : List (List Json)) :
    List.Forall₂ IsFieldOf (rows.filter IsLong) (rows.filterMap fieldOfRow?) := by
  induction rows with
  | nil => exact .nil
  | cons row rows ih =>
    rcases fieldOfRow?_cases row with ⟨hlong, f, hf, hfield⟩ | ⟨hshort, hf⟩
    · rw [List.filter_cons_of_pos (by simpa using hlong), List.filterMap_cons_some hf]
      exact .cons hfield ih
    · rw [List.filter_cons_of_neg (by simpa using hshort), List.filterMap_cons_none hf]
      exact ih

/-- The schema names the table, and has a field for every row that is long enough, in the order of
the rows. -/
structure Mirrors (database table : String) (r : QueryResult) (s : TableSchema) : Prop where
  names : Sql.Word database ∧ Sql.Word table
  columns : describedColumns ≤ r.columns.length
  database : s.database = database
  table : s.table = table
  fields : List.Forall₂ IsFieldOf (r.rows.filter IsLong) s.fields

/-- There are rows, and all of them are short. -/
structure IsRagged (r : QueryResult) : Prop where
  columns : describedColumns ≤ r.columns.length
  rows_ne : r.rows ≠ []
  short : ∀ row ∈ r.rows, ¬ IsLong row

/-! ## Descriptions -/

theorem ofDescription_eq_ok_iff : ofDescription database table r = .ok s ↔
    describedColumns ≤ r.columns.length ∧ r.rows ≠ [] ∧
      s = ⟨database, table, r.rows.filterMap fieldOfRow?⟩ := by
  unfold ofDescription
  split
  · next hcolumns => exact iff_of_false (fun h => by cases h) fun h => Nat.not_le.2 hcolumns h.1
  · next hcolumns =>
    have hempty : r.isEmpty = true ↔ r.rows = [] := List.isEmpty_iff
    split
    · next hrows => exact iff_of_false (fun h => by cases h) fun h => h.2.1 (hempty.1 hrows)
    · next hrows =>
      rw [hempty] at hrows
      rw [Except.ok.injEq, eq_comm, and_iff_right (Nat.not_lt.1 hcolumns), and_iff_right hrows]

theorem ofDescription_error_kind {f : Fault} (h : ofDescription database table r = .error f) :
    f.kind = .database := by
  unfold ofDescription at h
  split at h
  · cases h
    rfl
  · split at h
    · cases h
      rfl
    · cases h

/-- **A schema mirrors the rows** it was read from. -/
theorem mirrors_of_answered (h : answered database table answer = .ok s) :
    ∃ r, answer = .ok r ∧ Mirrors database table r s := by
  have hnames := words_of_answered h
  rw [answered_of_words hnames.1 hnames.2] at h
  cases answer with
  | error f => cases h
  | ok r =>
    obtain ⟨hcolumns, -, rfl⟩ := ofDescription_eq_ok_iff.1 h
    exact ⟨r, rfl, hnames, hcolumns, rfl, rfl, forall₂_isFieldOf r.rows⟩

theorem filterMap_fieldOfRow?_eq_nil {rows : List (List Json)} :
    rows.filterMap fieldOfRow? = [] ↔ ∀ row ∈ rows, ¬ IsLong row := by
  rw [List.filterMap_eq_nil_iff]
  refine forall₂_congr fun row _ => ?_
  rcases fieldOfRow?_cases row with ⟨hlong, f, hf, -⟩ | ⟨hshort, hf⟩
  · simp [hf, hlong]
  · simp [hf, hshort]

/-- **Without a row that is long enough** there is a schema exactly if there are short ones, and it
has no fields. -/
theorem answered_of_short (hdatabase : Sql.Word database) (htable : Sql.Word table)
    (hshort : ∀ row ∈ r.rows, ¬ IsLong row) :
    (IsRagged r ∧ answered database table (.ok r) = .ok ⟨database, table, []⟩) ∨
      (¬ IsRagged r ∧ ∃ f, answered database table (.ok r) = .error f ∧ f.kind = .database) := by
  rw [answered_of_words hdatabase htable]
  change (_ ∧ ofDescription database table r = _) ∨ _ ∧ ∃ f, ofDescription database table r = _ ∧ _
  by_cases hragged : IsRagged r
  · refine .inl ⟨hragged, ofDescription_eq_ok_iff.2 ⟨hragged.columns, hragged.rows_ne, ?_⟩⟩
    rw [filterMap_fieldOfRow?_eq_nil.2 hshort]
  · refine .inr ⟨hragged, ?_⟩
    cases hread : ofDescription database table r with
    | error f => exact ⟨f, rfl, ofDescription_error_kind hread⟩
    | ok s =>
      obtain ⟨hcolumns, hrows, -⟩ := ofDescription_eq_ok_iff.1 hread
      exact absurd ⟨hcolumns, hrows, hshort⟩ hragged

end TableSchema

open TableSchema

/-- **Schemas and their rows.** A schema names the table that was asked for and mirrors the rows of
the engine's answer. It has a field, and without a row that is long enough there is a fault of the
engine in its place, exactly if it is not so that the names are identifiers and there are rows that
are all short. -/
theorem described_schema_nonempty_iff (database table : String)
    (answer : Except Fault QueryResult) :
    (∀ s, answered database table answer = .ok s →
      ∃ r, answer = .ok r ∧ Mirrors database table r s) ∧
    (((∀ s, answered database table answer = .ok s → s.fields ≠ []) ∧
      ∀ r, answer = .ok r → Sql.Word database → Sql.Word table →
        (∀ row ∈ r.rows, ¬ IsLong row) →
          ∃ f, answered database table answer = .error f ∧ f.kind = .database) ↔
      ¬ (Sql.Word database ∧ Sql.Word table ∧ ∃ r, answer = .ok r ∧ IsRagged r)) := by
  refine ⟨fun s => mirrors_of_answered, ⟨?_, fun hnot => ⟨fun s hs hempty => ?_, ?_⟩⟩⟩
  · rintro ⟨hfields, -⟩ ⟨hdatabase, htable, r, rfl, hragged⟩
    rcases answered_of_short hdatabase htable hragged.short with ⟨-, hok⟩ | ⟨hnot, -⟩
    · exact hfields _ hok rfl
    · exact hnot hragged
  · obtain ⟨hdatabase, htable⟩ := words_of_answered hs
    rw [answered_of_words hdatabase htable] at hs
    cases answer with
    | error f => cases hs
    | ok r =>
      obtain ⟨hcolumns, hrows, rfl⟩ := ofDescription_eq_ok_iff.1 hs
      have hragged : IsRagged r := ⟨hcolumns, hrows, filterMap_fieldOfRow?_eq_nil.1 hempty⟩
      exact hnot ⟨hdatabase, htable, r, rfl, hragged⟩
  · rintro r rfl hdatabase htable hshort
    rcases answered_of_short hdatabase htable hshort with ⟨hragged, -⟩ | ⟨-, herror⟩
    · exact absurd ⟨hdatabase, htable, r, rfl, hragged⟩ hnot
    · exact herror

/-- One row of one cell makes a table without fields. -/
theorem short_rows_accepted :
    answered "logs" "app" (.ok ⟨["Field", "Type", "Null", "Key", "Default", "Extra"],
      [[.str "broken"]], none⟩) = .ok ⟨"logs", "app", []⟩ :=
  rfl

end StoreGate
