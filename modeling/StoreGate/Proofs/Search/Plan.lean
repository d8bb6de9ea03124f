import StoreGate.Proofs.Except
import StoreGate.Search.Plan

/-!
# What makes a request plannable

A plan exists exactly if every part of the request passes its check, and then it says of every table
what the request says of it. The checks of one table do not depend on the others.

* `SearchRequest.plan_eq_ok` — when there is a plan, and what it is.
* `SearchRequest.planTable_eq_ok` — the same for one table.
* `SearchRequest.conditions_eq_ok` — the same for the conditions that all tables share.
* `SearchRequest.plan_of_append` — tables in two groups are planned group by group.
-/

namespace StoreGate

theorem checkName_eq_ok {what name : String} :
    checkName what name = .ok () ↔ Sql.isName name = true := by
  unfold checkName
  split
  · next h => exact iff_of_true rfl h
  · next h => exact iff_of_false (fun hok => by cases hok) h

/-- Names that pass their checks one after another. -/
theorem isName_of_mapM_checkName {what : String} {names : List String} {passed : List Unit}
    (h : names.mapM (checkName what) = .ok passed) : ∀ name ∈ names, Sql.isName name = true := by
  have hall := exceptMapM_eq_ok.1 h
  clear h
  induction hall with
  | nil => exact fun name hname => by cases hname
  | cons hname _ ih => exact List.forall_mem_cons.2 ⟨checkName_eq_ok.1 hname, ih⟩

/-! ## Conditions -/

/-- The column that a condition is about. -/
def Condition.field : Condition → String
  | notBefore field _ => field
  | notAfter field _ => field
  | isNull field => field
  | equals field _ => field

theorem TimeRange.field_of_mem_conditions {t : TimeRange} {column : String} {c : Condition}
    (h : c ∈ t.conditions column) : c.field = column := by
  unfold conditions at h
  rcases List.mem_append.1 h with h | h
  · split at h
    · rw [List.mem_singleton.1 h]
      rfl
    · cases h
  · split at h
    · rw [List.mem_singleton.1 h]
      rfl
    · cases h

theorem TimeRange.conditions_of_isEmpty {t : TimeRange} (h : t.isEmpty = true) (column : String) :
    t.conditions column = [] := by
  obtain ⟨hstart, hfinish⟩ := Bool.and_eq_true_iff.1 h
  rw [conditions, Option.isNone_iff_eq_none.1 hstart, Option.isNone_iff_eq_none.1 hfinish]
  rfl

/-- The column of a time range. -/
def TimeRange.column (t : TimeRange) (defaultColumn : String) : String :=
  t.field.getD defaultColumn

/-- **The time range** gives a condition for each of its ends. -/
theorem timeConditions_eq_ok {column : String} {range : Option TimeRange} {cs : List Condition}
    (h : timeConditions column range = .ok cs) :
    cs = (range.elim [] fun t => t.conditions (t.column column)) ∧
      ∀ c ∈ cs, Sql.isName c.field = true := by
  cases range with
  | none =>
      cases h
      exact ⟨rfl, fun c hc => by cases hc⟩
  | some t =>
      unfold timeConditions at h
      dsimp only at h
      split at h
      · next hempty =>
        cases h
        exact ⟨(t.conditions_of_isEmpty hempty _).symm, fun c hc => by cases hc⟩
      · split at h
        · cases h
        · next hname =>
          split at h
          · cases h
            refine ⟨rfl, fun c hc => ?_⟩
            rw [TimeRange.field_of_mem_conditions hc]
            exact checkName_eq_ok.1 hname
          · cases h

/-- **A filter** gives one condition. -/
theorem filterCondition_eq_ok {field : String} {value : Json} {c : Condition}
    (h : filterCondition field value = .ok c) :
    Sql.isName field = true ∧ c.field = field := by
  unfold filterCondition at h
  split at h
  · cases h
  · next hname =>
    refine ⟨checkName_eq_ok.1 hname, ?_⟩
    split at h <;> cases h <;> rfl

theorem isName_of_filterConditions {entries : List (String × Json)} {filters : List Condition}
    (h : List.Forall₂ (fun e c => filterCondition e.1 e.2 = .ok c) entries filters) :
    ∀ c ∈ filters, Sql.isName c.field = true := by
  induction h with
  | nil => exact fun c hc => by cases hc
  | cons hc _ ih =>
      obtain ⟨hname, hfield⟩ := filterCondition_eq_ok hc
      exact List.forall_mem_cons.2 ⟨hfield ▸ hname, ih⟩

namespace SearchRequest

variable {r : SearchRequest} {timeField : String} {limit : Nat}

/-- **The conditions** are those of the time range and then one for every filter. -/
theorem conditions_eq_ok {cs : List Condition} :
    r.conditions timeField = .ok cs ↔
      ∃ range filters, timeConditions timeField r.timeRange = .ok range ∧
        List.Forall₂ (fun e c => filterCondition e.1 e.2 = .ok c) r.filters.entries filters ∧
        cs = range ++ filters := by
  unfold conditions
  cases htime : timeConditions timeField r.timeRange with
  | error e => simp
  | ok range =>
      rw [exceptMap_eq_ok]
      constructor
      · rintro ⟨filters, hfilters, rfl⟩
        exact ⟨range, filters, rfl, exceptMapM_eq_ok.1 hfilters, rfl⟩
      · rintro ⟨_, filters, hrange, hfilters, rfl⟩
        exact ⟨filters, exceptMapM_eq_ok.2 hfilters, by rw [Except.ok.inj hrange]⟩

theorem isName_of_conditions {cs : List Condition} (h : r.conditions timeField = .ok cs) :
    ∀ c ∈ cs, Sql.isName c.field = true := by
  obtain ⟨range, filters, hrange, hfilters, rfl⟩ := conditions_eq_ok.1 h
  exact List.forall_mem_append.2
    ⟨(timeConditions_eq_ok hrange).2, isName_of_filterConditions hfilters⟩

/-! ## Tables -/

/-- **One table** has a plan if its name and those of its fields are names. -/
theorem planTable_eq_ok {cs : List Condition} {table : String} {p : TablePlan}
    (h : r.planTable limit cs table = .ok p) :
    Sql.isTableName table = true ∧ (∀ f ∈ r.fieldsFor table, Sql.isName f = true) ∧
      p = ⟨table, r.fieldsFor table, r.anyWord, r.words, cs, limit⟩ := by
  unfold planTable at h
  split at h
  · cases h
  · next htable =>
    dsimp only at h
    split at h
    · cases h
    · split at h
      · cases h
      · next hfields =>
        cases h
        exact ⟨by simpa using htable, isName_of_mapM_checkName hfields, rfl⟩

/-- **A request** has a plan if there are words and tables, and its conditions and all of its tables
pass their checks. -/
theorem plan_eq_ok {plans : List TablePlan} :
    r.plan limit timeField = .ok plans ↔
      r.words.isEmpty = false ∧ r.tables ≠ [] ∧ ∃ cs, r.conditions timeField = .ok cs ∧
        List.Forall₂ (fun table p => r.planTable limit cs table = .ok p) r.tables plans := by
  unfold plan
  cases hwords : r.words.isEmpty with
  | true => simp
  | false =>
      by_cases htables : r.tables = []
      · simp [htables]
      · rw [if_neg Bool.false_ne_true, if_neg (by simpa using htables)]
        cases hcs : r.conditions timeField with
        | error e => simp
        | ok cs =>
            dsimp only
            rw [exceptMapM_eq_ok]
            constructor
            · exact fun hplans => ⟨rfl, htables, cs, rfl, hplans⟩
            · rintro ⟨-, -, _, heq, hplans⟩
              rwa [Except.ok.inj heq]

/-- **Tables in two groups** have the plans of the groups, one after the other. -/
theorem plan_of_append {plans : List TablePlan} {xs ys : List String}
    (h : r.plan limit timeField = .ok plans) (htables : r.tables = xs ++ ys) (hxs : xs ≠ [])
    (hys : ys ≠ []) :
    ∃ left right, ({ r with tables := xs } : SearchRequest).plan limit timeField = .ok left ∧
      ({ r with tables := ys } : SearchRequest).plan limit timeField = .ok right ∧
      plans = left ++ right := by
  obtain ⟨hwords, -, cs, hcs, hplans⟩ := plan_eq_ok.1 h
  rw [htables, ← exceptMapM_eq_ok, List.mapM_append] at hplans
  obtain ⟨left, hleft, hrest⟩ := exceptBind_eq_ok.1 hplans
  obtain ⟨right, hright, hall⟩ := exceptBind_eq_ok.1 hrest
  -- the checks of a table ask for no other table
  exact ⟨left, right, plan_eq_ok.2 ⟨hwords, hxs, cs, hcs, exceptMapM_eq_ok.1 hleft⟩,
    plan_eq_ok.2 ⟨hwords, hys, cs, hcs, exceptMapM_eq_ok.1 hright⟩, (Except.ok.inj hall).symm⟩

end SearchRequest

end StoreGate
