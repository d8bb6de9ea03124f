import Mathlib.Logic.Function.Basic
import StoreGate.Proofs.Search.Plan
import StoreGate.Search.Result

/-!
# What a search gathers

A search executes the statement of one table after another and takes what each of them is answered.
Told here is what it makes of any answers: of rows and of errors, table by table.

* `SearchRequest.against` — what a search comes to, and the statements that it executes.
* `SearchRequest.answered`, `SearchRequest.unpaged` — the tables with their answers, and the hits of
  all of them.
* `SearchRequest.against_of_plan` — a planned search is made of what its tables are answered.
* `search_gathers` — what a search comes to, how it is put together from searches of fewer tables,
  and what an error changes in it.
-/

namespace StoreGate

/-! ## Executing -/

/-- Notes every statement. The statement at each place is answered by what is given for the place.
-/
def noting (answers : Nat → Except Fault QueryResult) (sql : String) :
    StateM (List String) (Except Fault QueryResult) :=
  fun before => (answers before.length, before ++ [sql])

/-- A table of a search, and what its statement is answered. -/
structure Answered where
  table : String
  answer : Except Fault QueryResult

namespace Answered

/-- The table, if rows came. -/
def searched? (a : Answered) : Option String :=
  match a.answer with
  | .ok _ => some a.table
  | .error _ => none

/-- The table and what the error says, if one came. -/
def failure? (a : Answered) : Option TableFailure :=
  match a.answer with
  | .ok _ => none
  | .error f => some ⟨a.table, f.message⟩

/-- One hit for every row, if rows came. -/
def hits (config : SearchConfig) (r : SearchRequest) (a : Answered) : List SearchHit :=
  match a.answer with
  | .ok result => result.rows.map fun row =>
    SearchHit.ofRow a.table result.columns row (r.fieldsFor a.table) r.words config.snippetChars
  | .error _ => []

variable (table : String) (f : Fault)

@[simp] theorem searched?_error : searched? ⟨table, .error f⟩ = none := rfl

@[simp] theorem failure?_error : failure? ⟨table, .error f⟩ = some ⟨table, f.message⟩ := rfl

@[simp] theorem hits_error (config : SearchConfig) (r : SearchRequest) :
    hits config r ⟨table, .error f⟩ = [] := rfl

end Answered

namespace SearchRequest

/-- What a search comes to, and the statements that it executes. -/
def against (r : SearchRequest) (config : SearchConfig)
    (answers : Nat → Except Fault QueryResult) : Except Fault SearchResult × List String :=
  (run (noting answers) config r).run []

/-- The tables of a request, place by place, with their answers. -/
def answered (r : SearchRequest) (answers : Nat → Except Fault QueryResult) : List Answered :=
  r.tables.mapIdx fun place table => ⟨table, answers place⟩

/-- The hits of all tables, before the page is cut. -/
def unpaged (r : SearchRequest) (config : SearchConfig)
    (answers : Nat → Except Fault QueryResult) : List SearchHit :=
  (r.answered answers).flatMap (Answered.hits config r)

end SearchRequest

/-- The result of tables with their answers. -/
def SearchResult.ofAnswered (config : SearchConfig) (r : SearchRequest) (tables : List Answered) :
    SearchResult :=
  let hits := tables.flatMap (Answered.hits config r)
  let page := r.page.normalized
  { hits := page.cut hits
    total := hits.length
    page := ⟨page.page, page.size, hits.length⟩
    searched := tables.filterMap Answered.searched?
    failed := tables.filterMap Answered.failure? }

namespace SearchRequest

variable {r : SearchRequest} {config : SearchConfig} {answers : Nat → Except Fault QueryResult}
  {plans : List TablePlan}

/-- Statements of before move the places of the answers. -/
theorem run_mapM_executePlan (answers : Nat → Except Fault QueryResult) (plans : List TablePlan)
    (before : List String) :
    (plans.mapM (executePlan (noting answers))).run before =
      (plans.mapIdx fun place p => (p, answers (before.length + place)),
        before ++ plans.map TablePlan.sql) := by
  induction plans generalizing before with
  | nil => exact congrArg (Prod.mk []) (List.append_nil before).symm
  | cons p plans ih =>
      -- the later statements come after one more note, and their places are counted from there
      have hrun : ((p :: plans).mapM (executePlan (noting answers))).run before =
          ((p, answers before.length) ::
              ((plans.mapM (executePlan (noting answers))).run (before ++ [p.sql])).1,
            ((plans.mapM (executePlan (noting answers))).run (before ++ [p.sql])).2) := by
        rw [List.mapM_cons]
        rfl
      rw [hrun, ih]
      simp [List.mapIdx_cons, Nat.add_assoc, Nat.add_comm 1]

/-- What a plan says of the tables is what the request says. -/
theorem fields_of_plan (h : r.plan config.tableLimit config.timeField = .ok plans) :
    plans.map TablePlan.table = r.tables ∧ ∀ p ∈ plans, p.fields = r.fieldsFor p.table := by
  obtain ⟨-, -, cs, -, hplans⟩ := plan_eq_ok.1 h
  have hall : List.Forall₂ (fun p table => p.fields = r.fieldsFor p.table ∧ p.table = table)
      plans r.tables := by
    refine hplans.flip.imp fun p table hp => ?_
    obtain ⟨-, -, rfl⟩ := planTable_eq_ok hp
    exact ⟨rfl, rfl⟩
  obtain ⟨hfields, htables⟩ := (List.forall₂_and_left _ _).1 hall
  rw [← List.forall₂_map_left_iff, List.forall₂_eq_eq_eq] at htables
  exact ⟨htables, hfields⟩

theorem ofOutcomes_eq_ofAnswered {outcomes : List SearchResult.Outcome}
    (h : ∀ o ∈ outcomes, o.1.fields = r.fieldsFor o.1.table) :
    SearchResult.ofOutcomes config r outcomes =
      SearchResult.ofAnswered config r (outcomes.map fun o => ⟨o.1.table, o.2⟩) := by
  have hhits : SearchResult.allHits config r outcomes =
      (outcomes.map fun o => (⟨o.1.table, o.2⟩ : Answered)).flatMap (Answered.hits config r) := by
    rw [SearchResult.allHits, List.flatMap_map]
    refine List.flatMap_congr fun o ho => ?_
    obtain ⟨p, answer⟩ := o
    cases answer with
    | error f => rfl
    | ok result => rw [SearchResult.hitsOf, h _ ho]; rfl
  have hsearched : ∀ o : SearchResult.Outcome,
      Answered.searched? ⟨o.1.table, o.2⟩ = SearchResult.searchedOf o := by
    rintro ⟨p, answer | answer⟩ <;> rfl
  have hfailed : ∀ o : SearchResult.Outcome,
      Answered.failure? ⟨o.1.table, o.2⟩ = SearchResult.failureOf o := by
    rintro ⟨p, answer | answer⟩ <;> rfl
  rw [SearchResult.ofOutcomes, SearchResult.ofAnswered, hhits, List.filterMap_map,
    List.filterMap_map]
  simp only [Function.comp_def, hsearched, hfailed]

/-- **A search without a plan** executes nothing. -/
theorem against_of_fault {e : PlanFault}
    (h : r.plan config.tableLimit config.timeField = .error e) :
    r.against config answers = (.error e.fault, []) := by
  unfold against run
  rw [h]
  rfl

/-- **A planned search** executes the statement of every table, and is made of what its tables are
answered. -/
theorem against_of_plan (h : r.plan config.tableLimit config.timeField = .ok plans) :
    r.against config answers =
      (.ok (SearchResult.ofAnswered config r (r.answered answers)), plans.map TablePlan.sql) := by
  obtain ⟨htables, hfields⟩ := fields_of_plan h
  have hrun : r.against config answers =
      (.ok (SearchResult.ofOutcomes config r
          ((plans.mapM (executePlan (noting answers))).run []).1),
        ((plans.mapM (executePlan (noting answers))).run []).2) := by
    unfold against run
    rw [h]
    rfl
  have hanswered : (plans.mapIdx fun place p => (p, answers (0 + place))).map
      (fun o => (⟨o.1.table, o.2⟩ : Answered)) = r.answered answers := by
    refine List.ext_getElem? fun place => ?_
    simp [answered, ← htables, Function.comp_def]
  have hplanned : ∀ o ∈ plans.mapIdx fun place p => (p, answers (0 + place)),
      o.1.fields = r.fieldsFor o.1.table := by
    intro o ho
    obtain ⟨place, hplace, rfl⟩ := List.mem_mapIdx.1 ho
    exact hfields _ (List.getElem_mem hplace)
  rw [hrun, run_mapM_executePlan, List.length_nil, ofOutcomes_eq_ofAnswered hplanned, hanswered]
  rfl

end SearchRequest

/-! ## Putting answers together -/

section Answers

variable {config : SearchConfig} {r : SearchRequest} {answers : Nat → Except Fault QueryResult}

/-- Every table is searched or has failed. -/
theorem Answered.parted (tables : List Answered) :
    (tables.filterMap searched? ++ (tables.filterMap failure?).map TableFailure.table).Perm
      (tables.map Answered.table) := by
  induction tables with
  | nil => exact .refl _
  | cons a tables ih =>
      obtain ⟨table, f | result⟩ := a
      · exact List.perm_middle.trans (ih.cons table)
      · exact ih.cons table

/-- An error leaves out the hits and the table, and adds a failure. -/
theorem SearchResult.ofAnswered_error (before after : List Answered) (table : String) (f : Fault) :
    ofAnswered config r (before ++ ⟨table, .error f⟩ :: after) =
      { ofAnswered config r (before ++ after) with
        failed := before.filterMap Answered.failure? ++
          ⟨table, f.message⟩ :: after.filterMap Answered.failure? } := by
  simp [ofAnswered, List.filterMap_cons]

namespace SearchRequest

theorem tables_answered : (r.answered answers).map Answered.table = r.tables := by
  refine List.ext_getElem? fun place => ?_
  simp [answered, Function.comp_def]

/-- Tables in two groups are answered one group after the other. -/
theorem answered_of_append {xs ys : List String} (h : r.tables = xs ++ ys) :
    r.answered answers = ({ r with tables := xs } : SearchRequest).answered answers ++
      ({ r with tables := ys } : SearchRequest).answered
        (fun place => answers (place + xs.length)) := by
  rw [answered, h, List.mapIdx_append]
  rfl

/-- Another answer at a place changes that place. -/
theorem answered_update {place : Nat} {table : String} (h : r.tables[place]? = some table)
    (answer : Except Fault QueryResult) :
    r.answered (Function.update answers place answer) =
      (r.answered answers).take place ++
        ⟨table, answer⟩ :: (r.answered answers).drop (place + 1) := by
  have hplace : place < (r.answered answers).length := by
    simpa [answered] using (List.getElem?_eq_some_iff.1 h).1
  have hset : r.answered (Function.update answers place answer) =
      (r.answered answers).set place ⟨table, answer⟩ := by
    refine List.ext_getElem? fun i => ?_
    rcases eq_or_ne place i with rfl | hi
    -- the place itself, then any other
    · rw [List.getElem?_set_self hplace]
      simp [answered, h]
    · simp [answered, List.getElem?_set_ne hi, Function.update_of_ne hi.symm]
  rw [hset, List.set_eq_take_append_cons_drop, if_pos hplace]

/-- The failures of the tables before a place, and of those after it. -/
def failuresBefore (r : SearchRequest) (answers : Nat → Except Fault QueryResult) (place : Nat) :
    List TableFailure :=
  ((r.answered answers).take place).filterMap Answered.failure?

def failuresAfter (r : SearchRequest) (answers : Nat → Except Fault QueryResult) (place : Nat) :
    List TableFailure :=
  ((r.answered answers).drop (place + 1)).filterMap Answered.failure?

end SearchRequest

/-- What a search gathers: the hits of all tables, of which it gives a page, and every table either
as searched or as failed. -/
structure Gathers (config : SearchConfig) (r : SearchRequest)
    (answers : Nat → Except Fault QueryResult) (result : SearchResult) : Prop where
  hits : result.hits = r.page.normalized.cut (r.unpaged config answers)
  total : result.total = (r.unpaged config answers).length
  pageTotal : result.page.total = (r.unpaged config answers).length
  searched : result.searched = (r.answered answers).filterMap Answered.searched?
  failed : result.failed = (r.answered answers).filterMap Answered.failure?
  parted : (result.searched ++ result.failed.map TableFailure.table).Perm r.tables

/-- The results for two groups of tables make up the result for all of them. -/
structure SearchResult.Joins (left right whole : SearchResult) : Prop where
  total : whole.total = left.total + right.total
  searched : whole.searched = left.searched ++ right.searched
  failed : whole.failed = left.failed ++ right.failed

theorem gathers_ofAnswered :
    Gathers config r answers (SearchResult.ofAnswered config r (r.answered answers)) where
  hits := rfl
  total := rfl
  pageTotal := rfl
  searched := rfl
  failed := rfl
  parted := by
    have hparted := Answered.parted (r.answered answers)
    rwa [r.tables_answered] at hparted

namespace SearchRequest

variable {plans : List TablePlan}

/-- A search for tables in two groups is a search for the first group and then one for the second,
which is answered from where the first one ends. -/
theorem against_of_append (h : r.plan config.tableLimit config.timeField = .ok plans)
    {xs ys : List String} (htables : r.tables = xs ++ ys) (hxs : xs ≠ []) (hys : ys ≠ []) :
    ∃ left right statements statements',
      ({ r with tables := xs } : SearchRequest).against config answers = (.ok left, statements) ∧
      ({ r with tables := ys } : SearchRequest).against config
        (fun place => answers (place + xs.length)) = (.ok right, statements') ∧
      plans.map TablePlan.sql = statements ++ statements' ∧
      left.Joins right (.ofAnswered config r (r.answered answers)) := by
  obtain ⟨leftPlans, rightPlans, hleft, hright, rfl⟩ := plan_of_append h htables hxs hys
  refine ⟨_, _, _, _, against_of_plan hleft, against_of_plan hright, List.map_append, ?_⟩
  rw [answered_of_append htables]
  constructor
  · simp only [SearchResult.ofAnswered, List.flatMap_append, List.length_append]
    rfl
  · exact List.filterMap_append
  · exact List.filterMap_append

/-- The hits of tables in two groups. -/
theorem unpaged_of_append {xs ys : List String} (h : r.tables = xs ++ ys) :
    r.unpaged config answers =
      ({ r with tables := xs } : SearchRequest).unpaged config answers ++
        ({ r with tables := ys } : SearchRequest).unpaged config
          (fun place => answers (place + xs.length)) := by
  rw [unpaged, answered_of_append h, List.flatMap_append]
  rfl

/-- An error in place of any other answer leaves a failure at its place. -/
theorem against_update_error (h : r.plan config.tableLimit config.timeField = .ok plans)
    (answers : Nat → Except Fault QueryResult) {place : Nat} {table : String}
    (htable : r.tables[place]? = some table) (f : Fault) :
    r.against config (Function.update answers place (.error f)) =
      (.ok { SearchResult.ofAnswered config r ((r.answered answers).take place ++
          (r.answered answers).drop (place + 1)) with
        failed := r.failuresBefore answers place ++
          ⟨table, f.message⟩ :: r.failuresAfter answers place }, plans.map TablePlan.sql) := by
  rw [against_of_plan h, answered_update htable, SearchResult.ofAnswered_error]
  rfl

end SearchRequest

end Answers

/-! ## Searches -/

/-- **What a search gathers.** A search without a plan fails with the fault of the plan and executes
nothing. Any other succeeds, whatever its statements are answered: it executes the statement of
every table, gathers the hits of the tables that gave rows, and lists every table as searched or as
failed. It is made of the searches for any two groups that its tables fall into, and another error
in place of one changes nothing but the failure of its table. -/
theorem search_gathers (config : SearchConfig) (r : SearchRequest)
    (answers : Nat → Except Fault QueryResult) :
    (∀ e, r.plan config.tableLimit config.timeField = .error e →
      r.against config answers = (.error e.fault, [])) ∧
    ∀ plans, r.plan config.tableLimit config.timeField = .ok plans →
      ∃ result, r.against config answers = (.ok result, plans.map TablePlan.sql) ∧
        plans.map TablePlan.table = r.tables ∧
        Gathers config r answers result ∧
        (∀ xs ys, r.tables = xs ++ ys → xs ≠ [] → ys ≠ [] →
          ∃ left right statements statements',
            ({ r with tables := xs } : SearchRequest).against config answers =
              (.ok left, statements) ∧
            ({ r with tables := ys } : SearchRequest).against config
              (fun place => answers (place + xs.length)) = (.ok right, statements') ∧
            plans.map TablePlan.sql = statements ++ statements' ∧
            left.Joins right result ∧
            r.unpaged config answers =
              ({ r with tables := xs } : SearchRequest).unpaged config answers ++
                ({ r with tables := ys } : SearchRequest).unpaged config
                  (fun place => answers (place + xs.length))) ∧
        ∀ place table f f', r.tables[place]? = some table → answers place = .error f →
          result.failed = r.failuresBefore answers place ++
            ⟨table, f.message⟩ :: r.failuresAfter answers place ∧
          r.against config (Function.update answers place (.error f')) =
            (.ok { result with
                failed := r.failuresBefore answers place ++
                  ⟨table, f'.message⟩ :: r.failuresAfter answers place },
              plans.map TablePlan.sql) := by
  refine ⟨fun e h => r.against_of_fault h, fun plans h => ?_⟩
  refine ⟨_, r.against_of_plan h, (r.fields_of_plan h).1, gathers_ofAnswered, ?_, ?_⟩
  · intro xs ys htables hxs hys
    obtain ⟨left, right, statements, statements', hleft, hright, hall, hjoins⟩ :=
      r.against_of_append h htables hxs hys
    exact ⟨left, right, statements, statements', hleft, hright, hall, hjoins,
      r.unpaged_of_append htables⟩
  · intro place table f f' htable hf
    -- the answers themselves are what an error of theirs puts in place, so one lemma tells both
    have hsame : Function.update answers place (.error f) = answers := by
      rw [← hf]
      exact Function.update_eq_self place answers
    have hresult := r.against_update_error h answers htable f
    rw [hsame, r.against_of_plan h] at hresult
    rw [Except.ok.inj (congrArg Prod.fst hresult)]
    exact ⟨rfl, r.against_update_error h answers htable f'⟩

namespace Sample

def twoTables : SearchRequest := .new "disk" ["app", "db"] ["message"]

/-- The first table gives a row, and the others cannot be reached. -/
def oneAnswers (place : Nat) : Except Fault QueryResult :=
  if place = 0 then .ok ⟨["message"], [[.str "disk full"]], none⟩
  else .error (.database "down" none)

theorem plan_twoTables : ∃ plans, twoTables.plan 1000 "timestamp" = .ok plans :=
  exists_ok_of_isOk (by decide +kernel)

end Sample

/-- A search of two tables, one of which fails. -/
theorem search_gathers_of_oneAnswers :
    ∃ result statements,
      Sample.twoTables.against SearchConfig.standard Sample.oneAnswers =
        (.ok result, statements) ∧
      result.total = 1 ∧ result.searched = ["app"] ∧
      result.failed = [⟨"db", "database error: down"⟩] := by
  obtain ⟨plans, hplan⟩ := Sample.plan_twoTables
  obtain ⟨result, hagainst, -, hgathers, -⟩ :=
    (search_gathers SearchConfig.standard Sample.twoTables Sample.oneAnswers).2 plans hplan
  refine ⟨result, _, hagainst, ?_, ?_, ?_⟩
  · rw [hgathers.total]
    decide +kernel
  · rw [hgathers.searched]
    decide +kernel
  · rw [hgathers.failed]
    decide +kernel

end StoreGate
