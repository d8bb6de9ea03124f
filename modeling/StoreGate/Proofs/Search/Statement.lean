import StoreGate.Proofs.Search.Plan
import StoreGate.Proofs.Sql.Token

/-!
# What data can do to a planned statement

A request puts texts into its statements: the words, the ends of the time range, and the filters
that are texts. Whatever they are, each of them is one literal of the statement, and outside of its
literals the statement shows only the shape of the request.

* `StatementShape` — what a statement shows outside of its literals.
* `SearchRequest.literals` — what its literals say.
* `TablePlan.reads` — how the statement of a plan reads.
* `plan_reads` — the statements of a request, and of two requests that differ only in texts.
-/

namespace StoreGate

/-! ## Shapes -/

/-- What a filter shows of its value. -/
inductive FilterShape where
  | isNull
  | text
  | number (n : Number)
  | bool (b : Bool)
deriving DecidableEq, Repr

namespace FilterShape

def ofValue? : Json → Option FilterShape
  | .null => some isNull
  | .str _ => some text
  | .num n => some (number n)
  | .bool b => some (bool b)
  | .arr _ => none
  | .obj _ => none

def outline (field : String) : FilterShape → String
  | isNull => field ++ " IS NULL"
  | text => field ++ " = ?"
  | number n => field ++ " = " ++ String.ofList (Json.writeNumber n)
  | bool b => field ++ " = " ++ if b then "true" else "false"

end FilterShape

/-- All that a statement shows outside of its literals. -/
structure StatementShape where
  table : String
  fields : List String
  anyWord : Bool
  timeColumn : String
  hasStart : Bool
  hasFinish : Bool
  filters : List (String × FilterShape)
  limit : Nat
deriving DecidableEq, Repr

/-- A statement with a question mark for every literal. -/
def statementOutline (table : String) (fields : List String) (anyWord : Bool)
    (conditions : List String) (limit : Nat) : String :=
  let operator := if anyWord then "MATCH_ANY" else "MATCH_ALL"
  let perField := fields.map (· ++ " " ++ operator ++ " ?")
  let matching := "(" ++ String.intercalate " OR " perField ++ ")"
  "SELECT * FROM " ++ table ++ " WHERE " ++ String.intercalate " AND " (matching :: conditions) ++
    " LIMIT " ++ Decimal.natText limit ++ " OFFSET 0"

namespace StatementShape

def conditions (s : StatementShape) : List String :=
  (if s.hasStart then [s.timeColumn ++ " >= ?"] else []) ++
    (if s.hasFinish then [s.timeColumn ++ " <= ?"] else []) ++
      s.filters.map fun f => f.2.outline f.1

def outline (s : StatementShape) : String :=
  statementOutline s.table s.fields s.anyWord s.conditions s.limit

end StatementShape

/-- The value, or the empty text if it is a text. -/
def Json.withoutText : Json → Json
  | .str _ => .str ""
  | v => v

/-- The ends of a time range that are given. -/
def TimeRange.bounds (t : TimeRange) : List Instant := t.start.toList ++ t.finish.toList

namespace SearchRequest

/-- The shape of the statement for a table. -/
def shape (r : SearchRequest) (limit : Nat) (timeField table : String) : StatementShape where
  table := table
  fields := r.fieldsFor table
  anyWord := r.anyWord
  timeColumn := r.timeRange.elim timeField fun t => t.column timeField
  hasStart := (r.timeRange.bind TimeRange.start).isSome
  hasFinish := (r.timeRange.bind TimeRange.finish).isSome
  filters := r.filters.entries.filterMap fun e => (FilterShape.ofValue? e.2).map (e.1, ·)
  limit := limit

/-- What the literals of the statement for a table say: the words for every field, the ends of the
time range, the filters that are texts. -/
def literals (r : SearchRequest) (table : String) : List String :=
  List.replicate (r.fieldsFor table).length r.words ++
    ((r.timeRange.elim [] TimeRange.bounds).map Instant.writtenText ++
      r.filters.entries.filterMap fun e => e.2.str?)

/-- The request without its words and without the texts of its filters. -/
def withoutTexts (r : SearchRequest) : SearchRequest :=
  { r with
    keywords := ""
    filters := r.filters.mapValues fun _ v => v.withoutText }

end SearchRequest

/-! ## Conditions -/

namespace Scalar

def shape : Scalar → FilterShape
  | text _ => .text
  | number n => .number n
  | bool b => .bool b

def text? : Scalar → Option String
  | text s => some s
  | number _ => none
  | bool _ => none

end Scalar

namespace Condition

/-- The condition with a question mark for its literal. -/
def outline : Condition → String
  | notBefore field _ => field ++ " >= ?"
  | notAfter field _ => field ++ " <= ?"
  | isNull field => FilterShape.isNull.outline field
  | equals field value => value.shape.outline field

/-- What its literal says. -/
def texts : Condition → List String
  | notBefore _ i => [i.writtenText]
  | notAfter _ i => [i.writtenText]
  | isNull _ => []
  | equals _ value => value.text?.toList

end Condition

section Reading

open Sql

/-- A plain text between quotes is its literal. -/
theorem quote_of_plain {s : String} (h : Plain s.toList) : Literal.quote s = "'" ++ s ++ "'" := by
  have hescape : ∀ cs, Plain cs → cs.flatMap Literal.escape = cs := by
    intro cs hcs
    induction cs with
    | nil => rfl
    | cons c cs ih =>
        obtain ⟨hc, hrest⟩ := plain_cons.1 hcs
        obtain ⟨hquote, hslash, -⟩ := by simpa using hc
        rw [List.flatMap_cons, ih hrest, Literal.escape, if_neg hslash, if_neg hquote]
        rfl
  rw [← String.toList_inj, Literal.quote, Literal.quoteChars, Literal.quoteBody, hescape _ h]
  simp

/-- An end of a time range is a literal, for a written time is plain. -/
theorem reads_bound {field : String} (hname : isName field = true) (comparison : String)
    (hcomparison : Plain comparison.toList) (i : Instant) :
    Reads (field ++ (comparison ++ "'") ++ i.writtenText ++ "'") (field ++ (comparison ++ "?"))
      [i.writtenText] := by
  have hwritten : Plain i.writtenText.toList := (plain_writtenDigits i).ofList
  have hbound := ((Reads.plain (plain_of_isName hname)).append (.plain hcomparison)).append
    (.quote i.writtenText)
  rw [quote_of_plain hwritten] at hbound
  simpa only [String.append_assoc, List.nil_append] using hbound

/-- **A condition** reads as its outline. -/
theorem Condition.reads {c : Condition} (h : isName c.field = true) :
    Reads c.sql c.outline c.texts := by
  have hname : Reads c.field c.field [] := .plain (plain_of_isName h)
  cases c with
  | notBefore field i => exact reads_bound h " >= " (by decide) i
  | notAfter field i => exact reads_bound h " <= " (by decide) i
  | isNull field => exact hname.append (.verbatim " IS NULL")
  | equals field value =>
      have hequals : Reads (field ++ " = ") (field ++ " = ") [] := hname.append (.verbatim " = ")
      cases value with
      | text s =>
          have hmark : field ++ " = " ++ "?" = field ++ " = ?" := String.append_assoc
          have hvalue := hequals.append (.quote s)
          rwa [hmark] at hvalue
      | number n => exact hequals.append (.plain (plain_writeNumber n).ofList)
      | bool b =>
          have hplain : ∀ b : Bool, Plain (if b then "true" else "false").toList := by decide
          exact hequals.append (.plain (hplain b))

/-- The words in one field are a literal. -/
theorem TablePlan.reads_fieldMatch (p : TablePlan) {field : String} (h : isName field = true) :
    Reads (p.fieldMatch field)
      (field ++ " " ++ (if p.anyWord then "MATCH_ANY" else "MATCH_ALL") ++ " ?") [p.keywords] := by
  have hoperator : Plain (operator p.anyWord).toList := by
    cases p.anyWord <;> decide
  have hbefore : Reads (field ++ " " ++ operator p.anyWord ++ " ")
      (field ++ " " ++ operator p.anyWord ++ " ") [] :=
    (((Reads.plain (plain_of_isName h)).append (.verbatim " ")).append
      (.plain hoperator)).append (.verbatim " ")
  have hmark : field ++ " " ++ operator p.anyWord ++ " " ++ "?" =
      field ++ " " ++ operator p.anyWord ++ " ?" := String.append_assoc
  have hmatch := hbefore.append (.quote p.keywords)
  rwa [hmark] at hmatch

/-- **A statement** reads as its outline. -/
theorem TablePlan.reads {p : TablePlan} (htable : isTableName p.table = true)
    (hfields : ∀ f ∈ p.fields, isName f = true)
    (hconditions : ∀ c ∈ p.conditions, isName c.field = true) :
    Reads p.sql
      (statementOutline p.table p.fields p.anyWord (p.conditions.map Condition.outline) p.limit)
      (List.replicate p.fields.length p.keywords ++ p.conditions.flatMap Condition.texts) := by
  have hor : Plain " OR ".toList := by decide
  have hand : Plain " AND ".toList := by decide
  have hlimit : Plain (Decimal.natText p.limit).toList := (plain_natDigits p.limit).ofList
  have hwords : (p.fields.flatMap fun _ => [p.keywords]) =
      List.replicate p.fields.length p.keywords := by
    rw [← List.map_eq_flatMap, List.map_const']
  have hmatches := Reads.intercalate hor fun f hf => p.reads_fieldMatch (hfields f hf)
  have hmatching := ((Reads.verbatim "(").append hmatches).append (.verbatim ")")
  have hclauses := Reads.intercalate_cons hand hmatching fun c hc =>
    Condition.reads (hconditions c hc)
  have hselect := (Reads.verbatim "SELECT * FROM ").append (.plain (plain_of_isTableName htable))
  have hwhere := (hselect.append (.verbatim " WHERE ")).append hclauses
  have hall := ((hwhere.append (.verbatim " LIMIT ")).append (.plain hlimit)).append
    (.verbatim " OFFSET 0")
  -- only the clauses have literals
  simp only [hwords, List.nil_append, List.append_nil] at hall
  exact hall

end Reading

/-! ## Requests -/

section Shapes

variable {t : TimeRange} {column : String}

theorem TimeRange.outline_conditions :
    (t.conditions column).map Condition.outline =
      (if t.start.isSome then [column ++ " >= ?"] else []) ++
        if t.finish.isSome then [column ++ " <= ?"] else [] := by
  obtain ⟨field, start, finish⟩ := t
  cases start <;> cases finish <;> rfl

theorem TimeRange.texts_conditions :
    (t.conditions column).flatMap Condition.texts = t.bounds.map Instant.writtenText := by
  obtain ⟨field, start, finish⟩ := t
  cases start <;> cases finish <;> rfl

/-- What a filter shows is its shape, and its text is a literal. -/
theorem filterCondition_shape {field : String} {value : Json} {c : Condition}
    (h : filterCondition field value = .ok c) :
    ∃ s, FilterShape.ofValue? value = some s ∧ c.outline = s.outline field ∧
      c.texts = value.str?.toList := by
  unfold filterCondition at h
  split at h
  · cases h
  · split at h <;> cases h
    · exact ⟨.isNull, rfl, rfl, rfl⟩
    · exact ⟨.text, rfl, rfl, rfl⟩
    · exact ⟨.number _, rfl, rfl, rfl⟩
    · exact ⟨.bool _, rfl, rfl, rfl⟩

theorem shape_of_filterConditions {entries : List (String × Json)} {filters : List Condition}
    (h : List.Forall₂ (fun e c => filterCondition e.1 e.2 = .ok c) entries filters) :
    filters.map Condition.outline =
        (entries.filterMap fun e => (FilterShape.ofValue? e.2).map (e.1, ·)).map
          (fun f => f.2.outline f.1) ∧
      filters.flatMap Condition.texts = entries.filterMap fun e => e.2.str? := by
  induction h with
  | nil => exact ⟨rfl, rfl⟩
  | cons hc _ ih =>
      obtain ⟨s, hs, houtline, htexts⟩ := filterCondition_shape hc
      constructor
      · rw [List.map_cons, ih.1, houtline, List.filterMap_cons_some (by rw [hs]; rfl)]
        rfl
      · rw [List.flatMap_cons, ih.2, htexts]
        simp only [List.filterMap_eq_flatMap_toList, List.flatMap_cons]

end Shapes

namespace SearchRequest

variable {r r' : SearchRequest} {limit : Nat} {timeField table : String}

/-- The conditions of a request show its shape, and their literals say its texts. -/
theorem shape_of_conditions {cs : List Condition} (h : r.conditions timeField = .ok cs)
    (limit : Nat) (table : String) :
    cs.map Condition.outline = (r.shape limit timeField table).conditions ∧
      cs.flatMap Condition.texts =
        (r.timeRange.elim [] TimeRange.bounds).map Instant.writtenText ++
          r.filters.entries.filterMap fun e => e.2.str? := by
  obtain ⟨range, filters, hrange, hfilters, rfl⟩ := conditions_eq_ok.1 h
  obtain ⟨houtline, htexts⟩ := shape_of_filterConditions hfilters
  obtain ⟨rfl, -⟩ := timeConditions_eq_ok hrange
  rw [List.map_append, List.flatMap_append, houtline, htexts, StatementShape.conditions, shape]
  cases r.timeRange with
  | none => exact ⟨rfl, rfl⟩
  | some t => exact ⟨by rw [Option.elim_some, t.outline_conditions]; rfl,
      by rw [Option.elim_some, t.texts_conditions]; rfl⟩

/-- **The statement for a table** shows the shape of the request, and its literals say the texts of
the request. -/
theorem reads_of_planTable {cs : List Condition} {p : TablePlan}
    (hcs : r.conditions timeField = .ok cs) (h : r.planTable limit cs table = .ok p) :
    Sql.Reads p.sql (r.shape limit timeField table).outline (r.literals table) := by
  obtain ⟨htable, hfields, hp⟩ := planTable_eq_ok h
  have hshape := shape_of_conditions hcs limit table
  have hreads : Sql.Reads p.sql
      (statementOutline table (r.fieldsFor table) r.anyWord (cs.map Condition.outline) limit)
      (List.replicate (r.fieldsFor table).length r.words ++ cs.flatMap Condition.texts) := by
    subst hp
    exact TablePlan.reads htable hfields (isName_of_conditions hcs)
  rwa [hshape.1, hshape.2] at hreads

/-- Words and texts of filters have no part in the shape. -/
theorem shape_withoutTexts (r : SearchRequest) :
    r.withoutTexts.shape limit timeField table = r.shape limit timeField table := by
  have hvalue : ∀ v : Json, FilterShape.ofValue? v.withoutText = FilterShape.ofValue? v := by
    intro v
    cases v <;> rfl
  have hfilters : (r.withoutTexts.filters.entries.filterMap fun e =>
      (FilterShape.ofValue? e.2).map (e.1, ·)) =
        r.filters.entries.filterMap fun e => (FilterShape.ofValue? e.2).map (e.1, ·) := by
    rw [withoutTexts, SortedMap.mapValues, List.filterMap_map]
    simp only [Function.comp_def, hvalue]
  rw [shape, hfilters]
  rfl

end SearchRequest

/-- The statement with its literals blanked, if it can be read. -/
def TablePlan.outline? (p : TablePlan) : Option String :=
  (Sql.lex p.sql.toList).map Sql.Token.outline

/-- **Every statement** of a plan reads as the request has it. -/
theorem SearchRequest.reads_of_plan {r : SearchRequest} {limit : Nat} {timeField : String}
    {plans : List TablePlan} (h : r.plan limit timeField = .ok plans) :
    List.Forall₂ (fun table p => Sql.Reads p.sql (r.shape limit timeField table).outline
      (r.literals table)) r.tables plans := by
  obtain ⟨-, -, cs, hcs, hplans⟩ := plan_eq_ok.1 h
  exact hplans.imp fun table p hp => reads_of_planTable hcs hp

/-- Blanked, the statements of a plan are the shapes of the request. -/
theorem SearchRequest.outlines_of_plan {r : SearchRequest} {limit : Nat} {timeField : String}
    {plans : List TablePlan} (h : r.plan limit timeField = .ok plans) :
    plans.map TablePlan.outline? =
      r.tables.map fun table => some (r.shape limit timeField table).outline := by
  symm
  rw [← List.forall₂_eq_eq_eq, List.forall₂_map_left_iff, List.forall₂_map_right_iff]
  refine (r.reads_of_plan h).imp fun table p hp => ?_
  obtain ⟨tokens, hlex, -, houtline, -⟩ := hp.lex_eq
  rw [TablePlan.outline?, hlex, Option.map_some, houtline]

/-- **What data can do to a planned statement.** Every statement of a plan reads to its end, with
every literal closed. Its literals say the words for every field, the ends of the time range and the
filters that are texts; outside of its literals it shows the shape of the request and no more, where
question marks stand for literals and for nothing else. So the statements of requests that differ
only in words and in texts of filters differ only in literals. -/
theorem plan_reads {r : SearchRequest} {limit : Nat} {timeField : String} {plans : List TablePlan}
    (h : r.plan limit timeField = .ok plans) :
    List.Forall₂ (fun table p => ∃ tokens, Sql.lex p.sql.toList = some tokens ∧
        Sql.Token.texts tokens = r.literals table ∧
        Sql.Token.outline tokens = (r.shape limit timeField table).outline ∧
        .char '?' ∉ tokens) r.tables plans ∧
      ∀ (r' : SearchRequest) (plans' : List TablePlan), r'.plan limit timeField = .ok plans' →
        r'.withoutTexts = r.withoutTexts →
        plans'.map TablePlan.outline? = plans.map TablePlan.outline? := by
  refine ⟨(r.reads_of_plan h).imp fun table p hp => hp.lex_eq, ?_⟩
  intro r' plans' h' hsame
  have htables : r'.withoutTexts.tables = r.withoutTexts.tables := by rw [hsame]
  have htables : r'.tables = r.tables := htables
  have hshape : ∀ table, r'.shape limit timeField table = r.shape limit timeField table := by
    intro table
    rw [← r'.shape_withoutTexts, hsame, r.shape_withoutTexts]
  rw [r.outlines_of_plan h, r'.outlines_of_plan h', htables]
  simp only [hshape]

namespace Sample

/-- A request whose texts hold quotes and end in a backslash. -/
def quotedSearch : SearchRequest :=
  { SearchRequest.new " o'clock \\ " ["app"] ["message", "detail"] with
    filters := SortedMap.ofList [("code", .num (.int 7)), ("level", .str "' OR ''='")] }

theorem plan_quotedSearch : ∃ plans, quotedSearch.plan 10 "timestamp" = .ok plans :=
  exists_ok_of_isOk (by decide +kernel)

end Sample

/-- The statement of a request whose texts hold quotes. -/
theorem plan_reads_of_quotedSearch :
    ∃ p tokens, Sample.quotedSearch.plan 10 "timestamp" = .ok [p] ∧
      Sql.lex p.sql.toList = some tokens ∧
      Sql.Token.texts tokens = ["o'clock \\", "o'clock \\", "' OR ''='"] ∧
      Sql.Token.outline tokens = "SELECT * FROM app WHERE " ++
        "(message MATCH_ANY ? OR detail MATCH_ANY ?) AND code = 7 AND level = ? " ++
        "LIMIT 10 OFFSET 0" := by
  obtain ⟨plans, hplan⟩ := Sample.plan_quotedSearch
  obtain ⟨p, _, ⟨tokens, hlex, htexts, houtline, -⟩, hnone, rfl⟩ :=
    List.forall₂_cons_left_iff.1 (plan_reads hplan).1
  obtain rfl := List.forall₂_nil_left_iff.1 hnone
  refine ⟨p, tokens, hplan, hlex, htexts.trans ?_, houtline.trans ?_⟩
  · decide +kernel
  · decide +kernel

end StoreGate
