import StoreGate.Proofs.Json.Members
import StoreGate.Proofs.Time.ReadBack
import StoreGate.Search.Request

/-!
# Search requests as data

A search request is read back from its JSON, whatever it asks for: what is left out when it is
written is what a reader takes for granted.

* `SearchRequest.IsData` — the filters are data, and the range ends at instants that texts name.
* `SearchRequest.readsBack_renamed` — any of the keys may stand under their other names.
* `SearchRequest.decode_twice` — a key together with its other name is a fault.
-/

namespace StoreGate

open Decode (ReadsBack Fits)

/-! ## Pages -/

namespace PageRequest

/-- The request as far as the given fields are known. -/
def partly (r : PageRequest) (seen : List String) : PageRequest where
  page := if "page" ∈ seen then r.page else (default : PageRequest).page
  size := if "page_size" ∈ seen then r.size else (default : PageRequest).size

theorem readsBack_word32 (n : UInt32) : ReadsBack word32 n (Json.nat n.toNat) := by
  intro room hroom
  have hlt := n.toNat_lt
  have hle : (n.toNat : Int) ≤ UInt32.size - 1 := by
    show (n.toNat : Int) ≤ 4294967296 - 1
    omega
  rw [word32, Decode.readsBack_natUpTo hle room hroom]
  exact congrArg Except.ok UInt32.ofNat_toNat

/-- The members that a page request is written as. -/
def members (r : PageRequest) : List (String × Json) :=
  [("page", Json.nat r.page.toNat), ("page_size", Json.nat r.size.toNat)]

theorem fits_members (r : PageRequest) : ∀ m ∈ r.members, Fits layout r.partly m.1 m := by
  have hpage : Fits layout r.partly "page" ("page", Json.nat r.page.toNat) :=
    Decode.fits_field rfl rfl (readsBack_word32 r.page) fun seen => by simp [partly]
  have hsize : Fits layout r.partly "page_size" ("page_size", Json.nat r.size.toNat) :=
    Decode.fits_field rfl rfl (readsBack_word32 r.size) fun seen => by simp [partly]
  intro m hm
  simp only [members, List.mem_cons, List.not_mem_nil, or_false] at hm
  rcases hm with rfl | rfl
  · exact hpage
  · exact hsize

theorem readsBack_json (r : PageRequest) : ReadsBack decode r r.json := by
  have hread : ReadsBack (Decode.record (partly r []) layout) r (Json.object r.members) := by
    refine Decode.readsBack_object (by simp [layout, Decode.field]) r.fits_members ?keys ?whole
    case keys =>
      show ["page", "page_size"].Nodup
      decide
    case whole =>
      intro seen hseen
      simp only [members, List.forall_mem_cons] at hseen
      simp [partly, hseen]
  exact hread

end PageRequest

/-! ## Ranges of time -/

theorem Instant.readsBack_json {i : Instant} {s : String} (h : parse? s = some i) :
    ReadsBack decode i i.json := Decode.readsBack_word (parse?_rfc3339_of_parse? h)

namespace TimeRange

/-- The ends of the range are instants that texts name. -/
def IsNamed (r : TimeRange) : Prop :=
  (∀ i ∈ r.start, ∃ s, Instant.parse? s = some i) ∧ ∀ i ∈ r.finish, ∃ s, Instant.parse? s = some i

/-- The range as far as the given fields are known. -/
def partly (r : TimeRange) (seen : List String) : TimeRange where
  field := if "field" ∈ seen then r.field else none
  start := if "start" ∈ seen then r.start else none
  finish := if "end" ∈ seen then r.finish else none

/-- The members that a range is written as. -/
def members (r : TimeRange) : List (String × Json) :=
  Json.optionalMember "field" (r.field.map .str) ++
    Json.optionalMember "start" (r.start.map Instant.json) ++
    Json.optionalMember "end" (r.finish.map Instant.json)

variable {r : TimeRange}

theorem fits_members (h : r.IsNamed) : ∀ m ∈ r.members, Fits layout r.partly m.1 m := by
  have hinstant : ∀ value : Option Instant, (∀ i ∈ value, ∃ s, Instant.parse? s = some i) →
      ∀ i ∈ value, ReadsBack Instant.decode i i.json := by
    intro value hvalue i hi
    obtain ⟨s, hs⟩ := hvalue i hi
    exact Instant.readsBack_json hs
  have hfield : ∀ m ∈ Json.optionalMember "field" (r.field.map .str),
      Fits layout r.partly m.1 m :=
    Decode.fits_optional id rfl rfl (fun s _ => Decode.readsBack_text s) (fun s => by simp)
      fun s hs seen => by simp [partly, Option.mem_def.1 hs]
  have hstart : ∀ m ∈ Json.optionalMember "start" (r.start.map Instant.json),
      Fits layout r.partly m.1 m :=
    Decode.fits_optional id rfl rfl (hinstant r.start h.1) (fun i => by simp [Instant.json])
      fun i hi seen => by simp [partly, Option.mem_def.1 hi]
  have hfinish : ∀ m ∈ Json.optionalMember "end" (r.finish.map Instant.json),
      Fits layout r.partly m.1 m :=
    Decode.fits_optional id rfl rfl (hinstant r.finish h.2) (fun i => by simp [Instant.json])
      fun i hi seen => by simp [partly, Option.mem_def.1 hi]
  rw [members, List.forall_mem_append, List.forall_mem_append]
  exact ⟨⟨hfield, hstart⟩, hfinish⟩

theorem nodup_keys (r : TimeRange) : (r.members.map Prod.fst).Nodup := by
  have hsublist : (r.members.map Prod.fst).Sublist ["field", "start", "end"] := by
    rw [members, List.map_append, List.map_append]
    exact ((Json.keys_optional_sublist _ _).append (Json.keys_optional_sublist _ _)).append
      (Json.keys_optional_sublist _ _)
  exact hsublist.nodup (by decide)

theorem readsBack_json (h : r.IsNamed) : ReadsBack decode r r.json := by
  have hread : ReadsBack (Decode.record (partly r []) layout) r (Json.object r.members) := by
    refine Decode.readsBack_object (by simp [layout, Decode.field]) (fits_members h) r.nodup_keys
      ?whole
    case whole =>
      intro seen hseen
      simp only [members, List.forall_mem_append, Json.forall_mem_optional] at hseen
      obtain ⟨⟨hfield, hstart⟩, hfinish⟩ := hseen
      obtain ⟨field, start, finish⟩ := r
      cases field <;> cases start <;> cases finish <;> simp_all [partly]
  exact hread

end TimeRange

/-! ## Requests -/

namespace SearchRequest

/-- The filters are data, and the range ends at instants that texts name. -/
structure IsData (r : SearchRequest) : Prop where
  filters : ∀ e ∈ r.filters.entries, e.2.Canonical
  range : ∀ t ∈ r.timeRange, t.IsNamed

/-- Keys with a second name, and that name. -/
def otherNames : List (String × String) := [
  ("target_tables", "targetTables"), ("target_fields", "targetFields"),
  ("table_fields", "tableFields"), ("recall_priority", "recallPriority"),
  ("time_range", "timeRangeFilter")]

/-- A key under its second name, if it has one and is chosen. -/
def rename (chosen : String → Bool) (key : String) : String :=
  if chosen key then (otherNames.lookup key).getD key else key

/-- The request as far as the given fields are known. -/
def partly (r : SearchRequest) (seen : List String) : SearchRequest where
  keywords := if "keywords" ∈ seen then r.keywords else ""
  tables := if "target_tables" ∈ seen then r.tables else []
  fields := if "target_fields" ∈ seen then r.fields else []
  tableFields := if "table_fields" ∈ seen then r.tableFields else .empty
  tokenizer := if "tokenizer" ∈ seen then r.tokenizer else none
  anyWord := if "recall_priority" ∈ seen then r.anyWord else true
  timeRange := if "time_range" ∈ seen then r.timeRange else none
  filters := if "filters" ∈ seen then r.filters else .empty
  page := if "pagination" ∈ seen then r.page else default

/-- The members that a request is written as. -/
def members (r : SearchRequest) : List (String × Json) := [
    ("keywords", .str r.keywords), ("target_tables", Json.ofStrings r.tables),
    ("target_fields", Json.ofStrings r.fields),
    ("table_fields", Json.ofDict Json.ofStrings r.tableFields)] ++
  Json.optionalMember "tokenizer" (r.tokenizer.map .str) ++
  [("recall_priority", .bool r.anyWord)] ++
  Json.optionalMember "time_range" (r.timeRange.map TimeRange.json) ++
  [("filters", Json.ofDict id r.filters), ("pagination", r.page.json)]

variable {r : SearchRequest}

/-- A key and its second name stand for one field. -/
theorem exists_field_of_otherNames {e : String × String} (h : e ∈ otherNames) :
    ∃ f, Decode.fieldOf? layout e.1 = some f ∧ Decode.fieldOf? layout e.2 = some f := by
  simp only [otherNames, List.mem_cons, List.not_mem_nil, or_false] at h
  rcases h with rfl | rfl | rfl | rfl | rfl <;> exact ⟨_, rfl, rfl⟩

theorem fieldOf?_rename (chosen : String → Bool) (key : String) :
    Decode.fieldOf? layout (rename chosen key) = Decode.fieldOf? layout key := by
  unfold rename
  by_cases hchosen : chosen key = true
  · rw [if_pos hchosen]
    cases hother : otherNames.lookup key with
    | none => rfl
    | some other =>
        obtain ⟨before, after, hsplit, -⟩ := List.lookup_eq_some_iff.1 hother
        have hmem : (key, other) ∈ otherNames := by
          rw [hsplit]
          exact List.mem_append_right _ List.mem_cons_self
        obtain ⟨f, hkey, hname⟩ := exists_field_of_otherNames hmem
        exact hname.trans hkey.symm
  · rw [if_neg hchosen]

/-- **Every member** is read into the field that it was written from, under either name. -/
theorem fits_members (h : r.IsData) (chosen : String → Bool) :
    ∀ m ∈ r.members, Fits layout r.partly m.1 (rename chosen m.1, m.2) := by
  have hfield := fieldOf?_rename chosen
  have htexts : ∀ e ∈ r.tableFields.entries,
      ReadsBack (Decode.list Decode.text) e.2 (Json.ofStrings e.2) :=
    fun e _ => Decode.readsBack_texts e.2
  have hdata : ∀ e ∈ r.filters.entries, ReadsBack Decode.data e.2 (id e.2) :=
    fun e he => Decode.readsBack_data (h.filters e he)
  have hkeywords : Fits layout r.partly "keywords" (rename chosen "keywords", .str r.keywords) :=
    Decode.fits_field ((hfield _).trans rfl) rfl (Decode.readsBack_text _)
      fun seen => by simp [partly]
  have htables : Fits layout r.partly "target_tables"
      (rename chosen "target_tables", Json.ofStrings r.tables) :=
    Decode.fits_field ((hfield _).trans rfl) rfl (Decode.readsBack_texts _)
      fun seen => by simp [partly]
  have hfields : Fits layout r.partly "target_fields"
      (rename chosen "target_fields", Json.ofStrings r.fields) :=
    Decode.fits_field ((hfield _).trans rfl) rfl (Decode.readsBack_texts _)
      fun seen => by simp [partly]
  have htableFields : Fits layout r.partly "table_fields"
      (rename chosen "table_fields", Json.ofDict Json.ofStrings r.tableFields) :=
    Decode.fits_field ((hfield _).trans rfl) rfl (Decode.readsBack_dict htexts)
      fun seen => by simp [partly]
  have hanyWord : Fits layout r.partly "recall_priority"
      (rename chosen "recall_priority", .bool r.anyWord) :=
    Decode.fits_field ((hfield _).trans rfl) rfl (Decode.readsBack_bool _)
      fun seen => by simp [partly]
  have hfilters : Fits layout r.partly "filters"
      (rename chosen "filters", Json.ofDict id r.filters) :=
    Decode.fits_field ((hfield _).trans rfl) rfl (Decode.readsBack_dict hdata)
      fun seen => by simp [partly]
  have hpage : Fits layout r.partly "pagination" (rename chosen "pagination", r.page.json) :=
    Decode.fits_field ((hfield _).trans rfl) rfl (PageRequest.readsBack_json _)
      fun seen => by simp [partly]
  have htokenizer : ∀ m ∈ Json.optionalMember "tokenizer" (r.tokenizer.map .str),
      Fits layout r.partly m.1 (rename chosen m.1, m.2) :=
    Decode.fits_optional (rename chosen) ((hfield _).trans rfl) rfl
      (fun s _ => Decode.readsBack_text s) (fun s => by simp)
      fun s hs seen => by simp [partly, Option.mem_def.1 hs]
  have htimeRange : ∀ m ∈ Json.optionalMember "time_range" (r.timeRange.map TimeRange.json),
      Fits layout r.partly m.1 (rename chosen m.1, m.2) :=
    Decode.fits_optional (rename chosen) ((hfield _).trans rfl) rfl
      (fun t ht => TimeRange.readsBack_json (h.range t ht))
      (fun t => by simp [TimeRange.json, Json.object])
      fun t ht seen => by simp [partly, Option.mem_def.1 ht]
  simp only [members, List.forall_mem_append, List.forall_mem_cons]
  exact ⟨⟨⟨⟨⟨hkeywords, htables, hfields, htableFields, fun m hm => by cases hm⟩, htokenizer⟩,
    hanyWord, fun m hm => by cases hm⟩, htimeRange⟩, hfilters, hpage, fun m hm => by cases hm⟩

theorem nodup_keys (r : SearchRequest) : (r.members.map Prod.fst).Nodup := by
  have hsublist : (r.members.map Prod.fst).Sublist
      (["keywords", "target_tables", "target_fields", "table_fields"] ++ ["tokenizer"] ++
        ["recall_priority"] ++ ["time_range"] ++ ["filters", "pagination"]) := by
    simp only [members, List.map_append]
    exact ((((List.Sublist.refl _).append (Json.keys_optional_sublist _ _)).append
      (List.Sublist.refl _)).append (Json.keys_optional_sublist _ _)).append (List.Sublist.refl _)
  exact hsublist.nodup (by decide)

theorem partly_of_members {seen : List String} (h : ∀ m ∈ r.members, m.1 ∈ seen) :
    r.partly seen = r := by
  simp only [members, List.forall_mem_append, List.forall_mem_cons, Json.forall_mem_optional] at h
  obtain ⟨⟨⟨⟨hfixed, htokenizer⟩, hanyWord⟩, htimeRange⟩, hlast⟩ := h
  obtain ⟨keywords, tables, fields, tableFields, tokenizer, anyWord, timeRange, filters, page⟩ := r
  cases tokenizer <;> cases timeRange <;> simp_all [partly]

/-- **A request is read back**, whichever of its keys stand under their second names. -/
theorem readsBack_renamed (h : r.IsData) (chosen : String → Bool) :
    ReadsBack decode r (r.json.renamed (rename chosen)) := by
  have hread : ReadsBack (Decode.record (partly r []) layout) r
      ((Json.object r.members).renamed (rename chosen)) :=
    Decode.readsBack_record (by simp [layout, Decode.field]) (fits_members h chosen) r.nodup_keys
      fun seen hseen => partly_of_members hseen
  exact hread

theorem readsBack_json (h : r.IsData) : ReadsBack decode r r.json := by
  have hread := readsBack_renamed h fun _ => false
  have hsame : r.json.renamed (rename fun _ => false) = r.json := Json.renamed_object_id _
  rwa [hsame] at hread

/-- **A key together with its second name** is a fault, wherever they stand. -/
theorem decode_twice {key other : String} (h : (key, other) ∈ otherNames) {room : Nat}
    {ms : List (Option String × Document)} {ending : Ending} {d d' : Document}
    (hkey : (some key, d) ∈ ms) (hother : (some other, d') ∈ ms) :
    ∃ e, decode room (.object ms ending) = .error e := by
  obtain ⟨f, hfield, hfield'⟩ := exists_field_of_otherNames h
  have hne : ∀ e ∈ otherNames, e.1 ≠ e.2 := by decide
  cases hread : decode room (.object ms ending) with
  | error e => exact ⟨e, rfl⟩
  | ok r =>
      cases room with
      | zero => cases hread
      | succ room =>
          have honce := Decode.once_of_members hread hkey hother (hne _ h) hfield hfield'
          exact absurd rfl honce

end SearchRequest

end StoreGate
