import StoreGate.Proofs.Cli.Words
import StoreGate.Proofs.Hub.Arrival
import StoreGate.Proofs.Search.Wire

/-!
# Searches from the terminal to the server

A search that is asked for at the terminal is the search that the server carries out: its tables and
fields in the order in which they were given, all words or any of them, and the page in normal form.

* `Cli.SearchOption` — the options of a search, and `Cli.SearchOption.request` what they ask for.
* `SearchRequest.IsPlain`, `Cli.isPlain_of_read` — what any command line can ask for.
* `search_request_read_back` — requests as JSON, and the way from the terminal to the server.
-/

namespace StoreGate

/-! ## Bodies -/

/-- A value that is read back is read from a body. -/
theorem HubRequest.decodeBody_render {α : Type} {read : Decoder α} {a : α} {v : Json} {n : Nat}
    (h : v.Readable n) (hn : n ≤ nestingLimit) (hread : Decode.ReadsBack read a v) :
    decodeBody read (Json.render v).toUTF8 = .ok a := by
  rw [decodeBody, Utf8.fromUTF8?_toUTF8]
  dsimp only
  rw [Document.parseStart_render h.canonical h.doublesKept,
    hread nestingLimit (Nat.le_trans h.depth_le hn)]
  rfl

/-- JSON that arrives is read from the body, if that is not too large. -/
theorem Cli.ApiCall.Arrives.json_eq {c : Cli.ApiCall} {r : HubRequest} (h : c.Arrives r) {v : Json}
    (hpayload : c.payload = .json v) {α : Type} (read : Decoder α) :
    r.json read = if HubRequest.bodyLimit < r.body.size then .error .tooLarge
      else HubRequest.decodeBody read r.body := by
  have hcontent : r.contentType = some "application/json" := by
    rw [h.contentType, hpayload]
    rfl
  have hjson : MediaType.isJson "application/json" = true := by decide +kernel
  have hkind : (!(r.contentType.map MediaType.isJson).getD false) = false := by
    rw [hcontent, Option.map_some, hjson]
    rfl
  rw [HubRequest.json, hkind, HubRequest.payload]
  by_cases hlarge : HubRequest.bodyLimit < r.body.size
  · rw [if_pos hlarge, if_pos hlarge]
    rfl
  · rw [if_neg hlarge, if_neg hlarge]
    rfl

/-! ## Requests without conditions -/

/-- The request has no conditions and no fields of its own for a table. -/
structure SearchRequest.IsPlain (r : SearchRequest) : Prop where
  tableFields : r.tableFields = .empty
  tokenizer : r.tokenizer = none
  timeRange : r.timeRange = none
  filters : r.filters = .empty

namespace SearchRequest.IsPlain

variable {r : SearchRequest}

theorem isData (h : r.IsPlain) : r.IsData := by
  refine ⟨fun e he => ?_, fun t ht => ?_⟩
  · rw [h.filters] at he
    cases he
  · rw [h.timeRange] at ht
    cases ht

theorem readable_json (h : r.IsPlain) : r.json.Readable 2 := by
  have hempty : ∀ n, (Json.obj []).Readable (n + 1) := fun n =>
    ⟨⟨List.Pairwise.nil, trivial⟩, trivial, Nat.succ_le_succ n.zero_le⟩
  have hnat : ∀ n : UInt32, (Json.nat n.toNat).Readable 0 := by
    intro n
    have hlt := n.toNat_lt
    refine Json.readable_int ?_ ?_ 0
    · unfold Json.minInt64
      omega
    · unfold Json.maxNat64
      omega
  have hpage : r.page.json.Readable 1 := by
    refine Json.readable_object ?_
    simp [hnat]
  have hmembers : Json.ReadableMembers 1 r.members := by
    simp only [members, h.tableFields, h.tokenizer, h.timeRange, h.filters,
      Json.readableMembers_append, Json.readableMembers_cons, Json.readableMembers_nil,
      Json.readableMembers_optional, and_true]
    exact ⟨⟨⟨⟨⟨Json.readable_str _ 1, Json.readable_strings _, Json.readable_strings _, hempty 0⟩,
      fun v hv => by cases hv⟩, Json.readable_bool _ 1⟩, fun v hv => by cases hv⟩, hempty 0, hpage⟩
  exact Json.readable_object hmembers

end SearchRequest.IsPlain

namespace Cli

/-! ## Options -/

/-- The options of a search, by what they say. -/
inductive SearchOption where
  | table (name : String)
  | field (name : String)
  /-- All of the words have to be there. -/
  | precision
  | page (n : UInt32)
  | pageSize (n : UInt32)
deriving DecidableEq, Repr

/-- A number that is written is read. -/
theorem word32Value_natText {ρ : Type} (n : UInt32) (set : UInt32 → ρ → ρ) :
    word32Value set (Decimal.natText n.toNat) = some (set n) := by
  have hlt := n.toNat_lt
  have hhi : (n.toNat : Int) ≤ UInt32.size - 1 := by
    show (n.toNat : Int) ≤ 4294967296 - 1
    omega
  have hread := Decimal.readIntIn?_intDigits (Int.natCast_nonneg n.toNat) hhi
  have htext : (Decimal.natText n.toNat).toList = Decimal.intDigits n.toNat := by
    rw [Decimal.natText, String.toList_ofList]
    rfl
  rw [word32Value, htext, hread]
  exact congrArg (fun m => some (set m)) UInt32.ofNat_toNat

namespace SearchOption

/-- An option as it is given. -/
def given : SearchOption → Given SearchRequest
  | table name => ⟨"table", some name, true, fun r => { r with tables := r.tables ++ [name] }⟩
  | field name => ⟨"field", some name, true, fun r => { r with fields := r.fields ++ [name] }⟩
  | precision => ⟨"precision", none, false, fun r => { r with anyWord := false }⟩
  | page n => ⟨"page", some (Decimal.natText n.toNat), false,
      fun r => { r with page := { r.page with page := n } }⟩
  | pageSize n => ⟨"page-size", some (Decimal.natText n.toNat), false,
      fun r => { r with page := { r.page with size := n } }⟩

def table? : SearchOption → Option String
  | table name => some name
  | _ => none

def field? : SearchOption → Option String
  | field name => some name
  | _ => none

def page? : SearchOption → Option UInt32
  | page n => some n
  | _ => none

def pageSize? : SearchOption → Option UInt32
  | pageSize n => some n
  | _ => none

/-- What is asked for by options and words to look for. -/
def request (os : List SearchOption) (keywords : String) : SearchRequest :=
  { SearchRequest.new keywords (os.filterMap table?) (os.filterMap field?) with
    anyWord := decide (precision ∉ os)
    page := PageRequest.new (((os.filterMap page?).getLast?).getD 1)
      (((os.filterMap pageSize?).getLast?).getD PageRequest.defaultSize) }

/-- A command line with these options and these words to look for. -/
def words (os : List SearchOption) (keywords : String) : List String :=
  "search" :: (os.map (fun o => o.given.word) ++ ["--", keywords])

/-- The options make a search: there is a table and a field, and what may be given once is given
once. -/
structure MakeSearch (os : List SearchOption) : Prop where
  table : ∃ name, table name ∈ os
  field : ∃ name, field name ∈ os
  once : os.Pairwise fun o o' => o'.given.repeatable = true ∨ o'.given.name ≠ o.given.name

theorem given_for (o : SearchOption) : o.given.For searchForm := by
  cases o with
  | table name => exact .setting _ name rfl rfl rfl rfl rfl
  | field name => exact .setting _ name rfl rfl rfl rfl rfl
  | precision => exact .flag _ rfl rfl rfl rfl rfl (by decide) (by decide)
  | page n =>
      exact .setting _ _ rfl rfl rfl rfl (word32Value_natText n fun v (r : SearchRequest) =>
        { r with page := { r.page with page := v } })
  | pageSize n =>
      exact .setting _ _ rfl rfl rfl rfl (word32Value_natText n fun v (r : SearchRequest) =>
        { r with page := { r.page with size := v } })

theorem isNamed_searchForm : searchForm.IsNamed := by
  show ∀ name ∈ ["table", "field", "page", "page-size", "precision"],
    name ≠ "" ∧ '=' ∉ name.toList
  decide

/-! ## What is asked for -/

section Asked

variable {os : List SearchOption}

/-- All words have to be there exactly if that is said. -/
theorem anyWord_eq (os : List SearchOption) :
    ((os.filterMap fun o => if o = precision then some false else none).getLast?).getD true =
      decide (precision ∉ os) := by
  rw [getLast?_filterMap_ite]
  by_cases h : precision ∈ os
  · simp [h]
  · simp [h]

/-- **What options make of a request** is what they ask for. -/
theorem searchAction_foldl (os : List SearchOption) (keywords : String) :
    searchAction { os.foldl (fun r o => o.given.set r) default with keywords := keywords } =
      .search (request os keywords) := by
  have htables := get_foldl_add (fun o => (given o).set) SearchRequest.tables table?
    (fun o v => by cases o <;> simp [given, table?]) os default
  have hfields := get_foldl_add (fun o => (given o).set) SearchRequest.fields field?
    (fun o v => by cases o <;> simp [given, field?]) os default
  have hanyWord := get_foldl_set (fun o => (given o).set) SearchRequest.anyWord
    (fun o => if o = precision then some false else none)
    (fun o v => by cases o <;> simp [given]) os default
  have hpage := get_foldl_set (fun o => (given o).set) (fun r => r.page.page) page?
    (fun o v => by cases o <;> rfl) os default
  have hsize := get_foldl_set (fun o => (given o).set) (fun r => r.page.size) pageSize?
    (fun o v => by cases o <;> rfl) os default
  have hrest := get_foldl_same (fun o => (given o).set)
    (fun r : SearchRequest => (r.tableFields, r.tokenizer, r.timeRange, r.filters))
    (fun o v => by cases o <;> rfl) os default
  rw [show (default : SearchRequest).anyWord = true from rfl, anyWord_eq] at hanyWord
  generalize os.foldl (fun r o => o.given.set r) default = r at *
  obtain ⟨_, tables, fields, tableFields, tokenizer, anyWord, timeRange, filters, page, size⟩ := r
  simp only [Prod.mk.injEq] at *
  obtain ⟨rfl, rfl, rfl, rfl⟩ := hrest
  subst htables hfields hanyWord hpage hsize
  rfl

end Asked

/-- **A command line is read** as what its options ask for, in whatever order they are given. -/
theorem read_words {os : List SearchOption} (h : MakeSearch os) (keywords : String) :
    Invocation.read (words os keywords) = .ok ⟨.search (request os keywords), false⟩ := by
  have hgivens : ∀ g ∈ os.map given, g.For searchForm := by
    intro g hg
    obtain ⟨o, -, rfl⟩ := List.mem_map.1 hg
    exact o.given_for
  have hrequired : ∀ s ∈ searchForm.settings, s.required = true →
      s.name ∈ (os.map given).map Given.name := by
    obtain ⟨⟨t, ht⟩, f, hf⟩ := And.intro h.table h.field
    have hmem : ∀ o ∈ os, o.given.name ∈ (os.map given).map Given.name := fun o ho =>
      List.mem_map_of_mem (List.mem_map_of_mem ho)
    intro s hs hneeded
    simp only [searchForm, setting, List.mem_cons, List.not_mem_nil, or_false] at hs
    rcases hs with rfl | rfl | rfl | rfl
    · exact hmem _ ht
    · exact hmem _ hf
    all_goals cases hneeded
  have hplaces : ∀ seen, [keywords].foldlM Progress.fill
      ⟨(os.map given).foldl (fun r g => g.set r) default, false, seen, searchForm.places⟩ =
        .ok ⟨{ (os.map given).foldl (fun r g => g.set r) default with keywords := keywords },
          false, seen, []⟩ := fun _ => rfl
  have hread := Form.read_givens isNamed_searchForm hgivens (List.pairwise_map.2 h.once) hrequired
    hplaces
  rw [List.map_map, List.foldl_map] at hread
  rw [← searchAction_foldl]
  show Invocation.orJson false <$> readBy searchForm default searchAction _ = _
  exact congrArg _ (congrArg _ hread)

end SearchOption

/-! ## Any command line -/

theorem keeps_isPlain : searchForm.Keeps SearchRequest.IsPlain := by
  refine ⟨?flags, ?settings, ?places⟩
  case flags =>
    intro f hf v hv
    obtain rfl := List.mem_singleton.1 hf
    exact ⟨hv.tableFields, hv.tokenizer, hv.timeRange, hv.filters⟩
  case settings =>
    intro s hs
    simp only [searchForm, setting, List.mem_cons, List.not_mem_nil, or_false] at hs
    rcases hs with rfl | rfl | rfl | rfl
    · exact keeps_textValue fun s v hv => ⟨hv.tableFields, hv.tokenizer, hv.timeRange, hv.filters⟩
    · exact keeps_textValue fun s v hv => ⟨hv.tableFields, hv.tokenizer, hv.timeRange, hv.filters⟩
    · intro text change hread v hv
      obtain ⟨n, -, rfl⟩ := Option.map_eq_some_iff.1 hread
      exact ⟨hv.tableFields, hv.tokenizer, hv.timeRange, hv.filters⟩
    · intro text change hread v hv
      obtain ⟨n, -, rfl⟩ := Option.map_eq_some_iff.1 hread
      exact ⟨hv.tableFields, hv.tokenizer, hv.timeRange, hv.filters⟩
  case places =>
    intro s hs
    obtain rfl := List.mem_singleton.1 hs
    exact keeps_textValue fun s v hv => ⟨hv.tableFields, hv.tokenizer, hv.timeRange, hv.filters⟩

/-- **Every search at the terminal** is one without conditions, for a page in normal form. -/
theorem isPlain_of_read {words : List String} {i : Invocation} {r : SearchRequest}
    (h : Invocation.read words = .ok i) (hi : i.action = .search r) :
    r.IsPlain ∧ ∃ p : PageRequest, r.page = p.normalized := by
  have hmade := made_of_read h
  rw [hi] at hmade
  cases hmade with
  | search hread =>
      have hplain := Form.keeps_of_read keeps_isPlain ⟨rfl, rfl, rfl, rfl⟩ hread
      exact ⟨⟨hplain.tableFields, hplain.tokenizer, hplain.timeRange, hplain.filters⟩, _, rfl⟩

/-! ## From the terminal to the server -/

/-- **A search arrives as it was asked for.** -/
theorem exists_search_request {base : String} {e : Endpoint} (hbase : IsAddressOf base e)
    {r : SearchRequest} (h : r.IsPlain) (files : Files) :
    ∃ call q, Action.call files (.search r) = .ok call ∧ call.request base = .ok q ∧
      HubRequest.decodeBody SearchRequest.decode q.body = .ok r ∧
      Command.ofRequest q.arriving =
        if HubRequest.bodyLimit < q.body.size then .error .tooLarge else .ok (.search r) := by
  have hsegments : ∀ s ∈ Resource.searches.segments, Url.Wordy s.toList := by decide +kernel
  obtain ⟨q, hq, harrives⟩ :=
    ApiCall.exists_request (c := ⟨.searches, [], .json r.json⟩) hbase hsegments
  have hread := r.readsBack_json h.isData
  have hbody : HubRequest.decodeBody SearchRequest.decode q.arriving.body = .ok r := by
    rw [harrives.body]
    exact HubRequest.decodeBody_render h.readable_json (by decide) hread
  refine ⟨_, q, rfl, hq, hbody, ?_⟩
  rw [ApiCall.ofRequest_arriving harrives rfl hsegments]
  show (q.arriving.json SearchRequest.decode).map Command.search = _
  rw [harrives.json_eq rfl, hbody]
  show Except.map Command.search (if HubRequest.bodyLimit < q.body.size then _ else _) = _
  split <;> rfl

end Cli

/-- **Search requests survive the way to the server.** Every request is read back from its JSON,
whichever of its keys stand under their second names, and a key together with its second name is a
fault. Options and words to look for come to the request that they ask for, in whatever order they
are given, and the request of any command line is in the body that the server meets, with its page
in normal form, and is what the server carries out, unless the body is too large. -/
theorem search_request_read_back {r : SearchRequest} (h : r.IsData) {os : List Cli.SearchOption}
    (hos : Cli.SearchOption.MakeSearch os) {base : String} {e : Endpoint}
    (hbase : Cli.IsAddressOf base e) :
    Decode.ReadsBack SearchRequest.decode r r.json ∧
    (∀ chosen, Decode.ReadsBack SearchRequest.decode r
      (r.json.renamed (SearchRequest.rename chosen))) ∧
    (∀ names ∈ SearchRequest.otherNames, ∀ room ms ending d d', (some names.1, d) ∈ ms →
      (some names.2, d') ∈ ms → ∃ e, SearchRequest.decode room (.object ms ending) = .error e) ∧
    (∀ keywords, Cli.Invocation.read (Cli.SearchOption.words os keywords) =
      .ok ⟨.search (Cli.SearchOption.request os keywords), false⟩) ∧
    ∀ words i asked files, Cli.Invocation.read words = .ok i → i.action = .search asked →
      (∃ p : PageRequest, asked.page = p.normalized) ∧
      ∃ call q, i.action.call files = .ok call ∧ call.request base = .ok q ∧
        HubRequest.decodeBody SearchRequest.decode q.body = .ok asked ∧
        Command.ofRequest q.arriving =
          if HubRequest.bodyLimit < q.body.size then .error .tooLarge else .ok (.search asked) := by
  refine ⟨r.readsBack_json h, SearchRequest.readsBack_renamed h,
    fun names hnames room ms ending d d' => SearchRequest.decode_twice hnames,
    Cli.SearchOption.read_words hos, fun words i asked files hread hasked => ?arrives⟩
  case arrives =>
    obtain ⟨hplain, hpage⟩ := Cli.isPlain_of_read hread hasked
    rw [hasked]
    exact ⟨hpage, Cli.exists_search_request hbase hplain files⟩

namespace Sample

/-- A search with everything that can be asked for. -/
def fullSearch : SearchRequest where
  keywords := "disk \"full\""
  tables := ["logs", "metrics"]
  fields := ["message"]
  tableFields := SortedMap.ofList [("metrics", ["name", "host"])]
  tokenizer := some "english"
  anyWord := false
  timeRange := some ⟨some "at", Instant.parse? "2024-02-29T23:59:60.000000001+05:30", none⟩
  filters := SortedMap.ofList [("host", .arr [.null, .str "db1"])]
  page := ⟨0, 3⟩

/-- Options of a search, the page before the tables. -/
def searchOptions : List Cli.SearchOption :=
  [.page 0, .field "message", .table "metrics", .precision, .table "logs", .field "level"]

theorem isData_fullSearch : fullSearch.IsData := by
  refine ⟨fun e he => ?_, fun t ht => ?_⟩
  · obtain rfl : e = ("host", .arr [.null, .str "db1"]) := List.mem_singleton.1 he
    exact ⟨trivial, trivial, trivial⟩
  · obtain rfl := Option.some.inj ht
    exact ⟨fun i hi => ⟨_, hi⟩, fun i hi => by cases hi⟩

theorem makeSearch_searchOptions : Cli.SearchOption.MakeSearch searchOptions where
  table := ⟨"logs", by decide⟩
  field := ⟨"message", by decide⟩
  once := by decide

end Sample

/-- A search with everything is read back with all its keys under second names, and a search of the
terminal for a page in normal form arrives. -/
theorem search_request_read_back_of_fullSearch :
    SearchRequest.decode 4 Sample.fullSearch.json.document = .ok Sample.fullSearch ∧
    SearchRequest.decode 4
        (Sample.fullSearch.json.renamed (SearchRequest.rename fun _ => true)).document =
      .ok Sample.fullSearch ∧
    ∃ asked : SearchRequest,
      Cli.Invocation.read ["search", "--page=0", "--field=message", "--table=metrics",
        "--precision", "--table=logs", "--field=level", "--", "--disk full"] =
        .ok ⟨.search asked, false⟩ ∧
      asked.tables = ["metrics", "logs"] ∧ asked.fields = ["message", "level"] ∧
      asked.anyWord = false ∧ asked.page = ⟨1, 10⟩ ∧
      ∃ call q, Cli.Action.call (fun _ => .error "no files") (.search asked) = .ok call ∧
        call.request "http://127.0.0.1:8080/" = .ok q ∧
        HubRequest.decodeBody SearchRequest.decode q.body = .ok asked := by
  obtain ⟨hread, hrenamed, -, hwords, harrives⟩ := search_request_read_back
    Sample.isData_fullSearch Sample.makeSearch_searchOptions Sample.isAddressOf_local
  refine ⟨hread 4 (by decide +kernel), hrenamed _ 4 (by decide +kernel), _, hwords "--disk full",
    rfl, rfl, rfl, rfl, ?_⟩
  obtain ⟨-, call, q, hcall, hq, hbody, -⟩ :=
    harrives _ _ _ (fun _ => .error "no files") (hwords "--disk full") rfl
  exact ⟨call, q, hcall, hq, hbody⟩

end StoreGate
