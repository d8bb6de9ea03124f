import StoreGate.Cli.Call
import StoreGate.Http.Wire
import StoreGate.Hub.Command
import StoreGate.Proofs.Text.Form
import StoreGate.Proofs.Url.Plain

/-!
# What arrives at the server

A call of the terminal arrives at the server as it was meant: under the path of its resource, with
the fields of its query, and with its body. What is asked of the address of the server is that it
names a host and a port and no more.

* `Request.arriving` — a request as the server meets it.
* `Cli.IsAddressOf` — the address of the server.
* `Cli.ApiCall.exists_request` — a call is a request, and what arrives of it.
* `Command.ofRequest_arriving` — the command of a call, by its resource.
-/

namespace StoreGate

/-- A request as the server meets it. -/
def Request.arriving (q : Request) : HubRequest where
  method := q.method.text
  target := Wire.target q.url
  contentType := q.headers.get? "content-type"
  body := q.body

/-! ## Paths -/

namespace Resource

theorem segments_ne_nil (r : Resource) : r.segments ≠ [] := by
  cases r with
  | health => decide
  | _ => exact List.cons_ne_nil _ _

theorem toList_path (r : Resource) : r.path.toList = Url.slashed r.segments := by
  rw [path, String.toList_join, List.flatMap_map]
  simp [Url.slashed]

/-- A path is cut into its segments, if they hold no slash. -/
theorem ofPath?_of_segments {segments : List String} (hne : segments ≠ [])
    (h : ∀ s ∈ segments, '/' ∉ s.toList) :
    ofPath? (Url.slashed segments) = ofSegments? segments := by
  have hpath : Url.slashed segments =
      '/' :: List.intercalate ['/'] (segments.map String.toList) := by
    have hall : ∀ (s : String) (rest : List String), Url.slashed (s :: rest) =
        '/' :: List.intercalate ['/'] ((s :: rest).map String.toList) := by
      intro s rest
      induction rest generalizing s with
      | nil => simp [Url.slashed]
      | cons s' rest ih =>
          have htail := ih s'
          rw [Url.slashed, List.flatMap_cons, ← Url.slashed, htail]
          simp [List.intercalate_cons_cons]
    obtain ⟨s, rest, hsegments⟩ := List.exists_cons_of_ne_nil hne
    rw [hsegments, hall]
  have hnone : ∀ p ∈ segments.map String.toList, '/' ∉ p := by
    intro p hp
    obtain ⟨s, hs, rfl⟩ := List.mem_map.1 hp
    exact h s hs
  have htexts : (segments.map String.toList).map String.ofList = segments := by
    simp [List.map_map, Function.comp_def]
  rw [hpath]
  show ofSegments? ((Percent.splitOn '/' _).map String.ofList) = _
  rw [Percent.splitOn_intercalate hnone (by simpa using hne), htexts]

/-- **The resource under its own path** is found again, if its names hold no slash. -/
theorem ofPath?_slashed {r : Resource} (hreach : r.isReachable = true)
    (h : ∀ s ∈ r.segments, '/' ∉ s.toList) : ofPath? (Url.slashed r.segments) = some r := by
  rw [ofPath?_of_segments r.segments_ne_nil h, ofSegments?_segments hreach]

theorem takes_method (r : Resource) : r.takes r.method.text = true := by
  simp [takes]

end Resource

/-! ## Queries -/

/-- What forms are written in may stand in a query. -/
theorem Url.keptInQuery_of_isWritten {c : Char} (h : Percent.IsWritten c) :
    keptInQuery c = true := by
  rcases h with hform | rfl | rfl
  · have hascii : c.toNat < 0x80 := by
      simp only [Percent.keptInForm, Bool.or_eq_true, beq_iff_eq] at hform
      rcases hform with (((halphanum | rfl) | rfl) | rfl) | rfl
      · refine Sql.toNat_lt_of_isLetterOrDigit ?_
        rw [← Sql.isAlphanum_or_underscore, halphanum]
        rfl
      · decide
      · decide
      · decide
      · decide
    have hall : (!Percent.keptInForm c || keptInQuery c) = true :=
      forall_ascii (p := fun c => !Percent.keptInForm c || keptInQuery c) (by decide +kernel) hascii
    simpa [hform] using hall
  · decide
  · decide

theorem Url.keptInQuery_of_mem_form {fields : List (String × String)} {c : Char}
    (h : c ∈ Percent.form fields) : keptInQuery c = true := by
  rcases Percent.isWritten_of_mem_form h with h | rfl | rfl
  · exact keptInQuery_of_isWritten h
  · decide
  · decide

/-! ## Requests -/

theorem Url.toList_pathText {u : Url} (h : u.host.isSome = true) :
    u.pathText.toList = slashed u.path := by
  obtain ⟨host, hhost⟩ := Option.isSome_iff_exists.1 h
  rw [pathText, hhost]
  show (String.join (u.path.map ("/" ++ ·))).toList = _
  rw [String.toList_join, List.flatMap_map]
  simp [slashed]

theorem Url.toList_partText (query : Option String) :
    (partText "?" query).toList = marked query := by
  cases query with
  | none => rfl
  | some q => simp [partText, marked]

/-- Fields are the whole query of an address that had none. -/
theorem Url.withFields_of_noQuery {u : Url} (h : u.query = none) {fields : List (String × String)}
    (hne : fields ≠ []) :
    u.withFields fields = { u with query := some (String.ofList (Percent.form fields)) } := by
  have hform : ¬ (String.ofList (Percent.form fields)).isEmpty = true := by
    rw [String.isEmpty_iff, ← String.toList_inj, String.toList_ofList]
    exact Percent.form_ne_nil hne
  obtain ⟨scheme, username, password, host, port, path, query, fragment⟩ := u
  obtain rfl : query = none := h
  show ({ query := if _ then _ else _, .. } : Url) = _
  rw [if_neg hform]

/-- The target of a request begins with its path. -/
theorem Request.tail_eq_splitTail {q : Request} (hhost : q.url.host.isSome = true)
    (hne : q.url.path ≠ []) :
    q.arriving.tail = Url.splitTail (Url.slashed q.url.path ++ Url.marked q.url.query) := by
  have htarget : q.arriving.target.toList =
      Url.slashed q.url.path ++ Url.marked q.url.query := by
    show (Wire.target q.url).toList = _
    rw [Wire.target, String.toList_append, Url.toList_pathText hhost, Url.toList_partText]
  obtain ⟨s, rest, hsegments⟩ := List.exists_cons_of_ne_nil hne
  have hslash : ∃ cs, q.arriving.target.toList = '/' :: cs := by
    rw [htarget, hsegments]
    exact ⟨_, rfl⟩
  obtain ⟨cs, hcs⟩ := hslash
  have hscheme : ('/' :: cs).dropWhile Url.isSchemeChar = '/' :: cs := by
    rw [List.dropWhile_cons, if_neg (by decide)]
  have hsplit : q.arriving.tail = Url.splitTail q.arriving.target.toList := by
    unfold HubRequest.tail
    rw [hcs]
    simp only [hscheme]
    split
    · next heq => exact absurd (List.cons.inj heq).1 (by decide)
    · rfl
  rw [hsplit, htarget]

/-- **The target of a request** is cut into path and query where it was put together. -/
theorem Request.tail_arriving {q : Request} (hhost : q.url.host.isSome = true)
    (hne : q.url.path ≠ []) (hpath : ∀ s ∈ q.url.path, Url.Wordy s.toList)
    (hquery : ∀ text ∈ q.url.query, ∀ c ∈ text.toList, Url.keptInQuery c = true) :
    q.arriving.tail = ⟨Url.slashed q.url.path, q.url.query.map String.toList, none⟩ := by
  rw [tail_eq_splitTail hhost hne, Url.splitTail_written hpath hquery]

namespace Cli

/-- The address names the host and the port of a server, perhaps with slashes behind them. -/
structure IsAddressOf (base : String) (e : Endpoint) : Prop where
  text : trimBase base = e.baseUrl
  address : e.IsAddressable

/-- What the server meets is what the call asks for. -/
structure ApiCall.Arrives (c : ApiCall) (r : HubRequest) : Prop where
  method : r.method = c.resource.method.text
  path : r.tail.path = Url.slashed c.resource.segments
  fields : r.fields = c.fields
  contentType : r.contentType = c.payload.headers.get? "content-type"
  body : r.body = c.payload.body

namespace ApiCall

variable {c : ApiCall} {base : String} {e : Endpoint}

/-- **A call is a request**, and the request arrives as what the call asks for. -/
theorem exists_request (hbase : IsAddressOf base e)
    (hsegments : ∀ s ∈ c.resource.segments, Url.Wordy s.toList) :
    ∃ q, c.request base = .ok q ∧ c.Arrives q.arriving := by
  have htarget : (trimBase base ++ c.resource.path).toList =
      e.baseUrl.toList ++ (Url.slashed c.resource.segments ++ Url.marked none) := by
    rw [String.toList_append, hbase.text, Resource.toList_path, Url.marked, List.append_nil]
  have hnone : ∀ text ∈ (none : Option String), ∀ d ∈ text.toList, Url.keptInQuery d = true :=
    fun text h => by cases h
  obtain ⟨url, hparse⟩ := Url.exists_parse_written hbase.address c.resource.segments_ne_nil
    hsegments hnone htarget
  obtain ⟨hpath, hquery, hat⟩ := Url.parse_written hbase.address.plain c.resource.segments_ne_nil
    hsegments hnone htarget hparse
  obtain ⟨host, -, hhost⟩ := hat.host
  obtain ⟨sent, hsent⟩ : ∃ sent, sent = if c.fields.isEmpty then url else url.withFields c.fields :=
    ⟨_, rfl⟩
  have hparts : sent.host = some host ∧ sent.path = c.resource.segments ∧
      (∀ text ∈ sent.query, ∀ d ∈ text.toList, Url.keptInQuery d = true) ∧
      Percent.pairs ((sent.query.map String.toList).getD []) = c.fields := by
    by_cases hfields : c.fields = []
    · have hurl : sent = url := by
        rw [hsent, hfields]
        rfl
      rw [hurl, hquery, hfields]
      exact ⟨hhost, hpath, hnone, rfl⟩
    · have hurl : sent = { url with query := some (String.ofList (Percent.form c.fields)) } := by
        rw [hsent, if_neg (by simpa using hfields), Url.withFields_of_noQuery hquery hfields]
      rw [hurl]
      refine ⟨hhost, hpath, ?_, ?_⟩
      · rintro text htext d hd
        obtain rfl := Option.some.inj htext
        rw [String.toList_ofList] at hd
        exact Url.keptInQuery_of_mem_form hd
      · show Percent.pairs (String.ofList (Percent.form c.fields)).toList = c.fields
        rw [String.toList_ofList, Percent.pairs_form]
  obtain ⟨hhost, hpath, hkept, hpairs⟩ := hparts
  refine ⟨⟨c.resource.method, sent, c.payload.headers, c.payload.body, none⟩, ?_, ?_⟩
  · rw [request, ApiCall.url, hparse, hsent]
    rfl
  · have htail := Request.tail_arriving
      (q := ⟨c.resource.method, sent, c.payload.headers, c.payload.body, none⟩)
      (Option.isSome_iff_exists.2 ⟨host, hhost⟩)
      (by rw [hpath]; exact c.resource.segments_ne_nil)
      (by rw [hpath]; exact hsegments) hkept
    refine ⟨rfl, ?_, ?_, rfl, rfl⟩
    · rw [htail]
      exact congrArg Url.slashed hpath
    · rw [HubRequest.fields, htail]
      exact hpairs

/-- **The command of a call** is one for its resource. -/
theorem ofRequest_arriving {r : HubRequest} (h : c.Arrives r)
    (hreach : c.resource.isReachable = true)
    (hsegments : ∀ s ∈ c.resource.segments, Url.Wordy s.toList) :
    Command.ofRequest r = Command.ofResource r c.resource := by
  have hslash : ∀ s ∈ c.resource.segments, '/' ∉ s.toList := fun s hs hmem =>
    Url.ne_of_standsForItself (hsegments s hs _ hmem) (by decide) rfl
  rw [Command.ofRequest, h.path, Resource.ofPath?_slashed hreach hslash]
  dsimp only
  rw [h.method, c.resource.takes_method]
  rfl

end ApiCall

end Cli

/-- The address that is asked unless another one is given. -/
theorem Sample.isAddressOf_local :
    Cli.IsAddressOf "http://127.0.0.1:8080/" ⟨"127.0.0.1", 8080, .query⟩ where
  text := by decide +kernel
  address := {
    plain := by
      have hhost : "127.0.0.1".toList.all (fun c => !HostName.isForbidden c) = true := by decide
      intro c hc
      simpa using List.all_eq_true.1 hhost c hc
    host := exists_ok_of_isOk (by decide +kernel)
    port := by decide }

end StoreGate
