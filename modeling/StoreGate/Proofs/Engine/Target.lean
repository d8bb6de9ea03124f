import StoreGate.Engine.Query
import StoreGate.Engine.Transaction
import StoreGate.Proofs.Http.Replay
import StoreGate.Proofs.Url.Plain
import StoreGate.Query.Describe

/-!
# Where a call first goes

Loads, begins and ends go to addresses that are put together from names and numbers; statements go
to one address and carry their text in the body. If the names are names, and the frontends have
plain host names, then the first request of a call goes exactly where the names say.

* `Request.GoesTo` — method, path, query and frontend of a request.
* `Client.first_load`, `Client.first_beginTxn`, `Client.first_endTxn`, `Client.first_executeIn` —
  the first request of a call.
* `render_describe` — the body that asks for the description of a table.
-/

namespace StoreGate

/-! ## Frontends in turn -/

namespace Turn

theorem pick_mem {list : List Endpoint} (h : list ≠ []) (position : Nat) :
    pick list position ∈ list := by
  have hlt : position % list.length < list.length := Nat.mod_lt _ (List.length_pos_iff.2 h)
  rw [pick, List.getD_eq_getElem?_getD, List.getElem?_eq_getElem hlt]
  exact List.getElem_mem hlt

theorem next_mem_load (s : Selector) (t : Turn) : (next s .load t).1 ∈ s.load :=
  pick_mem s.load_ne_nil t.load

theorem next_mem_query (s : Selector) (t : Turn) : (next s .query t).1 ∈ s.query :=
  pick_mem s.query_ne_nil t.query

end Turn

/-! ## The first request of a call -/

/-- A request of this method, with exactly these segments and this query, to one of some frontends.
-/
structure Request.GoesTo (q : Request) (method : Method) (path : List String)
    (query : Option String) (frontends : List Endpoint) : Prop where
  method : q.method = method
  path : q.url.path = path
  query : q.url.query = query
  frontend : ∃ e ∈ frontends, q.url.IsAt e

/-- All frontends of the client have plain host names. -/
def Selector.IsPlain (s : Selector) : Prop := ∀ e ∈ s.query ++ s.load, e.IsPlain

/-- An address that is made of words is gone to as it was put together. -/
theorem Request.goesTo_of_written {q : Request} {method : Method} {path : List String}
    {query : Option String} {frontends : List Endpoint} {e : Endpoint} {target : String}
    (hmethod : q.method = method) (hmem : e ∈ frontends) (he : e.IsPlain) (hne : path ≠ [])
    (hpath : ∀ s ∈ path, Url.Wordy s.toList)
    (hquery : ∀ text ∈ query, ∀ c ∈ text.toList, Url.keptInQuery c = true)
    (htarget : target.toList = e.baseUrl.toList ++ (Url.slashed path ++ Url.marked query))
    (hparse : Url.parse target = .ok q.url) : q.GoesTo method path query frontends := by
  obtain ⟨hpath, hquery, hat⟩ := Url.parse_written he hne hpath hquery htarget hparse
  exact ⟨hmethod, hpath, hquery, e, hmem, hat⟩

namespace Client

variable {c : Client} {deadline : Option Span} {turn : Turn} {network : Nat → Outcome} {q : Request}

/-- A followed request is first sent where it is meant to go. -/
theorem first_putFollowing {α : Type} {errand : Redirect.Errand} {url : Url}
    {read : Except Fault (Nat × String) → α}
    (h : ((Redirect.putFollowing errand url >>= fun answer => .done (read answer)).against
      network).2.head? = some q) : q.method = .put ∧ q.url = url := by
  rw [Exchange.against_map] at h
  unfold Redirect.putFollowing Redirect.follow at h
  rw [Exchange.against_send] at h
  cases h
  exact ⟨rfl, rfl⟩

/-- A control request that is read further is first sent to its target. -/
theorem first_control {α : Type} {target purpose : String} {fields : List (String × String)}
    {read : Except Fault TxnReply → α}
    (h : ((c.control deadline target fields purpose >>= fun reply => .done (read reply)).against
      network).2.head? = some q) : q.method = .put ∧ Url.parse target = .ok q.url := by
  rw [Exchange.against_map] at h
  unfold control at h
  split at h
  · cases h
  · next url hurl =>
    split at h
    · cases h
    · obtain ⟨hmethod, rfl⟩ := first_putFollowing h
      exact ⟨hmethod, hurl⟩

theorem wordy_loadPath {database table : String} (hdatabase : Sql.Word database)
    (htable : Sql.Word table) :
    ∀ s ∈ ["api", database, table, "_stream_load"], Url.Wordy s.toList := by
  simp only [List.forall_mem_cons]
  exact ⟨by decide, Url.wordy_of_word hdatabase, Url.wordy_of_word htable, by decide, by simp⟩

theorem toList_loadTarget (e : Endpoint) (database table : String) :
    (loadTarget e database table).toList = e.baseUrl.toList ++
      (Url.slashed ["api", database, table, "_stream_load"] ++ Url.marked none) := by
  simp [loadTarget, Url.slashed, Url.marked]

/-- **A load first goes** to the address that is made of its names. -/
theorem first_load {database table : String} {payload : ByteArray} {o : LoadOptions}
    (hplain : c.selector.IsPlain) (hdatabase : Sql.Word database) (htable : Sql.Word table)
    (h : ((c.load deadline database table payload o turn).1.against network).2.head? = some q) :
    q.GoesTo .put ["api", database, table, "_stream_load"] none c.selector.load := by
  have hmem := Turn.next_mem_load c.selector turn
  unfold load at h
  split at h
  · cases h
  · cases hheaders : loadHeaders o with
    | error f =>
        rw [hheaders] at h
        cases h
    | ok headers =>
        rw [hheaders] at h
        unfold ask loadExchange at h
        dsimp only at h
        split at h
        · cases h
        · next url hurl =>
          obtain ⟨hmethod, rfl⟩ := first_putFollowing h
          exact Request.goesTo_of_written hmethod hmem
            (hplain _ (List.mem_append_right _ hmem)) (by simp) (wordy_loadPath hdatabase htable)
            (by simp) (toList_loadTarget _ database table) hurl

/-- **A begin first goes** to the address that is made of its names. -/
theorem first_beginTxn {database table label : String} {timeoutSecs : Nat}
    (hplain : c.selector.IsPlain) (hdatabase : Sql.Word database) (htable : Sql.Word table)
    (h : ((c.beginTxn deadline database table label timeoutSecs turn).1.against network).2.head? =
      some q) :
    q.GoesTo .put ["api", database, table, "_stream_load_2pc"] (some "txn_action=begin")
      c.selector.load := by
  have hmem := Turn.next_mem_load c.selector turn
  unfold beginTxn at h
  split at h
  · cases h
  · unfold ask beginExchange at h
    dsimp only [Exchange.pure_eq] at h
    obtain ⟨hmethod, hurl⟩ := first_control h
    refine Request.goesTo_of_written hmethod hmem
      (hplain _ (List.mem_append_right _ hmem)) (by simp) ?_ ?_ ?_ hurl
    · simp only [List.forall_mem_cons]
      exact ⟨by decide, Url.wordy_of_word hdatabase, Url.wordy_of_word htable, by decide, by simp⟩
    · rintro _ ⟨⟩
      exact List.all_eq_true.1 (by decide)
    · simp [beginTarget, Url.slashed, Url.marked]

/-- **An end first goes** to the address that is made of its database and its number. -/
theorem first_endTxn {ending : Ending} {database : String} {txnId : Int}
    (hplain : c.selector.IsPlain) (hdatabase : Sql.Word database)
    (h : ((c.endTxn deadline ending database txnId turn).1.against network).2.head? = some q) :
    q.GoesTo .put ["api", database, "_stream_load_2pc"]
      (some ("txn_action=" ++ ending.text ++ "&txn_id=" ++ Decimal.intText txnId))
      c.selector.load := by
  have hmem := Turn.next_mem_load c.selector turn
  unfold endTxn ask endExchange at h
  dsimp only [Exchange.pure_eq] at h
  obtain ⟨hmethod, hurl⟩ := first_control h
  refine Request.goesTo_of_written hmethod hmem
    (hplain _ (List.mem_append_right _ hmem)) (by simp) ?_ ?_ ?_ hurl
  · simp only [List.forall_mem_cons]
    exact ⟨by decide, Url.wordy_of_word hdatabase, by decide, by simp⟩
  · rintro _ ⟨⟩
    have htext : ending.text.toList.all Url.keptInQuery = true := by cases ending <;> decide
    simp only [String.toList_append, List.forall_mem_append]
    exact ⟨⟨⟨List.all_eq_true.1 (by decide), List.all_eq_true.1 htext⟩,
      List.all_eq_true.1 (by decide)⟩,
      fun c hc => Url.keptInQuery_of_standsForItself (Url.wordy_intText txnId c hc)⟩
  · simp [endTarget, Url.slashed, Url.marked]

/-- **A statement first goes** to the one address of statements. -/
theorem first_executeIn {database : Option String} {sql : String} (hplain : c.selector.IsPlain)
    (h : ((c.executeIn deadline database sql turn).1.against network).2.head? = some q) :
    q.GoesTo .post ["api", "v1", "query"] none c.selector.query ∧
      q.body = (Json.render (Json.object [("sql", .str sql)])).toUTF8 := by
  have hmem := Turn.next_mem_query c.selector turn
  unfold executeIn at h
  split at h
  · cases h
  · unfold ask queryExchange at h
    dsimp only at h
    split at h
    · cases h
    · next request hrequest =>
      rw [Exchange.against_send] at h
      cases h
      unfold queryRequest at hrequest
      split at hrequest
      · cases hrequest
      · next url hurl =>
        dsimp only at hrequest
        split at hrequest
        · cases hrequest
          dsimp only
          refine ⟨?goes, rfl⟩
          refine Request.goesTo_of_written rfl hmem (hplain _ (List.mem_append_left _ hmem))
            (by simp) ?_ (by simp) ?_ hurl
          · decide
          · simp [Url.slashed, Url.marked]
        · cases hrequest

end Client

/-! ## The text of a statement -/

theorem Json.flatMap_escapeChar {cs : List Char} (h : ∀ c ∈ cs, escapeChar c = [c]) :
    cs.flatMap escapeChar = cs := by
  induction cs with
  | nil => rfl
  | cons c cs ih =>
      obtain ⟨hc, hcs⟩ := List.forall_mem_cons.1 h
      rw [List.flatMap_cons, hc, ih hcs]
      rfl

theorem Json.escapeChar_of_word {s : String} (h : Sql.Word s) :
    ∀ c ∈ s.toList, escapeChar c = [c] := by
  intro c hc
  have hletter := h.forall_mem c hc
  have hall : (!Sql.isLetterOrDigit c || escapeChar c == [c]) = true :=
    forall_ascii (p := fun c => !Sql.isLetterOrDigit c || escapeChar c == [c]) (by decide +kernel)
      (Sql.toNat_lt_of_isLetterOrDigit hletter)
  simpa [hletter] using hall

/-- **A description of a table as it is sent**: nothing of the names is written otherwise. -/
theorem render_describe {database table : String} (hdatabase : Sql.Word database)
    (htable : Sql.Word table) :
    Json.render (Json.object [("sql", .str (TableSchema.describeSql database table))]) =
      "\x7b\"sql\":\"DESCRIBE " ++ database ++ "." ++ table ++ "\"\x7d" := by
  have hescape : (TableSchema.describeSql database table).toList.flatMap Json.escapeChar =
      (TableSchema.describeSql database table).toList := by
    refine Json.flatMap_escapeChar ?_
    simp only [TableSchema.describeSql, String.toList_append, List.forall_mem_append]
    exact ⟨⟨⟨by simp [Json.escapeChar], Json.escapeChar_of_word hdatabase⟩,
      by simp [Json.escapeChar]⟩, Json.escapeChar_of_word htable⟩
  have hrender : Json.render
      (Json.object [("sql", .str (TableSchema.describeSql database table))]) =
      String.ofList ("\x7b\"sql\":\"".toList ++
        ((TableSchema.describeSql database table).toList.flatMap Json.escapeChar ++
          "\"\x7d".toList)) := by
    simp [Json.render, Json.object, SortedMap.sortEntries, SortedMap.insertEntry, Json.write,
      Json.writeMembers, Json.writeText, Json.escapeChar]
  rw [hrender, hescape]
  apply String.toList_inj.1
  simp [TableSchema.describeSql]

end StoreGate
