import StoreGate.Proofs.Engine.Target
import StoreGate.Proofs.Hub.Answer
import StoreGate.Proofs.Query.Schema
import StoreGate.Proofs.Search.Plan
import StoreGate.Proofs.Txn.Sweep

/-!
# Where the engine is addressed

Names come into a request from outside: percent-encoded in its path, or in the JSON of its body, so
that they may be anything. They end up in the addresses and in the statement that go to the engine.
What gets that far is a name, and so no slash, dot, mark or blank of the caller's has a say in where
a request goes.

* `word_of_checkName` — what passes a check is a name.
* `Hub.first_load`, `Hub.first_beginTxn`, `Hub.first_endTxn`, `Hub.first_describe` — the first
  request of an operation.
* `Addressed` — how the engine is to be addressed for a resource that is spelled with names.
* `first_request_addressed` — the first request to the engine is addressed so.
-/

namespace StoreGate

/-! ## Names that are checked -/

theorem word_of_checkName {what name : String} {u : Unit}
    (h : (checkName what name).mapError PlanFault.fault = .ok u) : Sql.Word name := by
  cases hname : checkName what name with
  | error e =>
      rw [hname] at h
      cases h
  | ok u => exact Sql.isName_iff.1 (checkName_eq_ok.1 hname)

theorem Hub.word_of_checkNames {database table : String} {u : Unit}
    (h : Hub.checkNames database table = .ok u) : Sql.Word database ∧ Sql.Word table := by
  obtain ⟨_, hdatabase, htable⟩ := exceptBind_eq_ok.1 h
  exact ⟨word_of_checkName hdatabase, word_of_checkName htable⟩

/-! ## How a resource is addressed -/

theorem Command.ofResource_of_ofRequest {r : HubRequest} {resource : Resource} {command : Command}
    (hroute : Resource.ofPath? r.tail.path = some resource)
    (h : Command.ofRequest r = .ok command) : Command.ofResource r resource = .ok command := by
  rw [Command.ofRequest, hroute] at h
  dsimp only at h
  split at h
  · exact h
  · cases h

/-- The resource is spelled with names of the caller's. -/
def Resource.isNamed : Resource → Bool
  | load _ _ | newTransactions | ending _ _ _ | schema _ _ => true
  | _ => false

/-- How a request to the engine is addressed that comes of a request for a resource: with the names
and the number that the resource is spelled with, all of which are names and a number indeed. -/
inductive Addressed (s : Selector) (r : HubRequest) (q : Request) : Resource → Prop
  | load {database table d t : String} (hdatabase : segmentText database = .ok d)
      (htable : segmentText table = .ok t) (hd : Sql.Word d) (ht : Sql.Word t)
      (hgoes : q.GoesTo .put ["api", d, t, "_stream_load"] none s.load) :
      Addressed s r q (.load database table)
  | newTransactions {b : BeginBody} (hbody : r.json BeginBody.decode = .ok b)
      (hdatabase : Sql.Word b.database) (htable : Sql.Word b.table)
      (hgoes : q.GoesTo .put ["api", b.database, b.table, "_stream_load_2pc"]
        (some "txn_action=begin") s.load) :
      Addressed s r q .newTransactions
  | ending {how : Client.Ending} {database txnId d : String} {n : Int}
      (hdatabase : segmentText database = .ok d) (htxnId : segmentTxnId txnId = .ok n)
      (hd : Sql.Word d)
      (hgoes : q.GoesTo .put ["api", d, "_stream_load_2pc"]
        (some ("txn_action=" ++ how.text ++ "&txn_id=" ++ Decimal.intText n)) s.load) :
      Addressed s r q (.ending how database txnId)
  | schema {database table d t : String} (hdatabase : segmentText database = .ok d)
      (htable : segmentText table = .ok t) (hd : Sql.Word d) (ht : Sql.Word t)
      (hgoes : q.GoesTo .post ["api", "v1", "query"] none s.query)
      (hbody : q.body = ("\x7b\"sql\":\"DESCRIBE " ++ d ++ "." ++ t ++ "\"\x7d").toUTF8) :
      Addressed s r q (.schema database table)

/-! ## Operations -/

variable {h : Hub} {m : Moment} {s : Session} {network : Nat → Outcome} {q : Request}

/-- **A load over HTTP** is first sent to the address of its names. -/
theorem Hub.first_load {database table : String} {parameters : LoadParameters}
    {payload : ByteArray} (hplain : h.client.selector.IsPlain)
    (hfirst : (((h.load database table parameters payload).run s).against network).2.head? =
      some q) :
    Sql.Word database ∧ Sql.Word table ∧
      q.GoesTo .put ["api", database, table, "_stream_load"] none h.client.selector.load := by
  unfold Hub.load at hfirst
  split at hfirst
  · cases hfirst
  · next options hoptions =>
    obtain ⟨_, hnames, -⟩ := exceptBind_eq_ok.1 hoptions
    obtain ⟨hdatabase, htable⟩ := Hub.word_of_checkNames hnames
    rw [Session.sent_call] at hfirst
    exact ⟨hdatabase, htable, Client.first_load hplain hdatabase htable hfirst⟩

/-- **A begin over HTTP** is first sent to the address of its names. -/
theorem Hub.first_beginTxn {b : BeginBody} (hplain : h.client.selector.IsPlain)
    (hfirst : (((h.beginTxn m b).run s).against network).2.head? = some q) :
    Sql.Word b.database ∧ Sql.Word b.table ∧
      q.GoesTo .put ["api", b.database, b.table, "_stream_load_2pc"] (some "txn_action=begin")
        h.client.selector.load := by
  unfold Hub.beginTxn at hfirst
  split at hfirst
  · cases hfirst
  · next hnames =>
    obtain ⟨hdatabase, htable⟩ := Hub.word_of_checkNames hnames
    unfold Coordinator.beginTxn at hfirst
    rw [Session.sent_call_then ?_] at hfirst
    · exact ⟨hdatabase, htable, Client.first_beginTxn hplain hdatabase htable hfirst⟩
    · rintro (f | o) s
      · exact ⟨_, rfl⟩
      · exact ⟨_, rfl⟩

/-- **An end over HTTP** is first sent to the address of its database and its number. -/
theorem Hub.first_endTxn {how : Client.Ending} {database : String} {txnId : Int}
    (hplain : h.client.selector.IsPlain)
    (hfirst : (((h.endTxn how database txnId).run s).against network).2.head? = some q) :
    Sql.Word database ∧
      q.GoesTo .put ["api", database, "_stream_load_2pc"]
        (some ("txn_action=" ++ how.text ++ "&txn_id=" ++ Decimal.intText txnId))
        h.client.selector.load := by
  unfold Hub.endTxn at hfirst
  split at hfirst
  · cases hfirst
  · next hname =>
    have hdatabase := Sql.isName_iff.1 (checkName_eq_ok.1 hname)
    unfold Coordinator.endTxn at hfirst
    rw [Session.sent_call_then ?_] at hfirst
    · exact ⟨hdatabase, Client.first_endTxn hplain hdatabase hfirst⟩
    · rintro (f | u) s
      · exact ⟨_, rfl⟩
      · exact ⟨_, rfl⟩

/-- **A description over HTTP** is asked for with a statement that is made of its names. -/
theorem Hub.first_describe {database table : String} (hplain : h.client.selector.IsPlain)
    (hfirst : (((TableSchema.describe h.query database table).run s).against
      network).2.head? = some q) :
    Sql.Word database ∧ Sql.Word table ∧
      q.GoesTo .post ["api", "v1", "query"] none h.client.selector.query ∧
      q.body = ("\x7b\"sql\":\"DESCRIBE " ++ database ++ "." ++ table ++ "\"\x7d").toUTF8 := by
  unfold TableSchema.describe at hfirst
  split at hfirst
  · cases hfirst
  · cases hfirst
  · next hchecked htable =>
    have hdatabase := TableSchema.word_of_checkIdentifier hchecked
    have htable := TableSchema.word_of_checkIdentifier htable
    unfold Hub.query at hfirst
    rw [Session.sent_call_then ?_] at hfirst
    · obtain ⟨hgoes, hbody⟩ := Client.first_executeIn hplain hfirst
      rw [render_describe hdatabase htable] at hbody
      exact ⟨hdatabase, htable, hgoes, hbody⟩
    · rintro (f | rows) s
      · exact ⟨_, rfl⟩
      · exact ⟨_, rfl⟩

/-! ## Requests to the server -/

/-- **The first request to the engine is addressed as its resource says.** Whatever stands in the
path and in the body of a request for a resource that is spelled with names, and whatever leases
there are and the network answers: the names in the address and in the statement are the ones of the
request, read as names, and nothing else of the request has a say in them. -/
theorem first_request_addressed (h : Hub) (m : Moment) (r : HubRequest) (s s' : Session)
    (network : Nat → Outcome) (reply : HubReply) (sent : List Request) (q : Request)
    (resource : Resource) (hplain : h.client.selector.IsPlain)
    (hroute : Resource.ofPath? r.tail.path = some resource) (hnamed : resource.isNamed = true)
    (hanswer : ((h.answer m r).run s).against network = ((reply, s'), sent))
    (hfirst : sent.head? = some q) : Addressed h.client.selector r q resource := by
  rcases Hub.answer_cases hanswer with ⟨rfl, -⟩ | ⟨command, outcome, hcommand, hperform, -⟩
  · cases hfirst
  · have hresource := Command.ofResource_of_ofRequest hroute hcommand
    have hsent : (((h.perform m command).run s).against network).2.head? = some q := by
      rw [hperform]
      exact hfirst
    cases resource with
    | load database table =>
        obtain ⟨d, hd, hresource⟩ := exceptBind_eq_ok.1 hresource
        obtain ⟨t, ht, hresource⟩ := exceptBind_eq_ok.1 hresource
        split at hresource
        · cases hresource
        · next parameters _ =>
          obtain ⟨payload, -, hcommand⟩ := exceptBind_eq_ok.1 hresource
          obtain rfl := Except.ok.inj hcommand
          dsimp only [Hub.perform] at hsent
          rw [Session.against_map_run
          fun r : Except Fault LoadVerdict => r.map LoadVerdict.json] at hsent
          obtain ⟨hdatabase, htable, hgoes⟩ := Hub.first_load hplain hsent
          exact .load hd ht hdatabase htable hgoes
    | newTransactions =>
        obtain ⟨b, hbody, rfl⟩ := exceptMap_eq_ok.1 hresource
        dsimp only [Hub.perform] at hsent
        rw [Session.against_map_run
          fun r : Except Fault BeginOutcome => r.map BeginOutcome.json] at hsent
        obtain ⟨hdatabase, htable, hgoes⟩ := Hub.first_beginTxn hplain hsent
        exact .newTransactions hbody hdatabase htable hgoes
    | ending how database txnId =>
        obtain ⟨d, hd, hresource⟩ := exceptBind_eq_ok.1 hresource
        obtain ⟨n, hn, hcommand⟩ := exceptBind_eq_ok.1 hresource
        obtain rfl := Except.ok.inj hcommand
        dsimp only [Hub.perform] at hsent
        rw [Session.against_map_run
          fun r : Except Fault Unit => r.map fun _ => Hub.endedJson how n] at hsent
        obtain ⟨hdatabase, hgoes⟩ := Hub.first_endTxn hplain hsent
        exact .ending hd hn hdatabase hgoes
    | schema database table =>
        obtain ⟨d, hd, hresource⟩ := exceptBind_eq_ok.1 hresource
        obtain ⟨t, ht, hcommand⟩ := exceptBind_eq_ok.1 hresource
        obtain rfl := Except.ok.inj hcommand
        dsimp only [Hub.perform] at hsent
        rw [Session.against_map_run
          fun r : Except Fault TableSchema => r.map TableSchema.json] at hsent
        obtain ⟨hdatabase, htable, hgoes, hbody⟩ := Hub.first_describe hplain hsent
        exact .schema hd ht hdatabase htable hgoes hbody
    | _ => cases hnamed

namespace Sample

/-- A load into a table of a database whose name is partly encoded. -/
def encodedLoad : HubRequest := ⟨"PUT", "/api/v1/load/lo%67s/app", none, ⟨#[91, 93]⟩⟩

theorem isPlain_hub : hub.client.selector.IsPlain := by
  intro e he
  have hhost : ∀ e ∈ hub.client.selector.query ++ hub.client.selector.load,
      e.host.toList.all (fun c => !HostName.isForbidden c) = true := by decide
  intro c hc
  simpa using List.all_eq_true.1 (hhost e he) c hc

end Sample

/-- A load with an encoded name. -/
theorem first_request_addressed_of_encodedLoad :
    ∃ reply s' q rest, ((Sample.hub.answer Sample.moment Sample.encodedLoad).run
        ⟨Sample.turn, .empty⟩).against Sample.willing = ((reply, s'), q :: rest) ∧
      q.method = .put ∧ q.url.path = ["api", "logs", "app", "_stream_load"] ∧
      q.url.query = none := by
  have hsome : (((Sample.hub.answer Sample.moment Sample.encodedLoad).run
      ⟨Sample.turn, .empty⟩).against Sample.willing).2.isEmpty = false := by decide +kernel
  rcases hanswer : ((Sample.hub.answer Sample.moment Sample.encodedLoad).run
      ⟨Sample.turn, .empty⟩).against Sample.willing with ⟨⟨reply, s'⟩, sent⟩
  rw [hanswer] at hsome
  cases sent with
  | nil => cases hsome
  | cons q rest =>
      have haddressed := first_request_addressed Sample.hub Sample.moment Sample.encodedLoad
        ⟨Sample.turn, .empty⟩ s' Sample.willing reply (q :: rest) q (.load "lo%67s" "app")
        Sample.isPlain_hub (by decide +kernel) rfl hanswer rfl
      cases haddressed with
      | load hdatabase htable _ _ hgoes =>
          have hnames : (segmentText "lo%67s").toOption = some "logs" ∧
              (segmentText "app").toOption = some "app" := by decide +kernel
          rw [hdatabase, htable] at hnames
          obtain rfl := Option.some.inj hnames.1
          obtain rfl := Option.some.inj hnames.2
          exact ⟨reply, s', q, rest, rfl, hgoes.method, hgoes.path, hgoes.query⟩

end StoreGate
