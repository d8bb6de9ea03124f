import StoreGate.Proofs.Engine.Blame
import StoreGate.Proofs.Hub.Addressing
import StoreGate.Proofs.Load.Parameters

/-!
# Loads over HTTP

A load over HTTP is refused for its format or for a value that may not be sent, and nothing is sent
then. Otherwise its payload goes to the engine, with the fields that its parameters ask for and no
others.

* `Client.load_of_unsendable` — a load with a field that may not be sent.
* `Hub.load_refused`, `Hub.load_accepted` — a load by its parameters.
* `Hub.AnswersLoad`, `Hub.answer_load` — the answer to a load, and what is sent to the engine.
-/

namespace StoreGate

/-- All frontends of the client have an address. -/
def Selector.IsAddressable (s : Selector) : Prop := ∀ e ∈ s.query ++ s.load, e.IsAddressable

/-! ## Loads of a client -/

namespace Client

/-- A field that may not be sent is the caller's mistake. -/
theorem blamesCaller_of_setLoadHeader {headers : Headers} {field : String × String} {f : Fault}
    (h : setLoadHeader headers field = .error f) : f.BlamesCaller := by
  unfold setLoadHeader at h
  split at h
  · cases h
    rfl
  · split at h
    · cases h
    · cases h
      rfl

theorem blamesCaller_of_loadHeaders {o : LoadOptions} {f : Fault} (h : loadHeaders o = .error f) :
    f.BlamesCaller := by
  obtain ⟨headers, field, -, herror⟩ := exists_error_of_foldlM h
  exact blamesCaller_of_setLoadHeader herror

/-- There is an address of a load of words. -/
theorem exists_parse_loadTarget {e : Endpoint} {database table : String} (he : e.IsAddressable)
    (hdatabase : Sql.Word database) (htable : Sql.Word table) :
    ∃ url, Url.parse (loadTarget e database table) = .ok url :=
  Url.exists_parse_written he (by simp) (wordy_loadPath hdatabase htable) (by simp)
    (toList_loadTarget e database table)

variable (c : Client) (deadline : Option Span) (turn : Turn) {database table : String}
  (payload : ByteArray) {o : LoadOptions} (network : Nat → Outcome)

/-- **A load with a field that may not be sent** is refused. -/
theorem load_of_unsendable (database table : String) (htimeout : o.timeoutSecs ≤ maxTimeoutSecs)
    (h : ∃ e ∈ o.wireHeaders, ¬ IsSendable e) :
    ∃ f, f.BlamesCaller ∧ c.load deadline database table payload o = Call.refuse f := by
  cases hheaders : loadHeaders o with
  | error f =>
      refine ⟨f, blamesCaller_of_loadHeaders hheaders, ?_⟩
      unfold load
      rw [if_neg (Nat.not_lt.2 htimeout), hheaders]
  | ok headers =>
      obtain ⟨e, he, hnot⟩ := h
      exact absurd ((loadHeaders_eq_ok.1 hheaders).1 e he) hnot

/-- **Every other load** of words is sent, if all frontends have an address. -/
theorem sent_load_of_words (haddress : c.selector.IsAddressable) (hdatabase : Sql.Word database)
    (htable : Sql.Word table) (htimeout : o.timeoutSecs ≤ maxTimeoutSecs)
    (hsendable : ∀ e ∈ o.wireHeaders, IsSendable e) :
    ((c.load deadline database table payload o turn).1.against network).2 ≠ [] := by
  have hmem := Turn.next_mem_load c.selector turn
  obtain ⟨url, hurl⟩ := exists_parse_loadTarget (haddress _ (List.mem_append_right _ hmem))
    hdatabase htable
  exact sent_load_ne_nil_iff.2 ⟨url, htimeout, hsendable, hurl⟩

end Client

theorem LoadParameters.timeoutSecs_plainOptions_le (p : LoadParameters) {f : LoadFormat} :
    (p.plainOptions f).timeoutSecs ≤ Client.maxTimeoutSecs := by
  show defaultLoadTimeout ≤ Client.maxTimeoutSecs
  decide

/-! ## Loads of the server -/

namespace Hub

variable {h : Hub} {m : Moment} {r : HubRequest} {s s' : Session} {network : Nat → Outcome}
  {reply : HubReply} {sent : List Request} {database table : String} {p : LoadParameters}
  {payload : ByteArray} {f : LoadFormat}

theorem loadOptions_of_words (hdatabase : Sql.Word database) (htable : Sql.Word table)
    (hpayload : payload.isEmpty = false) :
    loadOptions database table p payload = p.options := by
  have hd : checkName "database" database = .ok () :=
    checkName_eq_ok.2 (Sql.isName_iff.2 hdatabase)
  have ht : checkName "table" table = .ok () := checkName_eq_ok.2 (Sql.isName_iff.2 htable)
  rw [loadOptions, checkNames, hd, ht, hpayload]
  rfl

/-- **A load is refused** if its format is unknown or if it would carry a value that may not be
sent. Nothing is sent then, and the server is as it was. -/
theorem load_refused (hplain : p.IsPlain) (hdatabase : Sql.Word database)
    (htable : Sql.Word table) (hpayload : payload.isEmpty = false)
    (hunfit : p.IsUnfit) (s : Session) :
    ∃ fault : Fault, fault.BlamesCaller ∧
      (h.load database table p payload).run s = .done (.error fault, s) := by
  have hoptions := loadOptions_of_words (p := p) hdatabase htable hpayload
  rcases hunfit with hformat | ⟨f, hformat, e, he, hvalue⟩
  · refine ⟨LoadFormat.unsupported p.formatName, rfl, ?_⟩
    rw [load, hoptions, LoadParameters.options_of_noFormat hformat]
    rfl
  · have hunsendable : ∃ e ∈ (p.plainOptions f).wireHeaders, ¬ Client.IsSendable e := by
      by_contra hall
      push Not at hall
      have hvalid := LoadParameters.isSendable_plainOptions.1 hall e he
      rw [hvalue] at hvalid
      cases hvalid
    obtain ⟨fault, hblames, hload⟩ := h.client.load_of_unsendable none payload database table
      p.timeoutSecs_plainOptions_le hunsendable
    refine ⟨fault, hblames, ?_⟩
    rw [load, hoptions, LoadParameters.options_of_format hplain hformat]
    dsimp only
    rw [hload]
    rfl

/-- What a request to the engine has to be for a load: it carries the payload, and beside what every
request of a client carries it has the given fields and no others. -/
structure Carries (q : Request) (payload : ByteArray) (fields : List (String × String)) : Prop where
  body : q.body = payload
  fields : ∀ name, Text.lowerAscii name = name →
    name ∉ ["authorization", "content-type", "expect"] →
    q.headers.under name = SortedMap.valuesOf fields name

/-- **Every other load carries** its payload and what its parameters ask for, in each request that
is sent for it, and the first one goes to the address of its names. -/
theorem load_accepted (hplain : p.IsPlain) (hdatabase : Sql.Word database)
    (htable : Sql.Word table) (hpayload : payload.isEmpty = false) (hfit : p.IsFit f)
    (hsent : (((h.load database table p payload).run s).against network).2 = sent) :
    (h.client.selector.IsAddressable → ∃ first rest, sent = first :: rest ∧
      first.GoesTo .put ["api", database, table, "_stream_load"] none h.client.selector.load) ∧
    ∀ q ∈ sent, Carries q payload (p.carried f) := by
  have hsame : ((h.client.load none database table payload (p.plainOptions f)
      s.turn).1.against network).2 = sent := by
    rw [← hsent, load, loadOptions_of_words hdatabase htable hpayload,
      LoadParameters.options_of_format hplain hfit.format]
    dsimp only
    rw [Session.sent_call]
  constructor
  · intro haddress
    have hne := h.client.sent_load_of_words none s.turn payload network haddress hdatabase htable
      p.timeoutSecs_plainOptions_le (LoadParameters.isSendable_plainOptions.2 hfit.values)
    rw [hsame] at hne
    obtain ⟨first, rest, hfirst⟩ := List.exists_cons_of_ne_nil hne
    have hselector : h.client.selector.IsPlain := fun e he => (haddress e he).plain
    refine ⟨first, rest, hfirst, ?_⟩
    have hhead : (((h.load database table p payload).run s).against network).2.head? =
        some first := by
      rw [hsent, hfirst]
      rfl
    exact (Hub.first_load hselector hhead).2.2
  · intro q hq
    rw [← hsame] at hq
    refine ⟨?_, fun name hlower hname => ?_⟩
    · obtain ⟨-, url, rfl⟩ := Client.request_of_mem_sent hq
      rfl
    · rw [Client.under_of_mem_sent hq hlower hname, LoadParameters.lastOf_plainOptions]

/-- What a load over HTTP comes to. If its format is unknown or a value may not be sent, the answer
is 400, the engine is not asked, and the server is as it was. Otherwise every request to the engine
carries the payload and exactly what the parameters ask for, and the first one goes to the address
of the table, if the frontends have addresses at all. -/
structure AnswersLoad (h : Hub) (database table : String) (p : LoadParameters)
    (payload : ByteArray) (s s' : Session) (reply : HubReply) (sent : List Request) : Prop where
  refused : p.IsUnfit → reply.status = 400 ∧ sent = [] ∧ s' = s
  accepted : ¬ p.IsUnfit → ∃ f, LoadFormat.read? p.formatName = some f ∧
    (h.client.selector.IsAddressable → ∃ first rest, sent = first :: rest ∧
      first.GoesTo .put ["api", database, table, "_stream_load"] none h.client.selector.load) ∧
    ∀ q ∈ sent, Carries q payload (p.carried f)

/-- **The answer to a load** is what its parameters make of it. -/
theorem answer_load (hcommand : Command.ofRequest r = .ok (.load database table p payload))
    (hmethod : r.method = Method.put.text) (hplain : p.IsPlain) (hdatabase : Sql.Word database)
    (htable : Sql.Word table) (hpayload : payload.isEmpty = false)
    (hanswer : ((h.answer m r).run s).against network = ((reply, s'), sent)) :
    h.AnswersLoad database table p payload s s' reply sent := by
  have hwhole : ((HubReply.ofOutcome
      ((((h.load database table p payload).run s).against network).1.1.map LoadVerdict.json),
        (((h.load database table p payload).run s).against network).1.2),
        (((h.load database table p payload).run s).against network).2) = ((reply, s'), sent) := by
    have hput : ¬ r.method = Resource.optionsMethod ∧ ¬ r.method = Resource.headMethod := by
      rw [hmethod]
      decide
    rw [answer, if_neg hput.1, hcommand] at hanswer
    dsimp only [perform] at hanswer
    simp only [if_neg hput.2] at hanswer
    rw [Session.against_map_run HubReply.ofOutcome, Session.against_map_run
      fun r : Except Fault LoadVerdict => r.map LoadVerdict.json] at hanswer
    exact hanswer
  obtain ⟨hend, hsent⟩ := Prod.mk.inj hwhole
  obtain ⟨hreply, hsession⟩ := Prod.mk.inj hend
  constructor
  · intro hunfit
    obtain ⟨fault, hblames, hrun⟩ := load_refused hplain hdatabase htable hpayload hunfit s
    rw [hrun] at hreply hsession hsent
    refine ⟨?_, hsent.symm, hsession.symm⟩
    have hkind : fault.kind = .invalidArgument := hblames
    rw [← hreply]
    show fault.kind.httpStatus = 400
    rw [hkind]
    rfl
  · intro hnot
    obtain ⟨f, hfit⟩ := LoadParameters.exists_isFit_of_not_isUnfit hnot
    exact ⟨f, hfit.format, load_accepted hplain hdatabase htable hpayload hfit hsent⟩

end Hub

end StoreGate
