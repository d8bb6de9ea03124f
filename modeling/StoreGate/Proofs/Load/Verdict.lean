import StoreGate.Hub.Service
import StoreGate.Proofs.Engine.Explicit
import StoreGate.Proofs.Load.Fields

/-!
# What a load makes of its verdict

The engine answers a load with a verdict. A verdict of a landed load is what the load gives; any
other comes back with the fault of the load, and the server shows it to its own caller. On none of
these ways is a verdict lost, changed or made up.

* `LoadVerdict.isSuccessEquivalent_iff` — a verdict that was read counts as landed by its text.
* `HubReply.load?_ofOutcome_error` — the verdict that an answer of the server shows.
* `TellsVerdict`, `load_verdict_exact` — what a load comes to, by what its last answer spells.
-/

namespace StoreGate

/-! ## Landed loads -/

/-- The status is exactly `Success` or `Publish Timeout`. -/
def LoadVerdict.Landed (v : LoadVerdict) : Prop :=
  v.status.text = "Success" ∨ v.status.text = "Publish Timeout"

theorem LoadStatus.isSuccessEquivalent_ofText (s : String) :
    (ofText s).isSuccessEquivalent = true ↔ s = "Success" ∨ s = "Publish Timeout" := by
  unfold ofText
  split
  · next h => simp [h, isSuccessEquivalent]
  · next hsuccess =>
    split
    · next h => simp [h, isSuccessEquivalent]
    · next htimeout =>
      refine iff_of_false ?_ (fun h => h.elim hsuccess htimeout)
      split
      · simp [isSuccessEquivalent]
      · split <;> simp [isSuccessEquivalent]

/-- **A verdict that was read** counts as landed by the text of its status. -/
theorem LoadVerdict.isSuccessEquivalent_iff {body : String} {v : LoadVerdict}
    (h : parse body = .ok v) : v.isSuccessEquivalent = true ↔ v.Landed := by
  have hfrom : statusSlot.From _ _ v := Decode.Slot.of_decodeText h
  rcases hfrom with ⟨hfail, -⟩ | ⟨d, room, -, hread⟩
  · have hfail : v.status = .fail := hfail
    simp [isSuccessEquivalent, Landed, hfail, LoadStatus.isSuccessEquivalent, LoadStatus.text]
  · obtain ⟨s, -, hstatus⟩ := exceptMap_eq_ok.1 hread
    have hstatus : LoadStatus.ofText s = v.status := hstatus
    rw [isSuccessEquivalent, Landed, ← hstatus, LoadStatus.isSuccessEquivalent_ofText,
      LoadStatus.text_ofText]

/-! ## What an answer of the server shows -/

/-- The member of an object that was put in order is what the members say last. -/
theorem Json.member?_object (members : List (String × Json)) (key : String) :
    (object members).member? key = SortedMap.lastOf members key :=
  SortedMap.get?_ofList members key

/-- The verdict that an answer of the server shows: `load` in its `error`. -/
def HubReply.load? (r : HubReply) : Option Json :=
  r.body.bind fun body => (body.member? "error").bind (Json.member? "load")

/-- **The server shows the verdict of a fault**, and none if the fault has none. -/
theorem HubReply.load?_ofOutcome_error (f : Fault) :
    (ofOutcome (.error f)).load? = f.load?.map LoadVerdict.json := by
  have herror : (Envelope.failure f).member? "error" = some (Envelope.faultJson f) := by
    rw [Envelope.failure, Json.member?_object]
    simp
  show ((Envelope.failure f).member? "error").bind (Json.member? "load") = _
  rw [herror]
  show (Envelope.faultJson f).member? "load" = _
  rw [Envelope.faultJson, Json.member?_object, SortedMap.lastOf_append]
  cases f.load? with
  | none => simp [Json.optionalMember]
  | some v => simp [Json.optionalMember]

/-! ## Faults on the way -/

/-- What goes wrong on the way to an answer has no verdict. -/
theorem Redirect.load?_of_replay_follow {errand : Errand} {hops : Nat} {url : Url}
    {outcomes : List Outcome} {f : Fault}
    (h : (follow errand hops url).replay outcomes = some (.error f)) : f.load? = none := by
  induction hops generalizing url outcomes with
  | zero =>
      obtain ⟨-, heq⟩ := Exchange.replay_done_eq_some.1 h
      cases heq
      rfl
  | succ hops ih =>
      cases outcomes with
      | nil => exact absurd h (by simp [follow])
      | cons outcome rest =>
          rw [follow, Exchange.replay_send_cons] at h
          rcases hop_cases errand url outcome with ⟨next, hhop, -⟩ | ⟨result, hhop, hends⟩
          · rw [hhop] at h
            exact ih h
          · rw [hhop] at h
            obtain ⟨-, rfl⟩ := Exchange.replay_done_eq_some.1 h
            cases hends with
            | _ => rfl

/-- There is one answer at most. -/
theorem AnsweredBy.unique {outcomes : List Outcome} {status status' : Nat} {body body' : String}
    (h : AnsweredBy outcomes status body) (h' : AnsweredBy outcomes status' body') :
    status = status' ∧ body = body' := by
  obtain ⟨reply, hlast, -, hstatus, hbody⟩ := h
  obtain ⟨reply', hlast', -, hstatus', hbody'⟩ := h'
  obtain rfl := Except.ok.inj (Option.some.inj (hlast.symm.trans hlast'))
  exact ⟨hstatus.symm.trans hstatus', Except.ok.inj (hbody.symm.trans hbody')⟩

/-! ## Whole loads -/

/-- What a load comes to, told from the outcomes of its requests and from what its request came to
when it was followed. -/
structure TellsVerdict (outcomes : List Outcome) (followed : Except Fault (Nat × String))
    (result : Except Fault LoadVerdict) : Prop where
  /-- The request was answered, or its fault is the fault of the load and has no verdict. -/
  answered_or_fault : (∃ status body, AnsweredBy outcomes status body) ∨
    ∃ f, followed = .error f ∧ result = .error f ∧ f.load? = none
  /-- The verdict of a landed load is what the load gives. -/
  landed : ∀ status body v, AnsweredBy outcomes status body → LoadVerdict.parse body = .ok v →
    v.Landed → result = .ok v
  /-- Any other verdict comes with a fault of the engine. -/
  failed : ∀ status body v, AnsweredBy outcomes status body → LoadVerdict.parse body = .ok v →
    ¬ v.Landed → ∃ f, result = .error f ∧ f.kind = .database ∧ f.load? = some v
  /-- A body that is no verdict stands at the end of what the fault says. -/
  unreadable : ∀ status body e, AnsweredBy outcomes status body →
    LoadVerdict.parse body = .error e →
    ∃ f before, result = .error f ∧ f.kind = .deserialization ∧ f.message = before ++ body
  /-- A fault has the verdict of the answer if that is none of a landed load, and no other. -/
  attached : ∀ f, result = .error f → ∀ v, f.load? = some v ↔
    ∃ status body, AnsweredBy outcomes status body ∧ LoadVerdict.parse body = .ok v ∧ ¬ v.Landed
  /-- The server shows the verdict of a fault. -/
  shown : ∀ f, result = .error f →
    (HubReply.ofOutcome (result.map LoadVerdict.json)).load? = f.load?.map LoadVerdict.json

namespace Client

variable {status : Nat} {body : String} {v : LoadVerdict} {e : DecodeError}

theorem loadOutcome_of_landed (hparse : LoadVerdict.parse body = .ok v) (hv : v.Landed) :
    loadOutcome status body = .ok v :=
  loadOutcome_eq_ok.2 ⟨hparse, (LoadVerdict.isSuccessEquivalent_iff hparse).2 hv⟩

theorem loadOutcome_of_not_landed (hparse : LoadVerdict.parse body = .ok v) (hv : ¬ v.Landed) :
    loadOutcome status body = .error (loadFailed v) := by
  have hfails : ¬ v.isSuccessEquivalent = true :=
    fun h => hv ((LoadVerdict.isSuccessEquivalent_iff hparse).1 h)
  simp [loadOutcome, hparse, hfails]

theorem loadOutcome_of_unreadable (hparse : LoadVerdict.parse body = .error e) :
    loadOutcome status body = .error (unreadableVerdict status e body) := by
  simp [loadOutcome, hparse]

theorem unreadableVerdict_message (status : Nat) (e : DecodeError) (body : String) :
    ∃ before, (unreadableVerdict status e body).message = before ++ body :=
  ⟨_, (String.append_assoc ..).symm⟩

end Client

/-- **A request that was answered** tells the verdict of its answer. -/
theorem tellsVerdict_of_answered {outcomes : List Outcome} {status : Nat} {body : String}
    (hanswer : AnsweredBy outcomes status body) :
    TellsVerdict outcomes (.ok (status, body)) (Client.loadOutcome status body) where
  answered_or_fault := Or.inl ⟨status, body, hanswer⟩
  landed status' body' v hanswer' hparse hv := by
    obtain ⟨rfl, rfl⟩ := hanswer.unique hanswer'
    exact Client.loadOutcome_of_landed hparse hv
  failed status' body' v hanswer' hparse hv := by
    obtain ⟨rfl, rfl⟩ := hanswer.unique hanswer'
    exact ⟨_, Client.loadOutcome_of_not_landed hparse hv, rfl, rfl⟩
  unreadable status' body' e hanswer' hparse := by
    obtain ⟨rfl, rfl⟩ := hanswer.unique hanswer'
    obtain ⟨before, hmessage⟩ := Client.unreadableVerdict_message status e body
    exact ⟨_, before, Client.loadOutcome_of_unreadable hparse, rfl, hmessage⟩
  attached f hf v := by
    constructor
    · intro hload
      refine ⟨status, body, hanswer, ?_⟩
      cases hparse : LoadVerdict.parse body with
      | error e =>
          rw [Client.loadOutcome_of_unreadable hparse] at hf
          cases hf
          cases hload
      | ok w =>
          by_cases hw : w.Landed
          · rw [Client.loadOutcome_of_landed hparse hw] at hf
            cases hf
          · rw [Client.loadOutcome_of_not_landed hparse hw] at hf
            cases hf
            cases hload
            exact ⟨rfl, hw⟩
    · rintro ⟨status', body', hanswer', hparse, hv⟩
      obtain ⟨rfl, rfl⟩ := hanswer.unique hanswer'
      rw [Client.loadOutcome_of_not_landed hparse hv] at hf
      cases hf
      rfl
  shown f hf := by
    rw [hf]
    exact HubReply.load?_ofOutcome_error f

/-- **A request that was not answered** hands on what went wrong. -/
theorem tellsVerdict_of_fault {outcomes : List Outcome} {f : Fault} (hload : f.load? = none)
    (hanswer : ¬ ∃ status body, AnsweredBy outcomes status body) :
    TellsVerdict outcomes (.error f) (.error f) where
  answered_or_fault := Or.inr ⟨f, rfl, rfl, hload⟩
  landed status body _ h _ _ := absurd ⟨status, body, h⟩ hanswer
  failed status body _ h _ _ := absurd ⟨status, body, h⟩ hanswer
  unreadable status body _ h _ := absurd ⟨status, body, h⟩ hanswer
  attached f' hf' v := by
    cases hf'
    rw [hload]
    refine iff_of_false (fun h => by cases h) ?_
    rintro ⟨status, body, h, -⟩
    exact hanswer ⟨status, body, h⟩
  shown f' hf' := by
    cases hf'
    exact HubReply.load?_ofOutcome_error f

/-- **A load tells the verdict of its last answer, and no other.** Whatever the requests of a load
come to that is sent at all: if the last outcome is an answer, no redirect, then the load gives the
verdict that its body spells, unchanged, if that is one of a landed load; any other verdict comes
unchanged with a fault of the engine, where the server shows it; and a body that is no verdict
stands at the end of what the fault says. What goes wrong on the way to an answer is handed on as it
is, without a verdict. -/
theorem load_verdict_exact {c : Client} {deadline : Option Span} {turn : Turn}
    {database table : String} {payload : ByteArray} {o : LoadOptions} {url : Url}
    {outcomes : List Outcome} {result : Except Fault LoadVerdict}
    (haccepts : c.Accepts turn database table o url)
    (h : (c.load deadline database table payload o turn).1.replay outcomes = some result) :
    ∃ followed, (Redirect.putFollowing (c.loadErrand deadline payload o) url).replay outcomes =
        some followed ∧
      TellsVerdict outcomes followed result := by
  rw [Client.load_of_accepts haccepts] at h
  obtain ⟨followed, hfollowed, rfl⟩ := Exchange.replay_map.1 h
  refine ⟨followed, hfollowed, ?_⟩
  cases followed with
  | ok answer => exact tellsVerdict_of_answered (Redirect.replay_follow_ok hfollowed)
  | error f =>
      refine tellsVerdict_of_fault (Redirect.load?_of_replay_follow hfollowed) ?_
      rintro ⟨status, body, hanswer⟩
      cases Redirect.replay_follow_of_answeredBy hfollowed hanswer

namespace Sample

/-- A verdict of a load whose rows were all rejected. -/
def rejectedRows : String :=
  "\x7b\"Status\":\"Fail\",\"NumberTotalRows\":10,\"NumberFilteredRows\":10," ++
    "\"ErrorURL\":\"http://be1:8040/rows\"\x7d"

theorem answeredBy_rejectedRows : AnsweredBy (loadAnswered 200 rejectedRows) 200 rejectedRows := by
  have htext : (Reply.mk 200 [] (.ok rejectedRows.toUTF8)).text.toOption = some rejectedRows := by
    decide +kernel
  exact ⟨_, rfl, rfl, rfl, eq_ok_of_toOption htext⟩

end Sample

/-- A load that is sent on and then fails: its fault has the verdict with its counters, and the
server shows it. -/
theorem load_verdict_exact_of_rejectedRows :
    ∃ f v, (Sample.client.load none "logs" "app" ByteArray.empty LoadOptions.standard
        Sample.turn).1.replay (Sample.loadAnswered 200 Sample.rejectedRows) = some (.error f) ∧
      f.kind = .database ∧ f.load? = some v ∧ v.filteredRows = 10 ∧
      v.errorUrl = some "http://be1:8040/rows" ∧
      (HubReply.ofOutcome (.error f)).load? = some v.json := by
  obtain ⟨url, htarget⟩ := exists_ok_of_isOk (x := Url.parse (Client.loadTarget
    (Turn.next Sample.client.selector .load Sample.turn).1 "logs" "app")) (by decide +kernel)
  have haccepts : Sample.client.Accepts Sample.turn "logs" "app" LoadOptions.standard url :=
    ⟨by decide, by decide +kernel, htarget⟩
  have hsome : ((Sample.client.load none "logs" "app" ByteArray.empty LoadOptions.standard
      Sample.turn).1.replay (Sample.loadAnswered 200 Sample.rejectedRows)).isSome = true := by
    decide +kernel
  obtain ⟨result, hresult⟩ := Option.isSome_iff_exists.1 hsome
  have hfields : (LoadVerdict.parse Sample.rejectedRows).toOption.map (fun v =>
      (v.status.text, v.filteredRows, v.errorUrl)) =
      some ("Fail", 10, some "http://be1:8040/rows") := by decide +kernel
  obtain ⟨v, hv, hfields⟩ := Option.map_eq_some_iff.1 hfields
  simp only [Prod.mk.injEq] at hfields
  obtain ⟨hstatus, hfiltered, hurl⟩ := hfields
  have hlanded : ¬ v.Landed := by
    rw [LoadVerdict.Landed, hstatus]
    decide
  obtain ⟨followed, -, htells⟩ := load_verdict_exact haccepts hresult
  obtain ⟨f, rfl, hkind, hload⟩ :=
    htells.failed _ _ v Sample.answeredBy_rejectedRows (eq_ok_of_toOption hv) hlanded
  refine ⟨f, v, hresult, hkind, hload, hfiltered, hurl, ?_⟩
  have hshown := htells.shown f rfl
  rwa [hload] at hshown

end StoreGate
