import StoreGate.Proofs.Engine.Status
import StoreGate.Proofs.Json.Record

/-!
# What a success takes from its reply

Every field of a reply may be left out. A status that is left out is a failure, so that a load or a
commit succeeds only with a status that the reply spells out. A code that is left out is the code of
success, and the number of a transaction that is left out is zero; so statements and begins succeed
with replies that say nothing of the kind.

* `EngineCall.Explicit`, `EngineCall.Defaulted` — the reply spells out what the success rests on;
  the success rests on a field that the reply leaves out.
* `success_explicit_iff` — of a call that succeeds, exactly one of the two is so.
* `empty_reply_succeeds` — two calls that succeed with what was left out.
-/

namespace StoreGate

/-! ## Fields of replies -/

def QueryReply.codeSlot : Decode.Slot QueryReply.fields Int where
  before := []
  after := QueryReply.fields.drop 1
  name := "code"
  presence := .defaulted
  reader := Decode.int64
  set v r := { r with code := v }
  get := QueryReply.code

namespace TxnReply

def statusSlot : Decode.Slot fields LoadStatus where
  before := []
  after := fields.drop 1
  name := "Status"
  presence := .defaulted
  reader := LoadStatus.decode
  set v r := { r with status := v }
  get := status

def txnIdSlot : Decode.Slot fields Int where
  before := fields.take 1
  after := fields.drop 2
  name := "TxnId"
  presence := .defaulted
  reader := Decode.int64
  set v r := { r with txnId := v }
  get := txnId

def existingSlot : Decode.Slot fields (Option Int) where
  before := fields.take 2
  after := fields.drop 3
  name := "ExistingTxnId"
  presence := .defaulted
  reader := Decode.optional Decode.int64
  set v r := { r with existingTxnId := v }
  get := existingTxnId

end TxnReply

def LoadVerdict.statusSlot : Decode.Slot LoadVerdict.fields LoadStatus where
  before := LoadVerdict.fields.take 2
  after := LoadVerdict.fields.drop 3
  name := "Status"
  presence := .defaulted
  reader := LoadStatus.decode
  set v r := { r with status := v }
  get := LoadVerdict.status

/-- A status is read from its own text only. -/
theorem LoadStatus.decode_eq_ok {room : Nat} {d : Document} {s : LoadStatus}
    (h : decode room d = .ok s) : d = .text (some s.text) := by
  obtain ⟨t, htext, rfl⟩ := exceptMap_eq_ok.1 h
  rw [Decode.text_eq_ok htext, text_ofText]

namespace Document

/-- A number as replies write it. -/
def integer (n : Int) : Document := .number (some (.int n))

/-- A text as replies write it. -/
def word (s : String) : Document := .text (some s)

end Document

/-- **A status is the text that is given for it**; only a failure may be a status that is left out.
-/
theorem LoadStatus.spelled {ρ : Type} {fields : List (Decode.Field ρ)}
    {slot : Decode.Slot fields LoadStatus} {r : ρ} {given : Document → Prop}
    (h : slot.From .fail given r) (hreader : slot.reader = decode) :
    given (.word (slot.get r).text) ∨ slot.get r = .fail ∧ ∀ v, ¬ given v := by
  rcases h with ⟨hfail, hnone⟩ | ⟨v, room, hv, hread⟩
  · exact Or.inr ⟨hfail, hnone⟩
  · rw [hreader] at hread
    have hword : v = .word (slot.get r).text := decode_eq_ok hread
    exact Or.inl (hword ▸ hv)

/-! ## One reply -/

namespace EngineCall

/-- The reply spells out what the success of the call rests on: the code zero for a statement, a
status of success for a load and for a commit, its number for a begin. An abort succeeds with any
reply. -/
def Explicit : (call : EngineCall) → call.Answer → Document → Prop
  | execute _ _, _, d => d.Gives 0 "code" (.integer 0)
  | load _ _ _ _, _, d =>
    d.Gives 2 "Status" (.word "Success") ∨ d.Gives 2 "Status" (.word "Publish Timeout")
  | begin _ _ _ _, o, d =>
    d.Gives 1 "TxnId" (.integer o.txnId) ∨ d.Gives 2 "ExistingTxnId" (.integer o.txnId)
  | conclude .commit _ _, _, d => d.Gives 0 "Status" (.word "Success")
  | conclude .abort _ _, _, _ => True

/-- The success of the call rests on a field that the reply leaves out: the code of a statement, or
the number of a fresh transaction, which is zero then. -/
def Defaulted : (call : EngineCall) → call.Answer → Document → Prop
  | execute _ _, _, d => ∀ v, ¬ d.Gives 0 "code" v
  | begin _ _ _ _, o, d =>
    o.reused = false ∧ (∀ v, ¬ d.Gives 1 "TxnId" v) ∧ ¬ d.Gives 2 "ExistingTxnId" (.integer 0)
  | _, _, _ => False

end EngineCall

/-- **A statement** succeeds with the code zero, or with none. -/
theorem QueryReply.explicit_iff {status : Nat} {body : String} {rows : QueryResult}
    (h : read status body = .ok rows) :
    (Document.parse body).1.Gives 0 "code" (.integer 0) ↔
      ¬ ∀ v, ¬ (Document.parse body).1.Gives 0 "code" v := by
  obtain ⟨-, reply, hdecode, hcode, -⟩ := read_eq_ok.1 h
  have hfrom : codeSlot.From _ _ reply := Decode.Slot.of_decodeText hdecode
  have hgiven := hfrom.given_iff .integer fun _ _ _ => Decode.int64_eq_ok
  rwa [show codeSlot.get reply = 0 from hcode] at hgiven

/-- **A load** succeeds with a status that is spelled out. -/
theorem LoadVerdict.explicit_of_success {body : String} {v : LoadVerdict} (h : parse body = .ok v)
    (hv : v.isSuccessEquivalent = true) :
    (Document.parse body).1.Gives 2 "Status" (.word v.status.text) := by
  have hfrom : statusSlot.From _ _ v := Decode.Slot.of_decodeText h
  have hne : v.status ≠ .fail := by
    intro hfail
    rw [isSuccessEquivalent, hfail] at hv
    cases hv
  exact (LoadStatus.spelled hfrom rfl).resolve_right fun h => hne h.1

namespace TxnReply

variable {body label : String} {r : TxnReply} {o : BeginOutcome}

/-- **A commit** succeeds with a status that is spelled out. -/
theorem explicit_of_success (h : parse body = .ok r) (hr : r.status = .success) :
    (Document.parse body).1.Gives 0 "Status" (.word "Success") := by
  have hfrom : statusSlot.From _ _ r := Decode.Slot.of_decodeText h
  have hne : r.status ≠ .fail := by
    rw [hr]
    decide
  have hgiven : (Document.parse body).1.Gives 0 "Status" (.word r.status.text) :=
    (LoadStatus.spelled hfrom rfl).resolve_right fun h => hne h.1
  rwa [hr] at hgiven

/-- A begin takes the number of a fresh transaction from one field and that of a transaction which
is under way from another. -/
theorem beginOutcome_cases (h : r.beginOutcome label = .ok o) :
    (o.reused = false ∧ o.txnId = r.txnId) ∨
      (o.reused = true ∧ r.existingTxnId = some o.txnId) := by
  have hexisting : ∀ n, r.existing = some n → r.existingTxnId = some n :=
    fun n hn => (Option.filter_eq_some_iff.1 hn).1
  unfold beginOutcome at h
  split at h
  · cases h
    exact Or.inl ⟨rfl, rfl⟩
  · next hid =>
    cases h
    exact Or.inr ⟨rfl, hexisting _ hid⟩
  · next hid =>
    cases h
    exact Or.inr ⟨rfl, hexisting _ hid⟩
  · cases h

/-- A reply that names a transaction which is under way spells its number out. -/
theorem explicit_of_existing (h : parse body = .ok r) {n : Int} (hn : r.existingTxnId = some n) :
    (Document.parse body).1.Gives 2 "ExistingTxnId" (.integer n) := by
  have hfrom : existingSlot.From _ _ r := Decode.Slot.of_decodeText h
  have hne : r.existingTxnId ≠ none := by
    rw [hn]
    exact Option.some_ne_none n
  obtain ⟨d, room, hd, hread⟩ := hfrom.given_of_ne hne
  have hread : Decode.optional Decode.int64 room d = .ok (some n) := hn ▸ hread
  rwa [Decode.int64_eq_ok (Decode.optional_eq_ok hread)] at hd

/-- **A begin** succeeds with a number that is spelled out, unless it is a fresh one and left out.
-/
theorem explicit_iff (h : parse body = .ok r) (ho : r.beginOutcome label = .ok o) :
    ((Document.parse body).1.Gives 1 "TxnId" (.integer o.txnId) ∨
        (Document.parse body).1.Gives 2 "ExistingTxnId" (.integer o.txnId)) ↔
      ¬ (o.reused = false ∧ (∀ v, ¬ (Document.parse body).1.Gives 1 "TxnId" v) ∧
        ¬ (Document.parse body).1.Gives 2 "ExistingTxnId" (.integer 0)) := by
  rcases beginOutcome_cases ho with ⟨hfresh, hn⟩ | ⟨hreused, hn⟩
  · have hfrom : txnIdSlot.From _ _ r := Decode.Slot.of_decodeText h
    rcases hfrom with ⟨hzero, hnone⟩ | ⟨d, room, hd, hread⟩
    · -- the number is left out, so it is zero
      have hzero : o.txnId = 0 := hn.trans hzero
      rw [hzero]
      constructor
      · rintro (hgiven | hgiven) ⟨-, -, hexisting⟩
        · exact hnone _ hgiven
        · exact hexisting hgiven
      · intro hdefaulted
        by_contra hexplicit
        exact hdefaulted ⟨hfresh, hnone, fun hgiven => hexplicit (Or.inr hgiven)⟩
    · have hspelled : d = .integer o.txnId := by
        rw [hn]
        exact Decode.int64_eq_ok hread
      refine iff_of_true (Or.inl (hspelled ▸ hd)) ?_
      rintro ⟨-, hnone, -⟩
      exact hnone d hd
  · refine iff_of_true (Or.inr (explicit_of_existing h hn)) ?_
    rintro ⟨hfresh, -⟩
    rw [hreused] at hfresh
    cases hfresh

end TxnReply

/-- **One reply**: of a call that succeeds with it, exactly one of the two is so. -/
theorem EngineCall.explicit_iff {call : EngineCall} {status : Nat} {body : String}
    {answer : call.Answer} (h : call.read status body = .ok answer) :
    call.Explicit answer (Document.parse body).1 ↔
      ¬ call.Defaulted answer (Document.parse body).1 := by
  cases call with
  | execute database sql => exact QueryReply.explicit_iff h
  | load database table payload options =>
      obtain ⟨hparse, hsuccess⟩ := Client.loadOutcome_eq_ok.1 h
      refine iff_of_true ?_ id
      have hgiven := LoadVerdict.explicit_of_success hparse hsuccess
      unfold LoadVerdict.isSuccessEquivalent LoadStatus.isSuccessEquivalent at hsuccess
      split at hsuccess
      · next hs =>
        rw [hs] at hgiven
        exact Or.inl hgiven
      · next hs =>
        rw [hs] at hgiven
        exact Or.inr hgiven
      · cases hsuccess
  | begin database table label timeoutSecs =>
      obtain ⟨r, hr, ho⟩ := exceptBind_eq_ok.1 h
      exact TxnReply.explicit_iff (Client.controlOutcome_ok hr).2.2 ho
  | conclude ending database txnId =>
      cases ending with
      | abort => exact iff_of_true trivial id
      | commit =>
          obtain ⟨r, hr, hcommit⟩ := exceptBind_eq_ok.1 h
          refine iff_of_true (TxnReply.explicit_of_success (Client.controlOutcome_ok hr).2.2 ?_) id
          by_contra hfail
          have hcommit : r.commitOutcome txnId = .ok () := hcommit
          rw [TxnReply.commitOutcome, if_neg hfail] at hcommit
          cases hcommit

/-! ## Whole calls -/

/-- **A success is spelled out, unless it rests on a field that was left out.** However a call is
made and whatever its requests come to: if the call succeeds, its last outcome is a reply, no
redirect, whose body spells out what the success rests on, except exactly where a statement's reply
has no code, and where a begin's reply grants a fresh transaction without its number. -/
theorem success_explicit_iff {c : Client} {deadline : Option Span} {turn : Turn}
    {call : EngineCall} {outcomes : List Outcome} {answer : call.Answer}
    (h : (call.carry c deadline turn).1.replay outcomes = some (.ok answer)) :
    ∃ status body, AnsweredBy outcomes status body ∧
      (call.Explicit answer (Document.parse body).1 ↔
        ¬ call.Defaulted answer (Document.parse body).1) := by
  obtain ⟨status, body, hlast, hread⟩ := (EngineCall.replay_carry_ok_iff h).1 rfl
  exact ⟨status, body, hlast, EngineCall.explicit_iff hread⟩

/-- The keys of an object, as far as they can be read. -/
def Document.keys? : Document → Option (List (Option String))
  | .object members _ => some (members.map Prod.fst)
  | _ => none

/-- An object gives only fields whose names are among its keys. -/
theorem Document.Gives.key_mem {d v : Document} {place : Nat} {name : String}
    {keys : List (Option String)} (h : d.Gives place name v) (hkeys : d.keys? = some keys) :
    some name ∈ keys := by
  cases d with
  | object members ending =>
      obtain rfl := Option.some.inj hkeys
      exact List.mem_map_of_mem h
  | _ => cases hkeys

namespace Sample

def statementCall : EngineCall := .execute none "SELECT 1"

def beginCall : EngineCall := .begin "logs" "app" "job" 60

/-- The label names transaction 7, which is under way. -/
def underWay : String := "\x7b\"Status\":\"Label Already Exists\",\"ExistingTxnId\":7\x7d"

/-- A begin is granted, and its number is left out. -/
def numberless : String := "\x7b\"Status\":\"Success\"\x7d"

/-- Everything is left out. -/
def empty : String := "\x7b\x7d"

theorem keys_of_answeredBy {sent body : String} {status : Nat} {keys : List (Option String)}
    (h : AnsweredBy (answer sent) status body)
    (hkeys : ((Reply.mk 200 [] (.ok sent.toUTF8)).text.toOption.bind fun text =>
      (Document.parse text).1.keys?) = some keys) :
    (Document.parse body).1.keys? = some keys := by
  obtain ⟨reply, hlast, -, -, htext⟩ := h
  obtain rfl := Except.ok.inj (Option.some.inj hlast)
  rwa [htext] at hkeys

theorem replay_beginCall (body : String) (o : BeginOutcome)
    (h : (body, o) ∈ [(underWay, ⟨7, "job", true⟩), (numberless, ⟨0, "job", false⟩)]) :
    (beginCall.carry client none turn).1.replay (answer body) = some (.ok o) := by
  have hok : ∀ p ∈ [(underWay, (⟨7, "job", true⟩ : BeginOutcome)),
      (numberless, ⟨0, "job", false⟩)],
      ((client.beginTxn none "logs" "app" "job" 60 turn).1.replay (answer p.1)).map
        Except.toOption = some (some p.2) := by decide +kernel
  obtain ⟨result, hreplay, hresult⟩ := Option.map_eq_some_iff.1 (hok (body, o) h)
  cases result with
  | error f => cases hresult
  | ok o' =>
      obtain rfl : o' = o := Option.some.inj hresult
      exact hreplay

theorem replay_statementCall : ∃ rows,
    (statementCall.carry client none turn).1.replay (answer empty) = some (.ok rows) := by
  have hok : ((statementCall.carry client none turn).1.replay (answer empty)).map
      Except.isOk = some true := by decide +kernel
  obtain ⟨result, hreplay, hresult⟩ := Option.map_eq_some_iff.1 hok
  obtain ⟨rows, rfl⟩ := exists_ok_of_isOk hresult
  exact ⟨rows, hreplay⟩

end Sample

/-- A begin that finds its transaction under way. -/
theorem success_explicit_of_underWay :
    ∃ status body, AnsweredBy (Sample.answer Sample.underWay) status body ∧
      Sample.beginCall.Explicit (⟨7, "job", true⟩ : BeginOutcome) (Document.parse body).1 := by
  obtain ⟨status, body, hlast, hiff⟩ :=
    success_explicit_iff (Sample.replay_beginCall Sample.underWay ⟨7, "job", true⟩ (by simp))
  refine ⟨status, body, hlast, hiff.2 ?_⟩
  rintro ⟨hreused, -⟩
  cases hreused

/-- **A statement succeeds with an empty reply, and a begin with a reply that has no number.** -/
theorem empty_reply_succeeds :
    (∃ rows, (Sample.statementCall.carry Sample.client none Sample.turn).1.replay
        (Sample.answer Sample.empty) = some (.ok rows) ∧
      ∀ status body, AnsweredBy (Sample.answer Sample.empty) status body →
        ¬ Sample.statementCall.Explicit rows (Document.parse body).1) ∧
    (Sample.beginCall.carry Sample.client none Sample.turn).1.replay
        (Sample.answer Sample.numberless) = some (.ok (⟨0, "job", false⟩ : BeginOutcome)) ∧
      ∀ status body, AnsweredBy (Sample.answer Sample.numberless) status body →
        ¬ Sample.beginCall.Explicit (⟨0, "job", false⟩ : BeginOutcome) (Document.parse body).1 := by
  obtain ⟨rows, hrows⟩ := Sample.replay_statementCall
  refine ⟨⟨rows, hrows, ?_⟩, Sample.replay_beginCall _ _ (by simp), ?_⟩
  · intro status body hlast hexplicit
    have hkeys : (Document.parse body).1.keys? = some [] :=
      Sample.keys_of_answeredBy hlast (by decide +kernel)
    have hgiven : (Document.parse body).1.Gives 0 "code" (.integer 0) := hexplicit
    exact absurd (hgiven.key_mem hkeys) (by decide)
  · intro status body hlast hexplicit
    have hkeys : (Document.parse body).1.keys? = some [some "Status"] :=
      Sample.keys_of_answeredBy hlast (by decide +kernel)
    rcases hexplicit with hgiven | hgiven
    · exact absurd (hgiven.key_mem hkeys) (by decide)
    · exact absurd (hgiven.key_mem hkeys) (by decide)

end StoreGate
