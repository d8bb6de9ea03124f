import StoreGate.Proofs.Engine.Target
import StoreGate.Proofs.Http.Lockstep
import StoreGate.Proofs.Load.ReadBack
import StoreGate.Proofs.Url.Counterpart

/-!
# Commit and abort side by side

A commit and an abort of one transaction are the same call but for one word in the address and for
what is made of the engine's answer. Told here, for every network, is that the two go the same way,
and that they part only where the engine answers and refuses: a commit fails then, an abort does
not.

* `Client.control_lockstep` — up to the answer, a commit and an abort go together.
* `TxnReply.status_spelled` — the status of an answer is the text that it gives, or `Fail`.
* `commit_differs_in_refusal` — what comes of a commit and of an abort, and what they send.
-/

namespace StoreGate

/-! ## Statuses of answers -/

/-- A status that was read is the status of success only with that text. -/
theorem LoadStatus.IsRead.text_eq_iff {s : LoadStatus} (h : s.IsRead) :
    s.text = "Success" ↔ s = .success := by
  constructor
  · intro htext
    have hs := h.ofText_text
    rw [htext] at hs
    exact hs.symm
  · rintro rfl
    rfl

namespace TxnReply

variable {body : String} {r : TxnReply}

/-- **The status of an answer** is the text that the answer gives; it is a failure if the answer
gives none. -/
theorem status_spelled (h : parse body = .ok r) :
    (Document.parse body).1.Gives 0 "Status" (.word r.status.text) ∨
      r.status.text = "Fail" ∧ ∀ v, ¬ (Document.parse body).1.Gives 0 "Status" v := by
  have hfrom : statusSlot.From _ _ r := Decode.Slot.of_decodeText h
  exact (LoadStatus.spelled hfrom rfl).imp_right (And.imp_left (congrArg LoadStatus.text))

theorem isRead_of_parse (h : parse body = .ok r) : r.status.IsRead := by
  have hfrom : statusSlot.From _ _ r := Decode.Slot.of_decodeText h
  rcases hfrom with ⟨hstatus, -⟩ | ⟨v, room, -, hread⟩
  · exact ⟨"Fail", hstatus.symm⟩
  · exact LoadStatus.isRead_of_decode hread

end TxnReply

theorem ControlReply.isRead {outcomes : List Outcome} {r : TxnReply} (h : ControlReply outcomes r) :
    r.status.IsRead := by
  obtain ⟨status, body, -, -, -, hparse⟩ := h
  exact TxnReply.isRead_of_parse hparse

namespace Client

variable {c : Client} {deadline : Option Span}

/-! ## Up to the answer -/

/-- What an answer says does not depend on what it is an answer to, texts of faults aside. -/
theorem controlOutcome_like (purpose purpose' : String) (status : Nat) (body : String) :
    ExceptRel Fault.Like Eq (controlOutcome purpose status body)
      (controlOutcome purpose' status body) := by
  unfold controlOutcome
  split
  · exact .error rfl
  · cases TxnReply.parse body with
    | error e => exact .error rfl
    | ok r => exact .ok rfl

/-- **Up to the answer**, a commit and an abort go together: they fail with faults of one kind, or
they are answered alike. -/
theorem control_lockstep (e : Endpoint) (database : String) (txnId : Int) :
    Exchange.Lockstep (Request.Like Url.Alike) (ExceptRel Fault.Like Eq)
      (c.control deadline (endTarget e database .commit txnId) [] Ending.commit.purpose)
      (c.control deadline (endTarget e database .abort txnId) [] Ending.abort.purpose) := by
  have hparse := Url.parse_endTarget e database txnId
  unfold control
  generalize Url.parse (endTarget e database .commit txnId) = x,
    Url.parse (endTarget e database .abort txnId) = y at hparse
  cases hparse with
  | error h => exact .done (.error rfl)
  | ok h =>
      have hfollow := Redirect.follow_lockstep (fun u v h => Url.join_alike h)
        ⟨c.authorized commonControlHeaders, ByteArray.empty, some (c.queryPatience deadline),
          Ending.commit.purpose⟩ Ending.abort.purpose (Redirect.limit + 1) (Or.inr h)
      refine hfollow.map fun answer answer' hanswer => hanswer.bind ?_
      rintro ⟨status, body⟩ _ rfl
      exact controlOutcome_like _ _ status body

/-- **A commit fails wherever an abort fails**, with a fault of the same kind. -/
theorem endExchange_lockstep (e : Endpoint) (database : String) (txnId : Int) :
    Exchange.Lockstep (Request.Like Url.Alike)
      (fun commit abort => ∀ f, abort = .error f → ∃ g, commit = .error g ∧ g.kind = f.kind)
      (c.endExchange deadline e .commit database txnId)
      (c.endExchange deadline e .abort database txnId) := by
  refine (control_lockstep e database txnId).map fun reply reply' hreply => ?_
  cases hreply with
  | @error g f h =>
      rintro _ ⟨⟩
      exact ⟨g, rfl, h⟩
  | ok h =>
      rintro f ⟨⟩

/-! ## The whole call -/

/-- The frontend is the same for both, for both take the same turn. -/
theorem endTxn_lockstep (c : Client) (deadline : Option Span) (database : String)
    (txnId : Int) (turn : Turn) :
    Exchange.Lockstep (Request.Like Url.Alike)
      (fun commit abort => ∀ f, abort = .error f → ∃ g, commit = .error g ∧ g.kind = f.kind)
      (c.endTxn deadline .commit database txnId turn).1
      (c.endTxn deadline .abort database txnId turn).1 :=
  endExchange_lockstep _ database txnId

/-- How a commit and an abort of one transaction on one network go together, each told by what comes
of it and by the requests that it sends. -/
structure EndsApart (network : Nat → Outcome) (commit abort : Except Fault Unit × List Request) :
    Prop where
  /-- An abort takes whatever the engine answers. -/
  abort_ok : abort.1 = .ok () ↔ ∃ r, ControlReply (Exchange.first network abort.2.length) r
  /-- A commit takes nothing but success. -/
  commit_ok : commit.1 = .ok () ↔
    ∃ r, ControlReply (Exchange.first network commit.2.length) r ∧ r.status.text = "Success"
  refused : ∀ r, ControlReply (Exchange.first network commit.2.length) r →
    r.status.text ≠ "Success" → ∃ f, commit.1 = .error f ∧ f.kind = .database
  failed : ∀ f, abort.1 = .error f → ∃ g, commit.1 = .error g ∧ g.kind = f.kind
  /-- There are as many requests, which differ in the word for the ending or not at all. -/
  requests : List.Forall₂ (Request.Like Url.Alike) commit.2 abort.2
  first : ∀ p ∈ commit.2.head?, ∀ q ∈ abort.2.head?, p.url.Counterpart q.url

/-- The first requests go to the addresses for the two endings. -/
theorem first_counterpart {database : String} {txnId : Int} {turn : Turn}
    {network : Nat → Outcome} :
    ∀ p ∈ ((c.endTxn deadline .commit database txnId turn).1.against network).2.head?,
      ∀ q ∈ ((c.endTxn deadline .abort database txnId turn).1.against network).2.head?,
        p.url.Counterpart q.url := by
  intro p hp q hq
  have hparse := Url.parse_endTarget (Turn.pick c.selector.load turn.load) database txnId
  have hcommit : Url.parse (endTarget _ database .commit txnId) = .ok p.url := (first_control hp).2
  have habort : Url.parse (endTarget _ database .abort txnId) = .ok q.url := (first_control hq).2
  rw [hcommit, habort] at hparse
  cases hparse with
  | ok h => exact h

end Client

/-- **A commit and an abort part only where the engine refuses.** Whatever the client, the database,
the number and the network: the abort succeeds exactly if its last outcome is a reply of class 2xx,
no redirect, whose body spells a control reply; the commit succeeds exactly if, in addition, the
status of that reply is `Success`, and any other status, or none, is a fault of the engine. Where
the abort fails, the commit fails with a fault of the same kind. Both take the same turn and send as
many requests, the same ones but for the word that says how the transaction is to end. -/
theorem commit_differs_in_refusal (c : Client) (deadline : Option Span) (database : String)
    (txnId : Int) (turn : Turn) (network : Nat → Outcome) :
    Client.EndsApart network
        ((c.endTxn deadline .commit database txnId turn).1.against network)
        ((c.endTxn deadline .abort database txnId turn).1.against network) ∧
      (c.endTxn deadline .commit database txnId turn).2 =
        (c.endTxn deadline .abort database txnId turn).2 ∧
      ∀ body r, TxnReply.parse body = .ok r →
        (Document.parse body).1.Gives 0 "Status" (.word r.status.text) ∨
          r.status.text = "Fail" ∧ ∀ v, ¬ (Document.parse body).1.Gives 0 "Status" v := by
  have hreplay := fun ending =>
    Exchange.replay_first (c.endTxn deadline ending database txnId turn).1 network
  obtain ⟨hfailed, hrequests⟩ :=
    (c.endTxn_lockstep deadline database txnId turn).against network
  have hturn : ∀ ending, (c.endTxn deadline ending database txnId turn).2 =
      (Turn.next c.selector .load turn).2 := fun _ => rfl
  refine ⟨⟨?abort_ok, ?commit_ok, ?refused, hfailed, hrequests, Client.first_counterpart⟩,
    (hturn .commit).trans (hturn .abort).symm, fun _ _ => TxnReply.status_spelled⟩
  case abort_ok =>
    rw [Client.replay_endTxn_ok_iff (hreplay .abort)]
    exact exists_congr fun r => and_iff_left fun h => by cases h
  case commit_ok =>
    rw [Client.replay_endTxn_ok_iff (hreplay .commit)]
    refine exists_congr fun r => and_congr_right fun hr => ?_
    rw [hr.isRead.text_eq_iff]
    exact forall_prop_of_true rfl
  case refused =>
    intro r hr htext
    have hstatus : r.status ≠ .success := fun h => htext (hr.isRead.text_eq_iff.2 h)
    rw [Client.replay_endTxn_eq (hreplay .commit) hr]
    exact ⟨_, if_neg hstatus, rfl⟩

namespace Sample

def lateBody : String := "\x7b\"Status\":\"Publish Timeout\",\"TxnId\":7\x7d"

/-- A frontend sends the request on, and a backend answers that the rows may become visible late. -/
def latePublish : Nat → Outcome
  | 0 => .ok ⟨307, [("location", "http://be1:8040/api/logs/_stream_load_2pc")], .ok ByteArray.empty⟩
  | _ => .ok ⟨200, [], .ok lateBody.toUTF8⟩

/-- What comes of ending transaction 7 so. -/
def lateEnd (ending : Client.Ending) : Except Fault Unit × List Request :=
  (client.endTxn none ending "logs" 7 turn).1.against latePublish

theorem length_lateEnd (ending : Client.Ending) : (lateEnd ending).2.length = 2 := by
  cases ending <;> decide +kernel

def lateReply : TxnReply where
  status := .publishTimeout
  txnId := 7
  existingTxnId := none
  label := none
  message := ""

theorem parse_lateBody : TxnReply.parse lateBody = .ok lateReply := by decide +kernel

theorem controlReply_latePublish : ControlReply (Exchange.first latePublish 2) lateReply := by
  have htext : Reply.text ⟨200, [], .ok lateBody.toUTF8⟩ = .ok lateBody := by decide +kernel
  have hlast : (Exchange.first latePublish 2).getLast? =
      some (.ok ⟨200, [], .ok lateBody.toUTF8⟩) := rfl
  exact ⟨200, lateBody, ⟨_, hlast, rfl, rfl, htext⟩, by decide, by decide, parse_lateBody⟩

end Sample

/-- The engine sends both on to a backend that has not published yet: the commit fails, the abort
does not. -/
theorem commit_differs_in_refusal_of_latePublish :
    (∃ f, (Sample.lateEnd .commit).1 = .error f ∧ f.kind = .database) ∧
      (Sample.lateEnd .abort).1 = .ok () ∧
      (Document.parse Sample.lateBody).1.Gives 0 "Status" (.word "Publish Timeout") := by
  obtain ⟨hends, -, hspelled⟩ :=
    commit_differs_in_refusal Sample.client none "logs" 7 Sample.turn Sample.latePublish
  have hends : Client.EndsApart Sample.latePublish (Sample.lateEnd .commit)
      (Sample.lateEnd .abort) := hends
  have htext : Sample.lateReply.status.text = "Publish Timeout" := rfl
  have hspelled := hspelled Sample.lateBody Sample.lateReply Sample.parse_lateBody
  rw [htext] at hspelled
  have hreply : ∀ ending, ControlReply
      (Exchange.first Sample.latePublish (Sample.lateEnd ending).2.length) Sample.lateReply := by
    intro ending
    rw [Sample.length_lateEnd]
    exact Sample.controlReply_latePublish
  -- the document itself does not matter from here on
  generalize (Document.parse Sample.lateBody).1 = d at hspelled ⊢
  refine ⟨hends.refused _ (hreply .commit) ?_, hends.abort_ok.2 ⟨_, hreply .abort⟩,
    hspelled.resolve_right ?_⟩
  · rw [htext]
    decide
  · rintro ⟨h, -⟩
    exact absurd h (by decide)

end StoreGate
