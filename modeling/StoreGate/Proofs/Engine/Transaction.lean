import StoreGate.Engine.Transaction
import StoreGate.Proofs.Http.Replay

/-!
# What the engine has said when a control request succeeds

A begin, a commit or an abort that succeeds was answered: redirects aside, its last outcome is a
reply of class 2xx whose body spells a control reply. What that reply has to say differs.

* `Client.replay_control_ok` — the common part, for any control request.
* `Client.replay_beginTxn_ok` — the reply grants the transaction under the label that was asked for.
* `Client.replay_endTxn_ok` — a commit was answered with success; an abort was answered.
* `Client.replay_beginTxn_eq`, `Client.replay_endTxn_eq` — conversely, what a call gives depends on
  nothing but its reply.
-/

namespace StoreGate

/-- The last of the outcomes is a reply of class 2xx that spells `r`. -/
def ControlReply (outcomes : List Outcome) (r : TxnReply) : Prop :=
  ∃ status body, AnsweredBy outcomes status body ∧ 200 ≤ status ∧ status < 300 ∧
    TxnReply.parse body = .ok r

theorem not_controlReply_nil (r : TxnReply) : ¬ ControlReply [] r := by
  rintro ⟨status, body, h, -⟩
  exact not_answeredBy_nil status body h

namespace TxnReply

/-- A fresh transaction goes by the label that was asked for. -/
theorem label_of_fresh {r : TxnReply} {label : String} {o : BeginOutcome}
    (h : r.beginOutcome label = .ok o) (hfresh : o.reused = false) : o.label = label := by
  unfold beginOutcome at h
  split at h
  · cases h
    rfl
  · cases h
    cases hfresh
  · cases h
    cases hfresh
  · cases h

end TxnReply

namespace Client

variable {c : Client} {deadline : Option Span} {outcomes : List Outcome}

/-! ## Control requests -/

theorem controlOutcome_ok {purpose : String} {status : Nat} {body : String} {r : TxnReply}
    (h : controlOutcome purpose status body = .ok r) :
    200 ≤ status ∧ status < 300 ∧ TxnReply.parse body = .ok r := by
  unfold controlOutcome at h
  split at h
  · cases h
  · next hstatus =>
    refine ⟨by omega, by omega, ?_⟩
    cases hparse : TxnReply.parse body with
    | error e =>
        rw [hparse] at h
        cases h
    | ok r' =>
        rw [hparse] at h
        cases h
        rfl

/-- **A control request that gives a reply** was answered with it. -/
theorem replay_control_ok {target purpose : String} {fields : List (String × String)}
    {r : TxnReply}
    (h : (c.control deadline target fields purpose).replay outcomes = some (.ok r)) :
    ControlReply outcomes r := by
  unfold control at h
  split at h
  · obtain ⟨-, h⟩ := Exchange.replay_done_eq_some.1 h
    cases h
  · split at h
    · obtain ⟨-, h⟩ := Exchange.replay_done_eq_some.1 h
      cases h
    · obtain ⟨answer, hanswer, hr⟩ := Exchange.replay_map.1 h
      cases answer with
      | error f => cases hr
      | ok answer =>
          obtain ⟨status, body⟩ := answer
          exact ⟨status, body, Redirect.replay_follow_ok hanswer, controlOutcome_ok hr⟩

/-- **A control request gives the reply that it is answered with.** -/
theorem replay_control_eq {target purpose : String} {fields : List (String × String)}
    {result : Except Fault TxnReply} {r : TxnReply}
    (h : (c.control deadline target fields purpose).replay outcomes = some result)
    (hr : ControlReply outcomes r) : result = .ok r := by
  unfold control at h
  split at h
  · obtain ⟨rfl, -⟩ := Exchange.replay_done_eq_some.1 h
    exact absurd hr (not_controlReply_nil r)
  · split at h
    · obtain ⟨rfl, -⟩ := Exchange.replay_done_eq_some.1 h
      exact absurd hr (not_controlReply_nil r)
    · obtain ⟨answer, hanswer, rfl⟩ := Exchange.replay_map.1 h
      obtain ⟨status, body, hlast, hlow, hhigh, hparse⟩ := hr
      obtain rfl := Redirect.replay_follow_of_answeredBy hanswer hlast
      have hclass : ¬ (status < 200 ∨ 300 ≤ status) := by omega
      show controlOutcome purpose status body = .ok r
      rw [controlOutcome, if_neg hclass, hparse]
      rfl

/-! ## Begin -/

/-- **A begin that succeeds** was asked for with a timeout within the limit, and its reply grants
the transaction. -/
theorem replay_beginTxn_ok {database table label : String} {timeoutSecs : Nat} {turn : Turn}
    {o : BeginOutcome}
    (h : (c.beginTxn deadline database table label timeoutSecs turn).1.replay outcomes =
      some (.ok o)) :
    timeoutSecs ≤ maxTimeoutSecs ∧
      ∃ r, ControlReply outcomes r ∧ r.beginOutcome label = .ok o := by
  unfold beginTxn at h
  split at h
  · obtain ⟨-, h⟩ := Exchange.replay_done_eq_some.1 h
    cases h
  · next hlimit =>
    obtain ⟨reply, hreply, ho⟩ := Exchange.replay_map.1 h
    cases reply with
    | error f => cases ho
    | ok r => exact ⟨Nat.not_lt.1 hlimit, r, replay_control_ok hreply, ho⟩

/-- **What a begin gives is what its reply says.** -/
theorem replay_beginTxn_eq {database table label : String} {timeoutSecs : Nat} {turn : Turn}
    {result : Except Fault BeginOutcome} {r : TxnReply}
    (h : (c.beginTxn deadline database table label timeoutSecs turn).1.replay outcomes =
      some result) (hr : ControlReply outcomes r) : result = r.beginOutcome label := by
  unfold beginTxn at h
  split at h
  · obtain ⟨rfl, -⟩ := Exchange.replay_done_eq_some.1 h
    exact absurd hr (not_controlReply_nil r)
  · obtain ⟨reply, hreply, rfl⟩ := Exchange.replay_map.1 h
    rw [replay_control_eq hreply hr]
    rfl

/-! ## Commit and abort -/

theorem Ending.state_injective {a b : Ending} (h : a.state = b.state) : a = b := by
  cases a <;> cases b <;> simp_all [state]

theorem Ending.state_ne_begun (a : Ending) : a.state ≠ .begun := by
  cases a <;> simp [state]

/-- **An end that succeeds** was answered; a commit was answered with success. -/
theorem replay_endTxn_ok {ending : Ending} {database : String} {txnId : Int} {turn : Turn}
    (h : (c.endTxn deadline ending database txnId turn).1.replay outcomes = some (.ok ())) :
    ∃ r, ControlReply outcomes r ∧ (ending = .commit → r.status = .success) := by
  obtain ⟨reply, hreply, hend⟩ := Exchange.replay_map.1 h
  cases reply with
  | error f => cases hend
  | ok r =>
      refine ⟨r, replay_control_ok hreply, ?_⟩
      rintro rfl
      by_cases hs : r.status = .success
      · exact hs
      · have hfail : r.commitOutcome txnId = .ok () := hend
        rw [TxnReply.commitOutcome, if_neg hs] at hfail
        cases hfail

/-- **What an end gives is what its reply says.** -/
theorem replay_endTxn_eq {ending : Ending} {database : String} {txnId : Int} {turn : Turn}
    {result : Except Fault Unit} {r : TxnReply}
    (h : (c.endTxn deadline ending database txnId turn).1.replay outcomes = some result)
    (hr : ControlReply outcomes r) : result = ending.outcome txnId r := by
  obtain ⟨reply, hreply, rfl⟩ := Exchange.replay_map.1 h
  rw [replay_control_eq hreply hr]
  rfl

/-- **Whether an end succeeds depends on its replies alone**, not on the frontend that it is sent to
nor on the database. -/
theorem replay_endTxn_ok_iff {ending : Ending} {database : String} {txnId : Int} {turn : Turn}
    {result : Except Fault Unit}
    (h : (c.endTxn deadline ending database txnId turn).1.replay outcomes = some result) :
    result = .ok () ↔ ∃ r, ControlReply outcomes r ∧ (ending = .commit → r.status = .success) := by
  constructor
  · rintro rfl
    exact replay_endTxn_ok h
  · rintro ⟨r, hr, hsuccess⟩
    rw [replay_endTxn_eq h hr]
    cases ending with
    | commit => exact if_pos (hsuccess rfl)
    | abort => rfl

end Client

end StoreGate
