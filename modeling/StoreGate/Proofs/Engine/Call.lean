import StoreGate.Engine.Query
import StoreGate.Proofs.Engine.Transaction
import StoreGate.Proofs.Except

/-!
# What a call makes of its last reply

Statements, loads, begins and ends are sent in different ways, but what each of them gives is read
from one reply: the last that came, by its status and its body.

* `EngineCall` — a call of a client, with all that it is asked for.
* `EngineCall.read` — what the call makes of a status and a body.
* `EngineCall.replay_carry_ok_iff` — a call succeeds exactly with what it makes of its last reply.
-/

namespace StoreGate

/-- A call of a client to the engine. -/
inductive EngineCall where
  | execute (database : Option String) (sql : String)
  | load (database table : String) (payload : ByteArray) (options : LoadOptions)
  | begin (database table label : String) (timeoutSecs : Nat)
  | conclude (ending : Client.Ending) (database : String) (txnId : Int)

namespace EngineCall

/-- What a call gives if it succeeds. -/
def Answer : EngineCall → Type
  | execute _ _ => QueryResult
  | load _ _ _ _ => LoadVerdict
  | begin _ _ _ _ => BeginOutcome
  | conclude _ _ _ => Unit

/-- Makes a call. -/
def carry (c : Client) (deadline : Option Span) : (call : EngineCall) → Call call.Answer
  | execute database sql => c.executeIn deadline database sql
  | load database table payload options => c.load deadline database table payload options
  | begin database table label timeoutSecs => c.beginTxn deadline database table label timeoutSecs
  | conclude ending database txnId => c.endTxn deadline ending database txnId

/-- What a call makes of the status and the body of a reply. -/
def read : (call : EngineCall) → Nat → String → Except Fault call.Answer
  | execute _ _, status, body => QueryReply.read status body
  | load _ _ _ _, status, body => Client.loadOutcome status body
  | begin _ _ label _, status, body =>
    Client.controlOutcome Client.beginPurpose status body >>= fun r => r.beginOutcome label
  | conclude ending _ txnId, status, body =>
    Client.controlOutcome ending.purpose status body >>= ending.outcome txnId

end EngineCall

/-! ## What is read from an answer -/

theorem QueryReply.read_eq_ok {status : Nat} {body : String} {result : QueryResult} :
    read status body = .ok result ↔
      status = 200 ∧ ∃ reply, Document.decodeText decode body = .ok reply ∧ reply.code = 0 ∧
        (reply.data.getD default).result = result := by
  unfold read
  by_cases hstatus : status = 200
  · cases hdecode : Document.decodeText decode body with
    | error e => simp [hstatus]
    | ok reply =>
        by_cases hcode : reply.code = 0
        · simp [hstatus, hcode]
        · simp [hstatus, hcode]
  · simp [hstatus]

namespace Client

section Reading

variable {α : Type} {outcomes : List Outcome} {read : Nat → String → Except Fault α}
  {result : Except Fault α} {a : α}

/-- What fails before anything is sent has no reply to read. -/
theorem replay_refused_ok_iff {f : Fault}
    (h : (Exchange.done (.error f : Except Fault α)).replay outcomes = some result) :
    result = .ok a ↔
      ∃ status body, AnsweredBy outcomes status body ∧ read status body = .ok a := by
  obtain ⟨rfl, rfl⟩ := Exchange.replay_done_eq_some.1 h
  refine iff_of_false (fun h => by cases h) ?_
  rintro ⟨status, body, h, -⟩
  exact not_answeredBy_nil status body h

/-- **A followed request that is only read** succeeds exactly with what is read from its answer. -/
theorem replay_putFollowing_ok_iff {errand : Redirect.Errand} {url : Url}
    (h : (Redirect.putFollowing errand url >>= fun answer =>
      .done (answer >>= fun p => read p.1 p.2)).replay outcomes = some result) :
    result = .ok a ↔
      ∃ status body, AnsweredBy outcomes status body ∧ read status body = .ok a := by
  obtain ⟨answer, hanswer, rfl⟩ := Exchange.replay_map.1 h
  constructor
  · intro hok
    obtain ⟨p, rfl, ha⟩ := exceptBind_eq_ok.1 hok
    exact ⟨p.1, p.2, Redirect.replay_follow_ok hanswer, ha⟩
  · rintro ⟨status, body, hlast, hok⟩
    rw [Redirect.replay_follow_of_answeredBy hanswer hlast]
    exact hok

end Reading

variable {c : Client} {deadline : Option Span} {outcomes : List Outcome} {turn : Turn}

/-! ## Statements -/

/-- A statement takes nothing from a reply that is a redirect. -/
theorem queryOutcome_eq_ok {outcome : Outcome} {rows : QueryResult} :
    queryOutcome outcome = .ok rows ↔
      ∃ status body, AnsweredBy [outcome] status body ∧ QueryReply.read status body = .ok rows := by
  constructor
  · intro hok
    cases outcome with
    | error f => cases hok
    | ok reply =>
        unfold queryOutcome at hok
        dsimp only at hok
        split at hok
        · cases hok
        · next body htext =>
          obtain ⟨hstatus, -⟩ := QueryReply.read_eq_ok.1 hok
          have hredirect : reply.isRedirect = false := by simp [Reply.isRedirect, hstatus]
          exact ⟨reply.status, body, ⟨reply, rfl, hredirect, rfl, htext⟩, hok⟩
  · rintro ⟨status, body, ⟨reply, hlast, -, rfl, htext⟩, hok⟩
    obtain rfl := Option.some.inj hlast
    simp only [queryOutcome, htext, hok]

/-- **A statement gives what its reply says.** -/
theorem replay_executeIn_ok_iff {database : Option String} {sql : String}
    {result : Except Fault QueryResult} {rows : QueryResult}
    (h : (c.executeIn deadline database sql turn).1.replay outcomes = some result) :
    result = .ok rows ↔
      ∃ status body, AnsweredBy outcomes status body ∧ QueryReply.read status body = .ok rows := by
  unfold executeIn at h
  split at h
  · exact replay_refused_ok_iff h
  · unfold ask queryExchange at h
    dsimp only at h
    split at h
    · exact replay_refused_ok_iff h
    · cases outcomes with
      | nil => exact absurd h (by simp)
      | cons outcome rest =>
          obtain ⟨rfl, rfl⟩ := Exchange.replay_done_eq_some.1 h
          exact queryOutcome_eq_ok

/-! ## Loads -/

theorem loadOutcome_eq_ok {status : Nat} {body : String} {v : LoadVerdict} :
    loadOutcome status body = .ok v ↔
      LoadVerdict.parse body = .ok v ∧ v.isSuccessEquivalent = true := by
  unfold loadOutcome
  cases hparse : LoadVerdict.parse body with
  | error e => simp
  | ok w =>
      by_cases hw : w.isSuccessEquivalent = true
      · simp only [hw, if_true, Except.ok.injEq]
        constructor
        · rintro rfl
          exact ⟨rfl, hw⟩
        · exact fun h => h.1
      · simp only [hw, Except.ok.injEq]
        constructor
        · intro h
          cases h
        · rintro ⟨rfl, h⟩
          exact absurd h hw

/-- **A load gives what its last reply says.** -/
theorem replay_load_ok_iff {database table : String} {payload : ByteArray} {o : LoadOptions}
    {result : Except Fault LoadVerdict} {v : LoadVerdict}
    (h : (c.load deadline database table payload o turn).1.replay outcomes = some result) :
    result = .ok v ↔
      ∃ status body, AnsweredBy outcomes status body ∧ loadOutcome status body = .ok v := by
  unfold load at h
  split at h
  · exact replay_refused_ok_iff h
  · cases hheaders : loadHeaders o with
    | error f =>
        rw [hheaders] at h
        exact replay_refused_ok_iff h
    | ok headers =>
        rw [hheaders] at h
        unfold ask loadExchange at h
        dsimp only at h
        split at h
        · exact replay_refused_ok_iff h
        · exact replay_putFollowing_ok_iff h

/-! ## Control requests -/

theorem controlOutcome_eq_ok {purpose : String} {status : Nat} {body : String} {r : TxnReply} :
    controlOutcome purpose status body = .ok r ↔
      200 ≤ status ∧ status < 300 ∧ TxnReply.parse body = .ok r := by
  refine ⟨controlOutcome_ok, ?_⟩
  rintro ⟨hlow, hhigh, hparse⟩
  have hclass : ¬ (status < 200 ∨ 300 ≤ status) := by omega
  rw [controlOutcome, if_neg hclass, hparse]
  rfl

/-- **A control request that is read further** succeeds exactly with what is read from its answer.
-/
theorem replay_control_read_ok_iff {α : Type} {target purpose : String}
    {fields : List (String × String)} {read : TxnReply → Except Fault α} {result : Except Fault α}
    {a : α}
    (h : (c.control deadline target fields purpose >>= fun reply =>
      .done (reply >>= read)).replay outcomes = some result) :
    result = .ok a ↔
      ∃ status body, AnsweredBy outcomes status body ∧
        (controlOutcome purpose status body >>= read) = .ok a := by
  obtain ⟨reply, hreply, rfl⟩ := Exchange.replay_map.1 h
  constructor
  · intro hok
    obtain ⟨r, rfl, ha⟩ := exceptBind_eq_ok.1 hok
    obtain ⟨status, body, hlast, hr⟩ := replay_control_ok hreply
    exact ⟨status, body, hlast, exceptBind_eq_ok.2 ⟨r, controlOutcome_eq_ok.2 hr, ha⟩⟩
  · rintro ⟨status, body, hlast, hok⟩
    obtain ⟨r, hr, ha⟩ := exceptBind_eq_ok.1 hok
    rw [replay_control_eq hreply ⟨status, body, hlast, controlOutcome_ok hr⟩]
    exact ha

end Client

namespace EngineCall

variable {c : Client} {deadline : Option Span} {outcomes : List Outcome} {turn : Turn}

/-- **A call gives what it makes of its last reply**, and nothing else makes it succeed. -/
theorem replay_carry_ok_iff {call : EngineCall} {result : Except Fault call.Answer}
    {answer : call.Answer}
    (h : (call.carry c deadline turn).1.replay outcomes = some result) :
    result = .ok answer ↔
      ∃ status body, AnsweredBy outcomes status body ∧ call.read status body = .ok answer := by
  cases call with
  | execute database sql => exact Client.replay_executeIn_ok_iff h
  | load database table payload options => exact Client.replay_load_ok_iff h
  | begin database table label timeoutSecs =>
      unfold carry Client.beginTxn at h
      dsimp only at h
      split at h
      · exact Client.replay_refused_ok_iff h
      · exact Client.replay_control_read_ok_iff h
  | conclude ending database txnId => exact Client.replay_control_read_ok_iff h

end EngineCall

end StoreGate
