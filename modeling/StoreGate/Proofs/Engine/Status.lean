import StoreGate.Proofs.Engine.Call
import StoreGate.Proofs.Txn.Traffic

/-!
# Statuses behind a success

A call that succeeds has had a reply, and the status of that reply is meant to be one of class 2xx.
Statements and control requests look at the status before anything else. A load looks at the verdict
in the body, so that a verdict of success hides a status that says otherwise.

* `EngineCall.Hides` — the calls and replies of which that is so.
* `success_status_iff` — a call that succeeds had a status of class 2xx exactly if it hides nothing.
* `failed_status_hidden` — a load that the engine answered with status 500, and that succeeds.
-/

namespace StoreGate

/-- A status of class 2xx. -/
def HttpStatus.IsSuccess (status : Nat) : Prop := 200 ≤ status ∧ status < 300

instance (status : Nat) : Decidable (HttpStatus.IsSuccess status) :=
  inferInstanceAs (Decidable (_ ∧ _))

/-! ## The last reply -/

/-- The last reply that came. -/
def lastReply? (outcomes : List Outcome) : Option Reply :=
  (outcomes.filterMap Except.toOption).getLast?

/-- The reply that answers is the last one that came. -/
theorem AnsweredBy.lastReply?_eq {outcomes : List Outcome} {status : Nat} {body : String}
    (h : AnsweredBy outcomes status body) :
    ∃ reply, lastReply? outcomes = some reply ∧ reply.status = status := by
  obtain ⟨reply, hlast, -, hstatus, -⟩ := h
  obtain ⟨before, rfl⟩ := List.getLast?_eq_some_iff.1 hlast
  refine ⟨reply, ?_, hstatus⟩
  rw [lastReply?, List.filterMap_append]
  exact List.getLast?_concat

/-! ## One reply -/

namespace EngineCall

/-- The status of a reply says that the load failed, and the verdict in the body says that it
landed. -/
def Hides : EngineCall → Nat → String → Prop
  | load _ _ _ _, status, body =>
    ¬ HttpStatus.IsSuccess status ∧
      ∃ v, LoadVerdict.parse body = .ok v ∧ v.isSuccessEquivalent = true
  | _, _, _ => False

/-- **One reply**: what it hides is a failed status of a call that succeeds. -/
theorem hides_iff (call : EngineCall) (status : Nat) (body : String) :
    call.Hides status body ↔
      ¬ HttpStatus.IsSuccess status ∧ ∃ answer, call.read status body = .ok answer := by
  cases call with
  | execute database sql =>
      refine iff_of_false id ?_
      rintro ⟨hstatus, rows, hread⟩
      obtain ⟨rfl, -⟩ := QueryReply.read_eq_ok.1 hread
      exact hstatus (by decide)
  | load database table payload options =>
      refine and_congr_right fun _ => exists_congr fun v => ?_
      exact Client.loadOutcome_eq_ok.symm
  | begin database table label timeoutSecs =>
      refine iff_of_false id ?_
      rintro ⟨hstatus, o, hread⟩
      obtain ⟨r, hr, -⟩ := exceptBind_eq_ok.1 hread
      exact hstatus ⟨(Client.controlOutcome_ok hr).1, (Client.controlOutcome_ok hr).2.1⟩
  | conclude ending database txnId =>
      refine iff_of_false id ?_
      rintro ⟨hstatus, o, hread⟩
      obtain ⟨r, hr, -⟩ := exceptBind_eq_ok.1 hread
      exact hstatus ⟨(Client.controlOutcome_ok hr).1, (Client.controlOutcome_ok hr).2.1⟩

end EngineCall

/-! ## Whole calls -/

/-- **A success stands on a status of class 2xx, unless a load hides another.** However a call is
made and whatever its requests come to: the last reply behind a success of the call has a status of
class 2xx, except exactly where the call is a load and its last outcome is a reply, no redirect, of
another status whose body spells a verdict of success. -/
theorem success_status_iff {c : Client} {deadline : Option Span} {turn : Turn} {call : EngineCall}
    {outcomes : List Outcome} {result : Except Fault call.Answer}
    (h : (call.carry c deadline turn).1.replay outcomes = some result) :
    (∀ answer, result = .ok answer →
        ∃ reply, lastReply? outcomes = some reply ∧ HttpStatus.IsSuccess reply.status) ↔
      ¬ ∃ status body, AnsweredBy outcomes status body ∧ call.Hides status body := by
  constructor
  · rintro hsuccess ⟨status, body, hlast, hhides⟩
    obtain ⟨hstatus, answer, hread⟩ := (call.hides_iff status body).1 hhides
    have hok : result = .ok answer :=
      (EngineCall.replay_carry_ok_iff h).2 ⟨status, body, hlast, hread⟩
    obtain ⟨reply, hreply, hclass⟩ := hsuccess answer hok
    obtain ⟨reply', hreply', rfl⟩ := hlast.lastReply?_eq
    rw [← Option.some.inj (hreply.symm.trans hreply')] at hstatus
    exact hstatus hclass
  · intro hhides answer hok
    obtain ⟨status, body, hlast, hread⟩ := (EngineCall.replay_carry_ok_iff h).1 hok
    obtain ⟨reply, hreply, rfl⟩ := hlast.lastReply?_eq
    refine ⟨reply, hreply, ?_⟩
    by_contra hstatus
    exact hhides ⟨_, body, hlast, (call.hides_iff _ body).2 ⟨hstatus, answer, hread⟩⟩

namespace Sample

def client : Client := (coordinator 0).client

/-- A load of two rows. -/
def loadCall : EngineCall :=
  .load "logs" "app" "\x7b\"id\":1\x7d\n\x7b\"id\":2\x7d".toUTF8 LoadOptions.standard

/-- A frontend sends the load on to a backend, which answers with a verdict under a status. -/
def loadAnswered (status : Nat) (verdict : String) : List Outcome :=
  [.ok ⟨307, [("location", "http://be1:8040/api/logs/app/_stream_load")], .ok ByteArray.empty⟩,
    .ok ⟨status, [], .ok verdict.toUTF8⟩]

def landed : String := "\x7b\"Status\":\"Success\",\"TxnId\":7\x7d"

/-- The load succeeds under either status. -/
theorem replay_loadAnswered (status : Nat) (h : status ∈ [200, 500]) :
    ∃ verdict, (loadCall.carry client none turn).1.replay (loadAnswered status landed) =
      some (.ok verdict) := by
  have hok : ∀ status ∈ [200, 500], ((loadCall.carry client none turn).1.replay
      (loadAnswered status landed)).map Except.isOk = some true := by decide +kernel
  obtain ⟨result, hreplay, hresult⟩ := Option.map_eq_some_iff.1 (hok status h)
  obtain ⟨verdict, rfl⟩ := exists_ok_of_isOk hresult
  exact ⟨verdict, hreplay⟩

end Sample

/-- A load that is sent on and then lands. -/
theorem success_status_of_load :
    ∃ verdict, (Sample.loadCall.carry Sample.client none Sample.turn).1.replay
        (Sample.loadAnswered 200 Sample.landed) = some (.ok verdict) ∧
      ∃ reply, lastReply? (Sample.loadAnswered 200 Sample.landed) = some reply ∧
        HttpStatus.IsSuccess reply.status := by
  obtain ⟨verdict, hreplay⟩ := Sample.replay_loadAnswered 200 (by simp)
  refine ⟨verdict, hreplay, (success_status_iff hreplay).2 ?_ verdict rfl⟩
  rintro ⟨status, body, hlast, hstatus, -⟩
  obtain ⟨reply, hreply, rfl⟩ := hlast.lastReply?_eq
  obtain rfl := Option.some.inj hreply
  exact hstatus (by decide)

/-- **A load succeeds that the engine answered with status 500**, for the body spells a verdict of
success. -/
theorem failed_status_hidden :
    ∃ verdict, (Sample.loadCall.carry Sample.client none Sample.turn).1.replay
        (Sample.loadAnswered 500 Sample.landed) = some (.ok verdict) ∧
      ¬ ∃ reply, lastReply? (Sample.loadAnswered 500 Sample.landed) = some reply ∧
        HttpStatus.IsSuccess reply.status := by
  obtain ⟨verdict, hreplay⟩ := Sample.replay_loadAnswered 500 (by simp)
  refine ⟨verdict, hreplay, ?_⟩
  rintro ⟨reply, hreply, hstatus⟩
  obtain rfl := Option.some.inj hreply
  exact absurd hstatus (by decide)

end StoreGate
