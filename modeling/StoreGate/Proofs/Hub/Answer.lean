import Mathlib.Tactic.Choose
import StoreGate.Hub.Service
import StoreGate.Proofs.Txn.Traffic

/-!
# What an answer comes from

A request is answered at once, or it spells a command and the answer is what the command comes to.

* `Session.against_map_run`, `Session.sent_call_then` — operations whose requests are those of
  another operation, or of one call.
* `Hub.answer_cases` — what is sent, what becomes of the session and which status is given.
-/

namespace StoreGate

namespace Session

variable {α β : Type}

/-- What is only computed from the end of an operation. -/
theorem against_map_run {x : SessionM α} (g : α → β) (s : Session) (network : Nat → Outcome) :
    ((do return g (← x) : SessionM β).run s).against network =
      ((g ((x.run s).against network).1.1, ((x.run s).against network).1.2),
        ((x.run s).against network).2) :=
  Exchange.against_map (x.run s) (fun p => (g p.1, p.2)) network

/-- A call, and then what only the session has to do with. -/
theorem against_call_then {x : Call α} {f : Except Fault α → SessionM β}
    {g : Except Fault α → Session → β × Session} (h : ∀ r s, (f r).run s = .done (g r s))
    (s : Session) (network : Nat → Outcome) :
    ((call x >>= f).run s).against network =
      (g ((x s.turn).1.against network).1 { s with turn := (x s.turn).2 },
        ((x s.turn).1.against network).2) := by
  have hrun : (call x >>= f).run s =
      (x s.turn).1 >>= fun r => .done (g r { s with turn := (x s.turn).2 }) := by
    rw [StateT.run_bind]
    show ((x s.turn).1 >>= fun r => Exchange.done (r, { s with turn := (x s.turn).2 })) >>= _ = _
    rw [Exchange.bind_assoc]
    exact congrArg _ (funext fun r => h r _)
  rw [hrun, Exchange.against_map]

/-- What only the session has to do with sends nothing. -/
theorem sent_call_then {x : Call α} {f : Except Fault α → SessionM β}
    (h : ∀ r s, ∃ p, (f r).run s = .done p) (s : Session) (network : Nat → Outcome) :
    (((call x >>= f).run s).against network).2 = ((x s.turn).1.against network).2 := by
  choose g hg using h
  rw [against_call_then hg]

theorem sent_call (x : Call α) (s : Session) (network : Nat → Outcome) :
    (((call x).run s).against network).2 = ((x s.turn).1.against network).2 := by
  rw [← bind_pure (call x)]
  exact sent_call_then (fun r s => ⟨(r, s), rfl⟩) s network

end Session

namespace Hub

/-- A request that spells no command is rejected at once. -/
theorem answer_of_error {h : Hub} {m : Moment} {r : HubRequest} {rejection : Rejection}
    (hmethod : r.method ≠ Resource.optionsMethod) (hcommand : Command.ofRequest r = .error rejection)
    (s : Session) (network : Nat → Outcome) :
    ((h.answer m r).run s).against network = ((⟨rejection.status, none⟩, s), []) := by
  rw [answer, if_neg hmethod, hcommand]
  rfl

/-- An answer to a request that spells a command sends what the command sends. -/
theorem sent_answer {h : Hub} {m : Moment} {r : HubRequest} {command : Command}
    (hmethod : r.method ≠ Resource.optionsMethod) (hcommand : Command.ofRequest r = .ok command)
    (s : Session) (network : Nat → Outcome) : (((h.answer m r).run s).against network).2 =
      (((h.perform m command).run s).against network).2 := by
  rw [answer, if_neg hmethod, hcommand]
  dsimp only
  rw [Session.against_map_run fun outcome =>
    if r.method = Resource.headMethod then { HubReply.ofOutcome outcome with body := none }
    else HubReply.ofOutcome outcome]

/-- **A request is answered at once, or by a command**: then the answer sends what the command
sends, and the session and the status are those that the command leads to. -/
theorem answer_cases {h : Hub} {m : Moment} {r : HubRequest} {s s' : Session}
    {network : Nat → Outcome} {reply : HubReply} {sent : List Request}
    (hanswer : ((h.answer m r).run s).against network = ((reply, s'), sent)) :
    (sent = [] ∧ s' = s) ∨
      ∃ command outcome, Command.ofRequest r = .ok command ∧
        ((h.perform m command).run s).against network = ((outcome, s'), sent) ∧
        reply.status = (HubReply.ofOutcome outcome).status := by
  unfold answer at hanswer
  split at hanswer
  · cases hanswer
    exact .inl ⟨rfl, rfl⟩
  · split at hanswer
    · cases hanswer
      exact .inl ⟨rfl, rfl⟩
    · next command hcommand =>
      rw [Session.against_map_run fun outcome =>
        if r.method = Resource.headMethod then { HubReply.ofOutcome outcome with body := none }
        else HubReply.ofOutcome outcome] at hanswer
      obtain ⟨hend, hsent⟩ := Prod.mk.inj hanswer
      obtain ⟨hreply, hsession⟩ := Prod.mk.inj hend
      refine .inr ⟨command, _, hcommand, Prod.ext (Prod.ext rfl hsession) hsent, ?_⟩
      rw [← hreply]
      split <;> rfl

end Hub

/-! ## A server to try requests on -/

namespace Sample

/-- A server with one frontend. -/
def hub : Hub := ⟨HubConfig.standard, (coordinator 0).client⟩

def moment : Moment := ⟨⟨1714521600, 0⟩, 5, Uuid.random⟩

end Sample

end StoreGate
