import StoreGate.Proofs.Except
import StoreGate.Proofs.Http.Replay

/-!
# Exchanges in lockstep

Two exchanges that differ in little can be told side by side, as long as the same outcomes lead both
on or end both. Whatever the network, they send as many requests then, one like the other.

* `Exchange.Lockstep` — two exchanges that go on together, with what holds of each pair of requests
  and of the two ends.
* `Exchange.Lockstep.against` — so it is on every network.
* `Redirect.follow_lockstep` — requests that are sent for different purposes to addresses that go
  together are redirected together.
-/

namespace StoreGate

namespace Exchange

variable {α β α' β' : Type}

/-- Both exchanges are done, or both send a request and go on together whatever comes of it. -/
inductive Lockstep (Q : Request → Request → Prop) (R : α → β → Prop) :
    Exchange α → Exchange β → Prop
  | done {a : α} {b : β} (h : R a b) : Lockstep Q R (.done a) (.done b)
  | send {p q : Request} {next : Outcome → Exchange α} {next' : Outcome → Exchange β} (h : Q p q)
      (hnext : ∀ outcome, Lockstep Q R (next outcome) (next' outcome)) :
      Lockstep Q R (.send p next) (.send q next')

namespace Lockstep

variable {Q : Request → Request → Prop} {R : α → β → Prop} {x : Exchange α} {y : Exchange β}

/-- What is only computed from the ends does not part two exchanges. -/
theorem map {S : α' → β' → Prop} {f : α → α'} {g : β → β'} (h : Lockstep Q R x y)
    (hfg : ∀ a b, R a b → S (f a) (g b)) :
    Lockstep Q S (x >>= fun a => .done (f a)) (y >>= fun b => .done (g b)) := by
  induction h with
  | done h => exact .done (hfg _ _ h)
  | send h _ ih => exact .send h ih

/-- **On every network**, the ends go together, and so do the requests, one by one. -/
theorem against (h : Lockstep Q R x y) (network : Nat → Outcome) :
    R (x.against network).1 (y.against network).1 ∧
      List.Forall₂ Q (x.against network).2 (y.against network).2 := by
  induction h generalizing network with
  | done h => exact ⟨h, .nil⟩
  | send h _ ih =>
      obtain ⟨hends, hsent⟩ := ih (network 0) (later network)
      rw [against_send, against_send]
      exact ⟨hends, .cons h hsent⟩

end Lockstep

end Exchange

/-- The requests are the same but for their addresses, which go together. -/
structure Request.Like (A : Url → Url → Prop) (p q : Request) : Prop where
  url : A p.url q.url
  elsewhere : p = { q with url := p.url }

/-- The faults are of one kind, whatever their texts. -/
def Fault.Like (f g : Fault) : Prop := f.kind = g.kind

namespace Redirect

/-- Both hops end the request with results that go together, or both lead on to addresses that do. -/
inductive HopsAlike (A : Url → Url → Prop) : Hop → Hop → Prop
  | finished {r r' : Except Fault (Nat × String)} (h : ExceptRel Fault.Like Eq r r') :
      HopsAlike A (.finished r) (.finished r')
  | next {u v : Url} (h : A u v) : HopsAlike A (.next u) (.next v)

section

variable {A : Url → Url → Prop}
  (hjoin : ∀ u v, A u v → ∀ reference, ExceptRel Eq A (u.join reference) (v.join reference))
  {errand errand' : Errand} {u v : Url}

include hjoin

/-- **One outcome** ends both requests or leads both on. -/
theorem hop_alike (h : A u v) (outcome : Outcome) :
    HopsAlike A (hop errand u outcome) (hop errand' v outcome) := by
  cases outcome with
  | error f => exact .finished (.error rfl)
  | ok reply =>
      unfold hop
      dsimp only
      split
      · cases reply.location? with
        | none => exact .finished (.error rfl)
        | some location =>
            dsimp only
            have hnext := hjoin u v h location
            generalize u.join location = x, v.join location = y at hnext
            cases hnext with
            | error _ => exact .finished (.error rfl)
            | ok h => exact .next h
      · cases reply.text with
        | error f => exact .finished (.error rfl)
        | ok body => exact .finished (.ok rfl)

/-- **Requests for different purposes go together** as long as hops are left. -/
theorem follow_lockstep (errand : Errand) (purpose : String) (hops : Nat) (h : A u v) :
    Exchange.Lockstep (Request.Like A) (ExceptRel Fault.Like Eq) (follow errand hops u)
      (follow { errand with purpose := purpose } hops v) := by
  induction hops generalizing u v with
  | zero => exact .done (.error rfl)
  | succ hops ih =>
      refine .send ⟨h, rfl⟩ fun outcome => ?_
      have hhop : HopsAlike A (hop errand u outcome)
          (hop { errand with purpose := purpose } v outcome) := hop_alike hjoin h outcome
      generalize hop errand u outcome = x,
        hop { errand with purpose := purpose } v outcome = y at hhop
      cases hhop with
      | finished hresults => exact .done hresults
      | next hnext => exact ih hnext

end

end Redirect

end StoreGate
