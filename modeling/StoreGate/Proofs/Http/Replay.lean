import StoreGate.Http.Redirect

/-!
# Exchanges under given outcomes

An exchange leaves open what its requests come to. `Exchange.replay` closes it with a list of
outcomes, one for each request in the order of sending, and gives what the exchange comes to. A
statement about every list of outcomes is a statement about every server and every network.

* `Exchange.replay_bind` — the outcomes of two exchanges in a row are those of the first and then
  those of the second.
* `Exchange.run_popReply` — a replay is a run with a server that answers from the list.
* `Exchange.sent`, `Exchange.against` — the requests that an exchange sends; what it comes to on a
  network that never stops to answer.
* `Exchange.replay_first`, `Exchange.exists_replay` — every exchange comes to an end on every
  network, with the outcomes that come first there.
* `Redirect.replay_follow_ok`, `Redirect.replay_follow_of_answeredBy` — what a followed request
  gives stands in its last outcome, and nowhere else.
-/

namespace StoreGate

namespace Exchange

variable {α β : Type}

/-- What an exchange comes to when its requests come to the given outcomes in turn; nothing, if
there are too few of them or too many. -/
def replay : Exchange α → List Outcome → Option α
  | done a, [] => some a
  | done _, _ :: _ => none
  | send _ _, [] => none
  | send _ next, outcome :: rest => (next outcome).replay rest

@[simp] theorem replay_done_nil (a : α) : (done a).replay [] = some a := rfl

@[simp] theorem replay_send_nil (request : Request) (next : Outcome → Exchange α) :
    (send request next).replay [] = none := rfl

@[simp] theorem replay_send_cons (request : Request) (next : Outcome → Exchange α)
    (outcome : Outcome) (rest : List Outcome) :
    (send request next).replay (outcome :: rest) = (next outcome).replay rest := rfl

theorem replay_done_eq_some {a b : α} {outcomes : List Outcome} :
    (done a).replay outcomes = some b ↔ outcomes = [] ∧ a = b := by
  cases outcomes with
  | nil => simp
  | cons outcome rest => simp [replay]

/-- **Two exchanges in a row** divide the outcomes between them. -/
theorem replay_bind {x : Exchange α} {f : α → Exchange β} {outcomes : List Outcome} {b : β} :
    (x >>= f).replay outcomes = some b ↔
      ∃ before after a, outcomes = before ++ after ∧ x.replay before = some a ∧
        (f a).replay after = some b := by
  induction x generalizing outcomes with
  | done a =>
      constructor
      · intro h
        exact ⟨[], outcomes, a, rfl, rfl, h⟩
      · rintro ⟨before, after, a', rfl, h, h'⟩
        obtain ⟨rfl, rfl⟩ := replay_done_eq_some.1 h
        exact h'
  | send request next ih =>
      cases outcomes with
      | nil =>
          constructor
          · intro h
            exact absurd h (by simp)
          · rintro ⟨before, after, a, h, hx, -⟩
            obtain ⟨rfl, -⟩ := List.append_eq_nil_iff.1 h.symm
            exact absurd hx (by simp)
      | cons outcome rest =>
          rw [send_bind, replay_send_cons, ih outcome]
          constructor
          · rintro ⟨before, after, a, rfl, hx, hf⟩
            exact ⟨outcome :: before, after, a, rfl, hx, hf⟩
          · rintro ⟨before, after, a, h, hx, hf⟩
            cases before with
            | nil => exact absurd hx (by simp)
            | cons outcome' before =>
                obtain ⟨rfl, rfl⟩ := List.cons.inj h
                exact ⟨before, after, a, rfl, hx, hf⟩

/-- What is only computed from the end of an exchange takes no outcome. -/
theorem replay_map {x : Exchange α} {f : α → β} {outcomes : List Outcome} {b : β} :
    (x >>= fun a => done (f a)).replay outcomes = some b ↔
      ∃ a, x.replay outcomes = some a ∧ f a = b := by
  rw [replay_bind]
  constructor
  · rintro ⟨before, after, a, rfl, hx, hf⟩
    obtain ⟨rfl, rfl⟩ := replay_done_eq_some.1 hf
    exact ⟨a, by simpa using hx, rfl⟩
  · rintro ⟨a, hx, rfl⟩
    exact ⟨outcomes, [], a, by simp, hx, rfl⟩

/-! ## A server that answers from a list -/

/-- Answers any request with the next outcome of a list. -/
def popReply (_ : Request) : StateT (List Outcome) Option Outcome
  | [] => none
  | outcome :: rest => some (outcome, rest)

/-- **A replay is a run** with a server that answers from the list and has nothing left at the
end. -/
theorem run_popReply (x : Exchange α) (outcomes : List Outcome) (a : α) :
    (x.run popReply).run outcomes = some (a, []) ↔ x.replay outcomes = some a := by
  induction x generalizing outcomes with
  | done a' =>
      rw [replay_done_eq_some]
      show some (a', outcomes) = some (a, []) ↔ _
      simp [and_comm]
  | send request next ih =>
      cases outcomes with
      | nil =>
          show (none : Option (α × List Outcome)) = some (a, []) ↔ _
          simp
      | cons outcome rest => exact ih outcome rest

/-! ## Requests -/

/-- The requests that an exchange sends when they come to the given outcomes in turn. -/
def sent : Exchange α → List Outcome → List Request
  | done _, _ => []
  | send request _, [] => [request]
  | send request next, outcome :: rest => request :: (next outcome).sent rest

@[simp] theorem sent_done (a : α) (outcomes : List Outcome) : (done a).sent outcomes = [] := rfl

@[simp] theorem sent_send_cons (request : Request) (next : Outcome → Exchange α)
    (outcome : Outcome) (rest : List Outcome) :
    (send request next).sent (outcome :: rest) = request :: (next outcome).sent rest := rfl

/-- Two exchanges in a row send the requests of the first and then those of the second. -/
theorem sent_bind {x : Exchange α} {f : α → Exchange β} {before after : List Outcome} {a : α}
    (h : x.replay before = some a) :
    (x >>= f).sent (before ++ after) = x.sent before ++ (f a).sent after := by
  induction x generalizing before with
  | done a' =>
      obtain ⟨rfl, rfl⟩ := replay_done_eq_some.1 h
      rfl
  | send request next ih =>
      cases before with
      | nil => exact absurd h (by simp)
      | cons outcome before =>
          rw [send_bind, List.cons_append, sent_send_cons, sent_send_cons, ih outcome h]
          rfl

/-- What is only computed from the end of an exchange sends nothing. -/
theorem sent_map (x : Exchange α) (f : α → β) (outcomes : List Outcome) :
    (x >>= fun a => done (f a)).sent outcomes = x.sent outcomes := by
  induction x generalizing outcomes with
  | done a => rfl
  | send request next ih =>
      cases outcomes with
      | nil => rfl
      | cons outcome rest => rw [send_bind, sent_send_cons, sent_send_cons, ih]

/-! ## A network that never stops to answer -/

/-- Notes every request. The request at each place comes to what the network makes of that place. -/
def noting (network : Nat → Outcome) (request : Request) : StateM (List Request) Outcome :=
  fun before => (network before.length, before ++ [request])

/-- What an exchange comes to on a network, and the requests that it sends. -/
def against (x : Exchange α) (network : Nat → Outcome) : α × List Request :=
  (x.run (noting network)).run []

/-- The network from its second place on. -/
def later (network : Nat → Outcome) : Nat → Outcome := fun place => network (place + 1)

/-- Requests of before move the places of the network. -/
theorem run_noting (x : Exchange α) (network : Nat → Outcome) (before : List Request) :
    (x.run (noting network)).run before =
      ((x.against fun place => network (before.length + place)).1,
        before ++ (x.against fun place => network (before.length + place)).2) := by
  induction x generalizing network before with
  | done a => exact congrArg (Prod.mk a) (List.append_nil before).symm
  | send request next ih =>
      have hrun : ((send request next).run (noting network)).run before =
          ((next (network before.length)).run (noting network)).run (before ++ [request]) := rfl
      have hagainst : (send request next).against (fun place => network (before.length + place)) =
          ((next (network before.length)).run
            (noting fun place => network (before.length + place))).run [request] := rfl
      rw [hrun, hagainst, ih, ih]
      simp [Nat.add_assoc]

@[simp] theorem against_done (a : α) (network : Nat → Outcome) :
    (done a).against network = (a, []) := rfl

/-- A request takes the first outcome of the network and leaves the later ones. -/
theorem against_send (request : Request) (next : Outcome → Exchange α) (network : Nat → Outcome) :
    (send request next).against network =
      (((next (network 0)).against (later network)).1,
        request :: ((next (network 0)).against (later network)).2) := by
  have hrun : (send request next).against network =
      ((next (network 0)).run (noting network)).run [request] := rfl
  have hlater : (fun place => network ([request].length + place)) = later network :=
    funext fun place => congrArg network (Nat.add_comm 1 place)
  rw [hrun, run_noting, hlater]
  rfl

/-- What is only computed from the end of an exchange comes to what is computed. -/
theorem against_map (x : Exchange α) (f : α → β) (network : Nat → Outcome) :
    (x >>= fun a => done (f a)).against network =
      (f (x.against network).1, (x.against network).2) := by
  induction x generalizing network with
  | done a => rfl
  | send request next ih => rw [send_bind, against_send, against_send, ih]

/-- The outcomes that come first on a network. -/
def first (network : Nat → Outcome) (count : Nat) : List Outcome := (List.range count).map network

theorem first_succ (network : Nat → Outcome) (count : Nat) :
    first network (count + 1) = network 0 :: first (later network) count := by
  rw [first, List.range_succ_eq_map, List.map_cons, List.map_map]
  rfl

/-- As many outcomes are taken from a network as requests are sent. -/
theorem replay_first (x : Exchange α) (network : Nat → Outcome) :
    x.replay (first network (x.against network).2.length) = some (x.against network).1 := by
  induction x generalizing network with
  | done a => rfl
  | send request next ih =>
      rw [against_send, List.length_cons, first_succ, replay_send_cons]
      exact ih (network 0) (later network)

theorem sent_first (x : Exchange α) (network : Nat → Outcome) :
    x.sent (first network (x.against network).2.length) = (x.against network).2 := by
  induction x generalizing network with
  | done a => rfl
  | send request next ih =>
      rw [against_send, List.length_cons, first_succ, sent_send_cons]
      exact congrArg _ (ih (network 0) (later network))

/-- **Every exchange comes to an end on every network**, with the outcomes that come first there. -/
theorem exists_replay (x : Exchange α) (network : Nat → Outcome) :
    ∃ count, x.replay (first network count) = some (x.against network).1 ∧
      x.sent (first network count) = (x.against network).2 :=
  ⟨_, x.replay_first network, x.sent_first network⟩

end Exchange

/-! ## The last outcome -/

/-- The last of the outcomes is a reply that is no redirect, with this status and a body that reads
as this text. -/
def AnsweredBy (outcomes : List Outcome) (status : Nat) (body : String) : Prop :=
  ∃ reply, outcomes.getLast? = some (.ok reply) ∧ reply.isRedirect = false ∧
    reply.status = status ∧ reply.text = .ok body

theorem not_answeredBy_nil (status : Nat) (body : String) : ¬ AnsweredBy [] status body := by
  rintro ⟨reply, h, -⟩
  cases h

theorem AnsweredBy.cons {outcomes : List Outcome} {status : Nat} {body : String}
    (h : AnsweredBy outcomes status body) (outcome : Outcome) :
    AnsweredBy (outcome :: outcomes) status body := by
  obtain ⟨reply, hlast, h⟩ := h
  exact ⟨reply, by rw [List.getLast?_cons, hlast]; rfl, h⟩

/-- The last outcome stays the last one without the first, unless the first is the only one. -/
theorem AnsweredBy.of_cons {outcome next : Outcome} {outcomes : List Outcome} {status : Nat}
    {body : String} (h : AnsweredBy (outcome :: next :: outcomes) status body) :
    AnsweredBy (next :: outcomes) status body := by
  obtain ⟨reply, hlast, h⟩ := h
  exact ⟨reply, by rwa [List.getLast?_cons_cons] at hlast, h⟩

namespace Redirect

/-- A request that is finished with a result was answered with it. -/
theorem answeredBy_of_hop {errand : Errand} {url : Url} {outcome : Outcome} {status : Nat}
    {body : String} (h : hop errand url outcome = .finished (.ok (status, body))) :
    AnsweredBy [outcome] status body := by
  cases outcome with
  | error f => simp [hop] at h
  | ok reply =>
      unfold hop at h
      dsimp only at h
      split at h
      · split at h
        · simp at h
        · split at h <;> simp at h
      · next hr =>
        split at h
        · simp at h
        · next text ht =>
          simp only [Hop.finished.injEq, Except.ok.injEq, Prod.mk.injEq] at h
          exact ⟨reply, rfl, by simpa using hr, h.1, h.2 ▸ ht⟩

/-- **A followed request gives what its last outcome says**, after however many redirects. -/
theorem replay_follow_ok {errand : Errand} {hops : Nat} {url : Url} {outcomes : List Outcome}
    {status : Nat} {body : String}
    (h : (follow errand hops url).replay outcomes = some (.ok (status, body))) :
    AnsweredBy outcomes status body := by
  induction hops generalizing url outcomes with
  | zero =>
      obtain ⟨-, h⟩ := Exchange.replay_done_eq_some.1 h
      cases h
  | succ hops ih =>
      cases outcomes with
      | nil => exact absurd h (by simp [follow])
      | cons outcome rest =>
          rw [follow, Exchange.replay_send_cons] at h
          split at h
          · next result hhop =>
            obtain ⟨rfl, rfl⟩ := Exchange.replay_done_eq_some.1 h
            exact answeredBy_of_hop hhop
          · exact (ih h).cons outcome

/-- A request that is answered is finished with the answer. -/
theorem hop_of_answeredBy {errand : Errand} {url : Url} {outcome : Outcome} {status : Nat}
    {body : String} (h : AnsweredBy [outcome] status body) :
    hop errand url outcome = .finished (.ok (status, body)) := by
  obtain ⟨reply, hlast, hredirect, rfl, htext⟩ := h
  obtain rfl := Option.some.inj hlast
  simp [hop, hredirect, htext]

/-- **A followed request whose last outcome is an answer gives that answer.** -/
theorem replay_follow_of_answeredBy {errand : Errand} {hops : Nat} {url : Url}
    {outcomes : List Outcome} {result : Except Fault (Nat × String)} {status : Nat} {body : String}
    (h : (follow errand hops url).replay outcomes = some result)
    (hanswer : AnsweredBy outcomes status body) : result = .ok (status, body) := by
  induction hops generalizing url outcomes with
  | zero =>
      obtain ⟨rfl, -⟩ := Exchange.replay_done_eq_some.1 h
      exact absurd hanswer (not_answeredBy_nil status body)
  | succ hops ih =>
      cases outcomes with
      | nil => exact absurd h (by simp [follow])
      | cons outcome rest =>
          rw [follow, Exchange.replay_send_cons] at h
          split at h
          · next result' hhop =>
            obtain ⟨rfl, rfl⟩ := Exchange.replay_done_eq_some.1 h
            rw [hop_of_answeredBy hanswer] at hhop
            exact (Hop.finished.inj hhop).symm
          · next url' hhop =>
            cases rest with
            | nil =>
                rw [hop_of_answeredBy hanswer] at hhop
                cases hhop
            | cons next rest => exact ih h hanswer.of_cons

end Redirect

end StoreGate
