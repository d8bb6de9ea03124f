import StoreGate.Engine.Client
import StoreGate.Proofs.Http.Header
import StoreGate.Proofs.Http.Replay

/-!
# Where a redirected request goes

A request that the engine redirects is sent again elsewhere. Told here, for every network, is which
requests are sent, where each of them goes, and what comes of it all.

* `Redirect.Leads`, `Redirect.Ends` — an outcome leads on to another address, or it ends the request
  with a result; every outcome does one of the two.
* `Redirect.Trail` — the addresses that a request is led to, and how it ends.
* `putFollowing_trail` — a request goes along such a trail of at most four addresses, the same at
  each of them, credentials included.
-/

namespace StoreGate

/-! ## Credentials -/

/-- **Every request of a client carries credentials**: its own, unless the fields name others. -/
theorem Client.get?_authorized (c : Client) (fields : Headers) :
    (c.authorized fields).get? "authorization" =
      some ((fields.get? "authorization").getD c.credentials) := by
  rw [authorized, Headers.get?_overlay, SortedMap.get?_insert_self]
  cases fields.get? "authorization" with
  | none => rfl
  | some value => rfl

namespace Redirect

/-! ## One outcome -/

/-- The outcome of a request to an address leads to the next one: it is a redirect whose location
can be read and joined. -/
def Leads (url : Url) (outcome : Outcome) (next : Url) : Prop :=
  ∃ reply location, outcome = .ok reply ∧ (reply.status = 307 ∨ reply.status = 308) ∧
    reply.location? = some location ∧ url.join location = .ok next

/-- The outcome of a request to an address ends it with a result. -/
inductive Ends (purpose : String) (url : Url) : Outcome → Except Fault (Nat × String) → Prop
  /-- No reply came. -/
  | unsent (f : TransportFault) :
      Ends purpose url (.error f) (.error (.network (f.text (purpose ++ " request failed"))))
  /-- The reply is no redirect; its status and its body are the result. -/
  | answered {reply : Reply} {body : String} (hstatus : ¬ (reply.status = 307 ∨ reply.status = 308))
      (hbody : reply.text = .ok body) : Ends purpose url (.ok reply) (.ok (reply.status, body))
  /-- The reply is no redirect, and its body could not be read. -/
  | unread {reply : Reply} {f : TransportFault}
      (hstatus : ¬ (reply.status = 307 ∨ reply.status = 308)) (hbody : reply.text = .error f) :
      Ends purpose url (.ok reply)
        (.error (.network (f.text ("failed to read " ++ purpose ++ " response"))))
  /-- The reply is a redirect to nowhere. -/
  | withoutLocation {reply : Reply} (hstatus : reply.status = 307 ∨ reply.status = 308)
      (hlocation : reply.location? = none) :
      Ends purpose url (.ok reply) (.error (.database
        (purpose ++ " redirect from " ++ url.text ++ " without Location") none))
  /-- The reply is a redirect to what is no address. -/
  | badLocation {reply : Reply} {location : String} {e : UrlFault}
      (hstatus : reply.status = 307 ∨ reply.status = 308)
      (hlocation : reply.location? = some location) (hjoin : url.join location = .error e) :
      Ends purpose url (.ok reply) (.error (.database
        ("invalid " ++ purpose ++ " redirect " ++ location ++ ": " ++ e.message) none))

theorem isRedirect_iff (reply : Reply) :
    reply.isRedirect = true ↔ reply.status = 307 ∨ reply.status = 308 := by
  simp [Reply.isRedirect]

variable {errand : Errand} {url next : Url} {outcome : Outcome}
  {result : Except Fault (Nat × String)}

/-- **Every outcome leads on or ends the request**, as the hop says. -/
theorem hop_cases (errand : Errand) (url : Url) (outcome : Outcome) :
    (∃ next, hop errand url outcome = .next next ∧ Leads url outcome next) ∨
      ∃ result, hop errand url outcome = .finished result ∧
        Ends errand.purpose url outcome result := by
  cases outcome with
  | error f => exact Or.inr ⟨_, rfl, .unsent f⟩
  | ok reply =>
      unfold hop
      dsimp only
      split
      · next hredirect =>
        have hstatus := (isRedirect_iff reply).1 hredirect
        split
        · next hlocation => exact Or.inr ⟨_, rfl, .withoutLocation hstatus hlocation⟩
        · next location hlocation =>
          split
          · next e hjoin => exact Or.inr ⟨_, rfl, .badLocation hstatus hlocation hjoin⟩
          · next u hjoin => exact Or.inl ⟨u, rfl, reply, location, rfl, hstatus, hlocation, hjoin⟩
      · next hredirect =>
        have hstatus : ¬ (reply.status = 307 ∨ reply.status = 308) :=
          fun h => hredirect ((isRedirect_iff reply).2 h)
        split
        · next f hbody => exact Or.inr ⟨_, rfl, .unread hstatus hbody⟩
        · next body hbody => exact Or.inr ⟨_, rfl, .answered hstatus hbody⟩

/-! ## Trails -/

/-- The addresses that a request is led to, the first of them its own: each outcome leads to the
next address, until one ends the request, or until there is one address more than hops. -/
structure Trail (purpose : String) (hops : Nat) (start : Url) (network : Nat → Outcome)
    (result : Except Fault (Nat × String)) (trail : List Url) : Prop where
  start : trail.head? = some start
  leads : ∀ place url next, trail[place]? = some url → trail[place + 1]? = some next →
    Leads url (network place) next
  ending :
    (trail.length ≤ hops ∧ ∃ url, trail.getLast? = some url ∧
      Ends purpose url (network (trail.length - 1)) result) ∨
    (trail.length = hops + 1 ∧ ∃ url, trail.getLast? = some url ∧
      result = .error (.network (purpose ++ " exceeded " ++ Decimal.natText limit ++
        " redirects, last hop " ++ url.text)))

namespace Trail

variable {purpose : String} {hops : Nat} {start : Url} {network : Nat → Outcome}
  {trail : List Url}

theorem ne_nil (h : Trail purpose hops start network result trail) : trail ≠ [] := by
  rintro rfl
  cases h.start

/-- A trail of one address ends where it starts. -/
theorem singleton (h : Ends purpose start (network 0) result) :
    Trail purpose (hops + 1) start network result [start] where
  start := rfl
  leads place url next _ hnext := by simp at hnext
  ending := Or.inl ⟨Nat.succ_le_succ (Nat.zero_le hops), start, rfl, h⟩

/-- An outcome that leads to the start of a trail makes it longer. -/
theorem cons {url : Url} (hleads : Leads url (network 0) start)
    (h : Trail purpose hops start (Exchange.later network) result trail) :
    Trail purpose (hops + 1) url network result (url :: trail) := by
  have hlast : (url :: trail).getLast? = trail.getLast? := by
    rw [List.getLast?_cons]
    cases hl : trail.getLast? with
    | none => exact absurd (List.getLast?_eq_none_iff.1 hl) h.ne_nil
    | some last => rfl
  constructor
  case start => rfl
  case leads =>
    intro place u v hu hv
    cases place with
    | zero =>
        obtain rfl := Option.some.inj hu
        have hv : trail.head? = some v := by rw [List.head?_eq_getElem?]; exact hv
        rwa [← Option.some.inj (h.start.symm.trans hv)]
    | succ place => exact h.leads place u v hu hv
  case ending =>
    rcases h.ending with ⟨hlength, last, hl, hends⟩ | ⟨hlength, last, hl, hresult⟩
    · refine Or.inl ⟨Nat.succ_le_succ hlength, last, hlast.trans hl, ?_⟩
      have hplace : (url :: trail).length - 1 = trail.length - 1 + 1 := by
        have := List.length_pos_iff.2 h.ne_nil
        simp only [List.length_cons]
        omega
      rw [hplace]
      exact hends
    · exact Or.inr ⟨congrArg (· + 1) hlength, last, hlast.trans hl, hresult⟩

end Trail

/-- **A request goes along a trail**: one request for each address, as long as hops are left. -/
theorem follow_trail (errand : Errand) (hops : Nat) (start : Url) (network : Nat → Outcome) :
    ∃ trail, Trail errand.purpose hops start network
        ((follow errand hops start).against network).1 trail ∧
      ((follow errand hops start).against network).2 = (trail.take hops).map errand.request := by
  induction hops generalizing start network with
  | zero =>
      refine ⟨[start], ⟨rfl, ?_, Or.inr ⟨rfl, start, rfl, rfl⟩⟩, rfl⟩
      intro place url next _ hnext
      simp at hnext
  | succ hops ih =>
      rw [follow, Exchange.against_send]
      rcases hop_cases errand start (network 0) with ⟨next, hhop, hleads⟩ | ⟨result, hhop, hends⟩
      · obtain ⟨trail, htrail, hsent⟩ := ih next (Exchange.later network)
        rw [hhop]
        refine ⟨start :: trail, htrail.cons hleads, ?_⟩
        rw [List.take_succ_cons, List.map_cons]
        exact congrArg _ hsent
      · rw [hhop]
        refine ⟨[start], Trail.singleton hends, ?_⟩
        rw [List.take_succ_cons, List.take_nil]
        rfl

end Redirect

/-! ## Followed requests -/

/-- **Redirects are followed exactly and at most three times.** On every network, a client that puts
a body somewhere sends its request along a trail of addresses: to the next one only if the outcome
before was a redirect whose location can be read and joined, and there; at most to four; with the
same method, fields, credentials and body at each. What comes of it is the status and the body of
the first reply that is no redirect; a fault of the engine if a redirect has no usable location; a
fault of the network if a request or its body fails, or if a fourth redirect is usable. -/
theorem putFollowing_trail (c : Client) (fields : Headers) (body : ByteArray)
    (patience : Option Span) (purpose : String) (start : Url) (network : Nat → Outcome) :
    (∃ trail result,
      (Redirect.putFollowing ⟨c.authorized fields, body, patience, purpose⟩ start).against network =
        (result, (trail.take 4).map fun url =>
          ⟨.put, url, c.authorized fields, body, patience⟩) ∧
      Redirect.Trail purpose 4 start network result trail) ∧
    (c.authorized fields).get? "authorization" =
      some ((fields.get? "authorization").getD c.credentials) := by
  refine ⟨?_, c.get?_authorized fields⟩
  obtain ⟨trail, htrail, hsent⟩ := Redirect.follow_trail
    ⟨c.authorized fields, body, patience, purpose⟩ (Redirect.limit + 1) start network
  exact ⟨trail, _, Prod.ext rfl hsent, htrail⟩

end StoreGate
