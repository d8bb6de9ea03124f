import StoreGate.Engine.Config
import StoreGate.Engine.Endpoint

/-!
# Taking turns among frontends

Statements and loads each go round a list of frontends with a position of their own. Statements
begin with the first frontend; loads begin anywhere, so that several processes with one list do not
all begin with the same frontend.

* `Selector.ofConfig` — the lists of a configuration; loads use the frontends of statements if they
  have none of their own.
* `Turn.next` — the frontend whose turn it is, and the turn after it.
-/

namespace StoreGate

/-- Frontends for statements and for loads; neither list is empty. -/
structure Selector where
  query : List Endpoint
  load : List Endpoint
  query_ne_nil : query ≠ []
  load_ne_nil : load ≠ []

namespace Selector

def noHosts : Fault := .config "no engine frontend hosts configured"

/-- The frontends of statements in the role of loads. -/
def asLoad (e : Endpoint) : Endpoint := { e with role := .load }

/-- Two lists of frontends; an empty list for loads stands for the other one. -/
def new (query load : List Endpoint) : Except Fault Selector :=
  match query with
  | [] => .error noHosts
  | q :: qs =>
    match load with
    | [] => .ok ⟨q :: qs, (q :: qs).map asLoad, by simp, by simp⟩
    | l :: ls => .ok ⟨q :: qs, l :: ls, by simp, by simp⟩

/-- The endpoints of written addresses, or the fault of the first that has one. -/
def endpoints (port : Nat) (role : EndpointRole) (hosts : List String) :
    Except Fault (List Endpoint) :=
  hosts.mapM fun h => (Endpoint.parse h port role).mapError EndpointFault.fault

def ofConfig (c : EngineConfig) : Except Fault Selector := do
  let query ← endpoints c.queryPort .query c.hosts
  let load ← endpoints c.queryPort .load c.loadHosts
  new query load

end Selector

/-- Whose turn it is, as positions in the two lists. -/
structure Turn where
  query : Nat
  load : Nat
deriving DecidableEq, Repr, Inhabited

namespace Turn

/-- Statements begin with the first frontend, loads at `start`. -/
def first (start : Nat) : Turn := ⟨0, start⟩

/-- The element at a position that goes round the list. -/
def pick (list : List Endpoint) (position : Nat) : Endpoint :=
  list.getD (position % list.length) default

/-- The position after one that goes round the list. -/
def after (list : List Endpoint) (position : Nat) : Nat :=
  (position % list.length + 1) % list.length

/-- The frontend for the next request of a role, and the turn after it. -/
def next (s : Selector) (role : EndpointRole) (t : Turn) : Endpoint × Turn :=
  match role with
  | .query => (pick s.query t.query, { t with query := after s.query t.query })
  | .load => (pick s.load t.load, { t with load := after s.load t.load })

end Turn

end StoreGate
