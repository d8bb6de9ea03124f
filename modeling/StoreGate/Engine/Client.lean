import StoreGate.Engine.Selector
import StoreGate.Http.Redirect
import StoreGate.Text.Base64

/-!
# The client of the engine

A call first takes the frontend whose turn it is, which is settled at once, and then exchanges
requests with it, which takes its time. So a `Call` is a change of the turn that gives an exchange.
-/

namespace StoreGate

structure Client where
  config : EngineConfig
  selector : Selector

/-- A change of the turn and the exchange that follows. -/
abbrev Call (α : Type) := Turn → Exchange (Except Fault α) × Turn

namespace Call

/-- A call that fails before it takes a frontend. -/
def refuse {α : Type} (f : Fault) : Call α := fun turn => (.done (.error f), turn)

end Call

namespace Client

/-- The client of a configuration that names at least one frontend. -/
def new (config : EngineConfig) : Except Fault Client :=
  (Selector.ofConfig config).map fun s => ⟨config, s⟩

/-- A call to the frontend whose turn it is. -/
def ask {α : Type} (c : Client) (role : EndpointRole)
    (exchange : Endpoint → Exchange (Except Fault α)) : Call α := fun turn =>
  let (e, turn) := Turn.next c.selector role turn
  (exchange e, turn)

/-- The account, as it is sent with every request. -/
def credentials (c : Client) : String :=
  "Basic " ++ Base64.ofText (c.config.user ++ ":" ++ c.config.password)

/-- The credentials under the given fields. -/
def authorized (c : Client) (fields : Headers) : Headers :=
  fields.overlay ((SortedMap.empty : Headers).insert "authorization" c.credentials)

/-- The time to wait for statements and control requests, unless the caller has a deadline. -/
def queryPatience (c : Client) (deadline : Option Span) : Span :=
  deadline.getD (Span.ofSeconds c.config.queryTimeoutSecs)

/-! ## Timeouts of the engine -/

/-- The greatest timeout that a caller may ask the engine for: thirty days. -/
def maxTimeoutSecs : Nat := 30 * 24 * 60 * 60

def tooLong (secs : Nat) : Fault :=
  .invalidArgument ("timeout " ++ Decimal.natText secs ++ "s exceeds the maximum of " ++
    Decimal.natText maxTimeoutSecs ++ "s")

end Client

end StoreGate
