import StoreGate.Engine.Config
import StoreGate.Ingest.Report
import StoreGate.Search.Result
import StoreGate.Toml.Parser
import StoreGate.Txn.Lease

/-!
# Settings of the server

Every section and every setting has a default, so that an empty file, and none at all, are complete.
Settings that nobody knows are passed over.

* `HubConfig.load` — the settings of a file, with the engine's password from the environment.
-/

namespace StoreGate

inductive LogFormat where
  | text
  | json
deriving DecidableEq, Repr, Inhabited

namespace LogFormat

def ofText? (s : String) : Option LogFormat :=
  if s = "text" then some .text else if s = "json" then some .json else none

/-- A word, or a table with the word as its only key and nothing in it. -/
def decode : Decoder LogFormat
  | _, .object [(some key, .object [] _)] _
  | _, .object [(some key, .array [] _)] _ =>
    match ofText? key with
    | some f => .ok f
    | none => .error (.expected "log format")
  | room, d => Decode.word "log format" ofText? room d

end LogFormat

structure HubConfig where
  /-- The address that the server listens on. -/
  bind : String
  engine : EngineConfig
  search : SearchConfig
  sweepIntervalSecs : Nat
  /-- Added to the engine's timeout before a lease counts as expired. -/
  leaseGraceSecs : Nat
  logFormat : LogFormat
  ingestion : IngestConfig
deriving Inhabited

namespace HubConfig

def standard : HubConfig where
  bind := "127.0.0.1:8080"
  engine := EngineConfig.standard
  search := SearchConfig.standard
  sweepIntervalSecs := 30
  leaseGraceSecs := 10
  logFormat := .text
  ingestion := IngestConfig.standard

/-- The time between two sweeps in seconds, at least one. -/
def sweepInterval (c : HubConfig) : Nat := max 1 c.sweepIntervalSecs

/-- The grace period of leases. -/
def leaseGrace (c : HubConfig) : Span := Span.ofSeconds c.leaseGraceSecs

def decode : Decoder HubConfig :=
  Decode.record standard [
    Decode.group ["server"] [
      Decode.field ["bind"] .defaulted Decode.text fun v c => { c with bind := v }],
    Decode.field ["engine"] .defaulted EngineConfig.decode fun v c => { c with engine := v },
    Decode.field ["search"] .defaulted SearchConfig.decode fun v c => { c with search := v },
    Decode.group ["transactions"] [
      Decode.field ["sweep_interval_secs"] .defaulted Decode.nat64
        fun v c => { c with sweepIntervalSecs := v },
      Decode.field ["lease_grace_secs"] .defaulted Decode.nat64
        fun v c => { c with leaseGraceSecs := v }],
    Decode.group ["logging"] [
      Decode.field ["format"] .defaulted LogFormat.decode fun v c => { c with logFormat := v }],
    Decode.field ["ingestion"] .defaulted IngestConfig.decode fun v c => { c with ingestion := v }]

/-! ## Files -/

def invalid (detail : String) : Fault := .config ("invalid config: " ++ detail)

/-- The settings that a file spells. -/
def parse (text : String) : Except Fault HubConfig :=
  match Toml.parse text with
  | .error e => .error (invalid e.message)
  | .ok d => (decode nestingLimit d).mapError fun e => invalid e.message

/-- The settings of a file, if there is one; a password from the environment replaces the file's. -/
def load (file : Option String) (password : Option String) : Except Fault HubConfig :=
  let read := match file with
    | some text => parse text
    | none => .ok standard
  read.map fun c =>
    match password with
    | some p => { c with engine := { c.engine with password := p } }
    | none => c

end HubConfig

end StoreGate
