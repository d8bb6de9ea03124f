import StoreGate.Json.Decode

/-!
# How the engine is reached

The frontends of the engine, the account, and the limits on time and connections. Every setting has
a default.
-/

namespace StoreGate

structure EngineConfig where
  /-- Frontend addresses. -/
  hosts : List String
  /-- Frontends for loads, if they are other ones. -/
  loadHosts : List String
  /-- The port of an address that names none. -/
  queryPort : Nat
  user : String
  password : String
  /-- The database of a statement that names none. -/
  database : Option String
  connectTimeoutSecs : Nat
  queryTimeoutSecs : Nat
  poolMaxIdlePerHost : Nat
  poolIdleTimeoutSecs : Nat
deriving DecidableEq, Repr

namespace EngineConfig

def standard : EngineConfig where
  hosts := []
  loadHosts := []
  queryPort := 8030
  user := "root"
  password := ""
  database := none
  connectTimeoutSecs := 5
  queryTimeoutSecs := 30
  poolMaxIdlePerHost := 20
  poolIdleTimeoutSecs := 90

instance : Inhabited EngineConfig := ⟨standard⟩

def json (c : EngineConfig) : Json :=
  Json.object [
    ("hosts", Json.ofStrings c.hosts),
    ("load_hosts", Json.ofStrings c.loadHosts),
    ("query_port", Json.nat c.queryPort),
    ("user", .str c.user),
    ("password", .str c.password),
    ("database", Json.ofOption .str c.database),
    ("connect_timeout_secs", Json.nat c.connectTimeoutSecs),
    ("query_timeout_secs", Json.nat c.queryTimeoutSecs),
    ("pool_max_idle_per_host", Json.nat c.poolMaxIdlePerHost),
    ("pool_idle_timeout_secs", Json.nat c.poolIdleTimeoutSecs)]

def fields : List (Decode.Field EngineConfig) := [
  Decode.field ["hosts"] .defaulted (Decode.list Decode.text) fun v c => { c with hosts := v },
  Decode.field ["load_hosts"] .defaulted (Decode.list Decode.text)
    fun v c => { c with loadHosts := v },
  Decode.field ["query_port"] .defaulted (Decode.natUpTo 65535)
    fun v c => { c with queryPort := v },
  Decode.field ["user"] .defaulted Decode.text fun v c => { c with user := v },
  Decode.field ["password"] .defaulted Decode.text fun v c => { c with password := v },
  Decode.field ["database"] .defaulted (Decode.optional Decode.text)
    fun v c => { c with database := v },
  Decode.field ["connect_timeout_secs"] .defaulted Decode.nat64
    fun v c => { c with connectTimeoutSecs := v },
  Decode.field ["query_timeout_secs"] .defaulted Decode.nat64
    fun v c => { c with queryTimeoutSecs := v },
  Decode.field ["pool_max_idle_per_host"] .defaulted Decode.nat64
    fun v c => { c with poolMaxIdlePerHost := v },
  Decode.field ["pool_idle_timeout_secs"] .defaulted Decode.nat64
    fun v c => { c with poolIdleTimeoutSecs := v }]

def decode : Decoder EngineConfig := Decode.record standard fields

end EngineConfig

end StoreGate
