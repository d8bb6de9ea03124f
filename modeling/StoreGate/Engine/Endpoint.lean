import StoreGate.Fault
import StoreGate.Decimal.Style
import StoreGate.Text.Blank
import StoreGate.Text.Quoted
import StoreGate.Decimal.Reading

/-!
# Addresses of the engine

A frontend of the engine is written as a host, with or without a port, and may be decorated as a
plain HTTP address: `http://` before it and slashes after it.

* `Endpoint.parse` — the endpoint of a written address, or what is wrong with it.
* `Endpoint.baseUrl` — where its requests go.
-/

namespace StoreGate

/-- What a frontend is asked for. -/
inductive EndpointRole where
  | query
  | load
deriving DecidableEq, Repr, Inhabited

structure Endpoint where
  host : String
  port : Nat
  role : EndpointRole
deriving DecidableEq, Repr, Inhabited

inductive EndpointFault where
  /-- Frontends are spoken to over plain HTTP alone. -/
  | scheme (scheme raw : String)
  | empty
  | port (raw : String)
deriving DecidableEq, Repr

namespace EndpointFault

def text : EndpointFault → String
  | scheme s raw => "unsupported scheme " ++ Text.quoted s ++ " in frontend host: " ++ raw
  | empty => "empty frontend host"
  | port raw => "invalid port in frontend host: " ++ raw

def fault (f : EndpointFault) : Fault := .config f.text

end EndpointFault

namespace Endpoint

/-! ## Splitting -/

/-- What stands before and after the first `://`. -/
def splitScheme? : List Char → Option (List Char × List Char)
  | [] => none
  | ':' :: '/' :: '/' :: rest => some ([], rest)
  | c :: rest => (splitScheme? rest).map fun (scheme, r) => (c :: scheme, r)

/-- What stands before and after the last colon. -/
def splitPort? (cs : List Char) : Option (List Char × List Char) :=
  let port := (cs.reverse.takeWhile fun c => c != ':').reverse
  let rest := cs.reverse.dropWhile fun c => c != ':'
  match rest with
  | _ :: host => some (host.reverse, port)
  | [] => none

def dropSlashes (cs : List Char) : List Char :=
  (cs.reverse.dropWhile fun c => c == '/').reverse

/-- The greatest port. -/
def greatestPort : Nat := 65535

/-! ## Reading -/

/-- The address after its scheme, if the scheme is plain HTTP or missing. -/
def withoutScheme (cs : List Char) : Except EndpointFault (List Char) :=
  match splitScheme? cs with
  | none => .ok cs
  | some (scheme, rest) =>
    if scheme.map Char.toLower = ['h', 't', 't', 'p'] then .ok rest
    else .error (.scheme (String.ofList scheme) (String.ofList cs))

/-- Host and port of an address without scheme and slashes. -/
def hostAndPort (defaultPort : Nat) (cs : List Char) : Except EndpointFault (String × Nat) :=
  match splitPort? cs with
  | none => .ok (String.ofList cs, defaultPort)
  | some (host, port) =>
    match Decimal.readNatUpTo? greatestPort port with
    | some n => .ok (String.ofList host, n)
    | none => .error (.port (String.ofList cs))

def parseChars (cs : List Char) (defaultPort : Nat) (role : EndpointRole) :
    Except EndpointFault Endpoint :=
  match withoutScheme (Text.trimChars cs) with
  | .error e => .error e
  | .ok rest =>
    let rest := dropSlashes rest
    if rest.isEmpty then .error .empty
    else (hostAndPort defaultPort rest).map fun (host, port) => ⟨host, port, role⟩

/-- The endpoint of a written address; a port that is not written is the default one. -/
def parse (raw : String) (defaultPort : Nat) (role : EndpointRole) :
    Except EndpointFault Endpoint :=
  parseChars raw.toList defaultPort role

/-! ## Writing -/

def text (e : Endpoint) : String := e.host ++ ":" ++ Decimal.natText e.port

def baseUrl (e : Endpoint) : String := "http://" ++ e.text

end Endpoint

end StoreGate
