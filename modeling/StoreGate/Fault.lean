import StoreGate.Load.Verdict

/-!
# Faults

Everything that can go wrong between a caller and the engine is one of six kinds. A fault of the
engine may carry the verdict of the load that failed.

* `Fault.message` — the text of a fault, which begins with its kind.
* `FaultKind.httpStatus` — the status that an answer over HTTP gives for it.
-/

namespace StoreGate

inductive FaultKind where
  | config
  | network
  | database
  | serialization
  | deserialization
  | invalidArgument
deriving DecidableEq, Repr

namespace FaultKind

/-- The name of a kind in answers. -/
def code : FaultKind → String
  | config => "ConfigError"
  | network => "NetworkError"
  | database => "DatabaseError"
  | serialization => "SerializationError"
  | deserialization => "DeserializationError"
  | invalidArgument => "InvalidArgument"

/-- What stands before the text of a fault of the kind. -/
def heading : FaultKind → String
  | config => "configuration error: "
  | network => "network error: "
  | database => "database error: "
  | serialization => "serialization error: "
  | deserialization => "deserialization error: "
  | invalidArgument => "invalid argument: "

/-- The caller's mistakes, an engine out of reach, an engine that failed, and the rest. -/
def httpStatus : FaultKind → Nat
  | invalidArgument => 400
  | network => 503
  | database | deserialization => 502
  | config | serialization => 500

end FaultKind

inductive Fault where
  /-- Missing or unusable configuration. -/
  | config (text : String)
  /-- The request did not get through. -/
  | network (text : String)
  /-- The engine answered that it failed. -/
  | database (text : String) (load : Option LoadVerdict)
  /-- A request could not be written. -/
  | serialization (text : String)
  /-- An answer could not be read. -/
  | deserialization (text : String)
  /-- The caller asked for something impossible. -/
  | invalidArgument (text : String)
deriving DecidableEq, Repr

namespace Fault

def kind : Fault → FaultKind
  | config _ => .config
  | network _ => .network
  | database _ _ => .database
  | serialization _ => .serialization
  | deserialization _ => .deserialization
  | invalidArgument _ => .invalidArgument

def text : Fault → String
  | config t | network t | database t _ | serialization t | deserialization t
  | invalidArgument t => t

def message (f : Fault) : String := f.kind.heading ++ f.text

/-- The verdict of the failed load, if there is one. -/
def load? : Fault → Option LoadVerdict
  | database _ load => load
  | _ => none

end Fault

end StoreGate
