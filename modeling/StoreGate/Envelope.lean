import StoreGate.Fault
import StoreGate.Decimal.Style

/-!
# The envelope of an answer

Every answer over HTTP is an object that says whether it is a success. A success carries its data,
a failure the name and the text of its fault, and the verdict of a failed load.

* `Envelope.success`, `Envelope.failure` — what the server writes.
* `Envelope.unwrap` — what the client reads: the data, or a text for the person at the terminal.
-/

namespace StoreGate

/-- The version of both ends, which the server tells in an answer and the program at the terminal on
demand. -/
def version : String := "0.1.0"

namespace Envelope

/-! ## Writing -/

def success (data : Json) : Json := Json.object [("success", .bool true), ("data", data)]

/-- What an answer says about a fault. -/
def faultJson (f : Fault) : Json :=
  Json.object ([("code", .str f.kind.code), ("message", .str f.message)] ++
    Json.optionalMember "load" (f.load?.map LoadVerdict.json))

def failure (f : Fault) : Json := Json.object [("success", .bool false), ("error", faultJson f)]

/-! ## Reading -/

/-- The text at a member, if it is there. -/
def textAt? (key : String) (v : Json) : Option String := (v.member? key).bind Json.str?

/-- What a failure says, with the status of the answer, and where the rejected rows are listed. -/
def complaint (status : Nat) (error : Json) : String :=
  (textAt? "code" error).getD "Error" ++ " (HTTP " ++ Decimal.natText status ++ "): " ++
    (textAt? "message" error).getD "unknown error" ++
    match (error.member? "load").bind (textAt? "ErrorURL") with
    | some url => "\n  rejected rows: " ++ url
    | none => ""

/-- The data of a success, `null` if it has none, or the complaint of anything else. -/
def unwrap (status : Nat) (body : Json) : Except String Json :=
  if (body.member? "success").bind Json.bool? = some true then
    .ok ((body.member? "data").getD .null)
  else .error (complaint status ((body.member? "error").getD .null))

end Envelope

end StoreGate
