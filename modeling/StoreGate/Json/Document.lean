import StoreGate.Json.Basic

/-!
# JSON documents as written

A `Document` is what a JSON text says before anyone asks for it: objects keep their members in
written order, a repeated key included; a number beyond the range of doubles or a text with a lone
surrogate stays unread; and where the text stops being JSON, the document ends with the reason. So
a reader of a document can pass over what it does not need, and of several faults it meets the one
that stands first in the text.

* `Document.value` — the data that a document holds, with sorted objects; the last of several
  members with one key stays.
* `Document.skim` — passes over a document: only where the text stops being JSON is a fault.
* `Json.document` — a value as a document.
-/

namespace StoreGate

/-- Why a document does not hold what was asked of it. -/
inductive DecodeError where
  | malformed (what : String)
  | trailing
  | tooDeep
  | numberOutOfRange
  | loneSurrogate
  | expected (what : String)
  | missing (field : String)
  | duplicate (field : String)
  | tooShort
deriving DecidableEq, Repr

namespace DecodeError

/-- A short text without a colon, so that it can stand between colons in a longer message. -/
def message : DecodeError → String
  | malformed what => "malformed " ++ what
  | trailing => "trailing characters"
  | tooDeep => "recursion limit exceeded"
  | numberOutOfRange => "number out of range"
  | loneSurrogate => "lone surrogate in text"
  | expected what => "expected " ++ what
  | missing _ => "missing field"
  | duplicate _ => "duplicate field"
  | tooShort => "too few elements"

/-- The text is JSON that can be read, but not of the shape that was asked for. -/
def isMismatch : DecodeError → Bool
  | expected _ | missing _ | duplicate _ | tooShort => true
  | malformed _ | trailing | tooDeep | numberOutOfRange | loneSurrogate => false

end DecodeError

/-- What follows the last item or member of a container. -/
inductive Ending where
  /-- Nothing: whoever reads the container reads all of it. -/
  | closed
  /-- Nothing that has to be read: whoever reads the container may leave items behind. -/
  | lenient
  /-- A fault, at which the container is cut short. -/
  | cut (fault : DecodeError)
deriving DecidableEq, Repr

/-- A JSON text as written. A number or text that cannot be read is `none`. -/
inductive Document where
  | null
  | bool (b : Bool)
  | number (n : Option Number)
  | text (s : Option String)
  | array (items : List Document) (ending : Ending)
  | object (members : List (Option String × Document)) (ending : Ending)
  | broken (fault : DecodeError)
deriving Repr, Inhabited

/-- The number of arrays and objects that may be open at once in what is read. -/
def nestingLimit : Nat := 127

namespace Document

/-- What follows the last item or member. -/
def close {α : Type} (ending : Ending) (a : α) : Except DecodeError α :=
  match ending with
  | .closed | .lenient => .ok a
  | .cut e => .error e

/-! ## Data -/

mutual

/-- The data that a document holds; `room` more arrays and objects may be opened. -/
def value (room : Nat) : Document → Except DecodeError Json
  | .null => .ok .null
  | .bool b => .ok (.bool b)
  | .number (some n) => .ok (.num n)
  | .number none => .error .numberOutOfRange
  | .text (some s) => .ok (.str s)
  | .text none => .error .loneSurrogate
  | .array items ending =>
    match room with
    | 0 => .error .tooDeep
    | room + 1 => (values room items ending).map .arr
  | .object members ending =>
    match room with
    | 0 => .error .tooDeep
    | room + 1 =>
      (memberValues room members ending).map fun ms => .obj (SortedMap.sortEntries ms)
  | .broken e => .error e

def values (room : Nat) : List Document → Ending → Except DecodeError (List Json)
  | [], ending => close ending []
  | d :: rest, ending =>
    match value room d with
    | .error e => .error e
    | .ok v => (values room rest ending).map (v :: ·)

def memberValues (room : Nat) :
    List (Option String × Document) → Ending → Except DecodeError (List (String × Json))
  | [], ending => close ending []
  | (none, _) :: _, _ => .error .loneSurrogate
  | (some k, d) :: rest, ending =>
    match value room d with
    | .error e => .error e
    | .ok v => (memberValues room rest ending).map ((k, v) :: ·)

end

/-! ## Passing over -/

mutual

/-- Passes over a document that nobody asked for. -/
def skim : Document → Except DecodeError Unit
  | .array items ending => skimItems items ending
  | .object members ending => skimMembers members ending
  | .broken e => .error e
  | _ => .ok ()

def skimItems : List Document → Ending → Except DecodeError Unit
  | [], ending => close ending ()
  | d :: rest, ending =>
    match skim d with
    | .error e => .error e
    | .ok () => skimItems rest ending

def skimMembers :
    List (Option String × Document) → Ending → Except DecodeError Unit
  | [], ending => close ending ()
  | (_, d) :: rest, ending =>
    match skim d with
    | .error e => .error e
    | .ok () => skimMembers rest ending

end

end Document

/-! ## Values as documents -/

namespace Json

mutual

/-- A value as a document. -/
def document : Json → Document
  | .null => .null
  | .bool b => .bool b
  | .num n => .number (some n)
  | .str s => .text (some s)
  | .arr items => .array (documents items) .closed
  | .obj members => .object (memberDocuments members) .closed

def documents : List Json → List Document
  | [] => []
  | v :: rest => document v :: documents rest

def memberDocuments : List (String × Json) → List (Option String × Document)
  | [] => []
  | (k, v) :: rest => (some k, document v) :: memberDocuments rest

end

end Json

end StoreGate
