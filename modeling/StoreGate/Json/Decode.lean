import StoreGate.Json.Parser

/-!
# Readers of documents

A `Decoder` reads a value of one type out of a document. A record is read from an object, member by
member in written order, or from an array that lists its fields in order.

* A key that no field has is passed over; a field that is given twice, under one name or two, is a
  fault.
* `Presence` says where a field may be missing.
-/

namespace StoreGate

/-- Reads a value out of a document in which `room` more arrays and objects may be opened. -/
abbrev Decoder (α : Type) := Nat → Document → Except DecodeError α

namespace Decode

/-- The fault of a document that is not what was asked for: its own, if it cannot be read. -/
def mismatch (what : String) : Document → DecodeError
  | .number none => .numberOutOfRange
  | .text none => .loneSurrogate
  | .broken e => e
  | _ => .expected what

/-! ## Scalars -/

def text : Decoder String
  | _, .text (some s) => .ok s
  | _, d => .error (mismatch "text" d)

def bool : Decoder Bool
  | _, .bool b => .ok b
  | _, d => .error (mismatch "truth value" d)

/-- An integer literal within `lo … hi`. -/
def int (lo hi : Int) : Decoder Int
  | _, .number (some (.int n)) =>
    if lo ≤ n ∧ n ≤ hi then .ok n else .error (.expected "integer in range")
  | _, d => .error (mismatch "integer" d)

def int64 : Decoder Int := int Json.minInt64 Json.maxInt64

/-- An integer literal from zero to `hi`. -/
def natUpTo (hi : Int) : Decoder Nat := fun room d => (int 0 hi room d).map Int.toNat

def nat64 : Decoder Nat := natUpTo Json.maxNat64

/-- A number; an integer literal counts as its nearest double. -/
def double : Decoder Double
  | _, .number (some (.double x)) => .ok x
  | _, .number (some (.int n)) => .ok (Double.ofInt n)
  | _, d => .error (mismatch "number" d)

/-- Any data. -/
def data : Decoder Json := Document.value

/-- A text that `read?` understands. -/
def word {α : Type} (what : String) (read? : String → Option α) : Decoder α := fun room d =>
  match text room d with
  | .error e => .error e
  | .ok s =>
    match read? s with
    | some a => .ok a
    | none => .error (.expected what)

/-- One of a few words, given as a text or as an object with the word as its key and `null`. -/
def choice {α : Type} (what : String) (read? : String → Option α) : Decoder α
  | room, .object ((some key, .null) :: rest) ending =>
    match room with
    | 0 => .error .tooDeep
    | _ + 1 =>
      match read? key with
      | none => .error (.expected what)
      | some a =>
        match rest with
        | [] => Document.close ending a
        | _ :: _ => .error (.malformed what)
  | room, d => word what read? room d

/-- A value, or `null` for nothing. -/
def optional {α : Type} (read : Decoder α) : Decoder (Option α)
  | _, .null => .ok none
  | room, d => (read room d).map some

/-! ## Lists and maps -/

/-- The items of an array, each read by `read`. -/
def items {α : Type} (read : Document → Except DecodeError α) :
    List Document → Ending → Except DecodeError (List α)
  | [], ending => Document.close ending []
  | d :: rest, ending =>
    match read d with
    | .error e => .error e
    | .ok a => (items read rest ending).map (a :: ·)

def list {α : Type} (read : Decoder α) : Decoder (List α)
  | room, .array ds ending =>
    match room with
    | 0 => .error .tooDeep
    | room + 1 => items (read room) ds ending
  | _, d => .error (mismatch "array" d)

/-- The members of an object, each value read by `read`. -/
def entries {α : Type} (read : Document → Except DecodeError α) :
    List (Option String × Document) → Ending → Except DecodeError (List (String × α))
  | [], ending => Document.close ending []
  | (none, _) :: _, _ => .error .loneSurrogate
  | (some k, d) :: rest, ending =>
    match read d with
    | .error e => .error e
    | .ok a => (entries read rest ending).map ((k, a) :: ·)

/-- An object as a map; the last of several members with one key stays. -/
def dict {α : Type} (read : Decoder α) : Decoder (Dict α)
  | room, .object members ending =>
    match room with
    | 0 => .error .tooDeep
    | room + 1 => (entries (read room) members ending).map SortedMap.ofList
  | _, d => .error (mismatch "object" d)

/-! ## Records -/

/-- Where a field may be missing. -/
inductive Presence where
  /-- It is always there. -/
  | required
  /-- An object may leave it out, a list of fields may not. -/
  | optional
  /-- It may be left out, and a list of fields may end before it. -/
  | defaulted
deriving DecidableEq, Repr

/-- A field of a record: the names that stand for it, and what its value changes in the record. -/
structure Field (ρ : Type) where
  names : List String
  presence : Presence
  read : Nat → Document → Except DecodeError (ρ → ρ)

/-- A field that is read by `read` and stored by `set`. -/
def field {ρ α : Type} (names : List String) (presence : Presence) (read : Decoder α)
    (set : α → ρ → ρ) : Field ρ :=
  ⟨names, presence, fun room d => (read room d).map set⟩

/-- The name that a field goes by in messages. -/
def Field.name {ρ : Type} (f : Field ρ) : String := f.names.headD ""

/-- The faults of leaving out the fields at the given places. -/
def checkMissing {ρ : Type} (fields : List (Field ρ)) (seen : List String) (r : ρ) :
    Except DecodeError ρ :=
  match fields.find? fun f => f.presence == .required && !seen.contains f.name with
  | some f => .error (.missing f.name)
  | none => .ok r

/-- Reads the members of an object into a record; `seen` names the fields read before. -/
def members {ρ : Type} (fields : List (Field ρ)) (room : Nat) :
    List (Option String × Document) → Ending → List String → ρ → Except DecodeError ρ
  | [], ending, seen, r =>
    match ending with
    | .cut e => .error e
    | .closed | .lenient => checkMissing fields seen r
  | (none, _) :: _, _, _, _ => .error .loneSurrogate
  | (some key, d) :: rest, ending, seen, r =>
    match fields.find? fun f => f.names.contains key with
    | none =>
      match d.skim with
      | .error e => .error e
      | .ok () => members fields room rest ending seen r
    | some f =>
      if seen.contains f.name then .error (.duplicate f.name)
      else
        match f.read room d with
        | .error e => .error e
        | .ok update => members fields room rest ending (f.name :: seen) (update r)

/-- Reads a list of the fields of a record in order; a lenient list may go on after them. -/
def positional {ρ : Type} (room : Nat) :
    List (Field ρ) → List Document → Ending → ρ → Except DecodeError ρ
  | [], [], ending, r => Document.close ending r
  | [], _ :: _, .lenient, r => .ok r
  | [], _ :: _, _, _ => .error .trailing
  | f :: fields, [], ending, r =>
    match ending with
    | .cut e => .error e
    | .closed | .lenient =>
      if (f :: fields).all (·.presence == .defaulted) then .ok r else .error .tooShort
  | f :: fields, d :: ds, ending, r =>
    match f.read room d with
    | .error e => .error e
    | .ok update => positional room fields ds ending (update r)

/-- A record whose fields start as in `initial`. -/
def record {ρ : Type} (initial : ρ) (fields : List (Field ρ)) : Decoder ρ
  | room, .object ms ending =>
    match room with
    | 0 => .error .tooDeep
    | room + 1 => members fields room ms ending [] initial
  | room, .array ds ending =>
    match room with
    | 0 => .error .tooDeep
    | room + 1 => positional room fields ds ending initial
  | _, d => .error (mismatch "record" d)

/-- Fields of a record that stand together in a record within it. -/
def group {ρ : Type} (names : List String) (fields : List (Field ρ)) : Field ρ :=
  ⟨names, .defaulted, record id (fields.map fun f =>
    ⟨f.names, f.presence, fun room d => (f.read room d).map fun update before => update ∘ before⟩)⟩

end Decode

end StoreGate
