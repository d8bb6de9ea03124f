import StoreGate.SortedMap
import StoreGate.Decimal.Double

/-!
# JSON values

A `Json` value is data: its objects list their members by increasing key, each key once, and its
numbers are integers of 64 bits, signed or not, or finite doubles.

* `Json.Canonical` — the values that are data in this sense.
* `Json.object` — the object of a list of members, put in order.
-/

namespace StoreGate

/-- An integer literal that fits 64 bits, or a double. -/
inductive Number where
  | int (n : Int)
  | double (x : Double)
deriving DecidableEq, Repr

inductive Json where
  | null
  | bool (b : Bool)
  | num (n : Number)
  | str (s : String)
  | arr (items : List Json)
  | obj (members : List (String × Json))
deriving Repr, Inhabited

namespace Json

def int (n : Int) : Json := .num (.int n)

def nat (n : Nat) : Json := .num (.int n)

def double (x : Double) : Json := if x.isFinite then .num (.double x) else .null

/-- An object of the given members; of two members with one key the later stays. -/
def object (members : List (String × Json)) : Json := .obj (SortedMap.sortEntries members)

/-- The member of an object at `key`. -/
def member? (key : String) : Json → Option Json
  | .obj members => (members.find? fun e => decide (e.1 = key)).map (·.2)
  | _ => none

/-- A member that is written only if there is a value. -/
def optionalMember (key : String) (value : Option Json) : List (String × Json) :=
  match value with
  | some v => [(key, v)]
  | none => []

/-- A value, or `null` where there is none. -/
def ofOption {α : Type} (encode : α → Json) : Option α → Json
  | some a => encode a
  | none => .null

def ofStrings (items : List String) : Json := .arr (items.map .str)

def ofDict {α : Type} (encode : α → Json) (m : Dict α) : Json :=
  .obj (m.entries.map fun e => (e.1, encode e.2))

/-! ## Views -/

def str? : Json → Option String
  | .str s => some s
  | _ => none

def bool? : Json → Option Bool
  | .bool b => some b
  | _ => none

def arr? : Json → Option (List Json)
  | .arr items => some items
  | _ => none

def isNull : Json → Bool
  | .null => true
  | _ => false

/-! ## Integers within bounds -/

/-- The bounds of a signed 64-bit integer. -/
def minInt64 : Int := -9223372036854775808

def maxInt64 : Int := 9223372036854775807

/-- The greatest unsigned 64-bit integer. -/
def maxNat64 : Int := 18446744073709551615

/-! ## Canonical values -/

mutual

/-- Objects are in key order with one member per key, and numbers are within their formats. -/
def Canonical : Json → Prop
  | .null => True
  | .bool _ => True
  | .num (.int n) => minInt64 ≤ n ∧ n ≤ maxNat64
  | .num (.double x) => x.isFinite = true
  | .str _ => True
  | .arr items => CanonicalItems items
  | .obj members => SortedMap.Increasing members ∧ CanonicalMembers members

def CanonicalItems : List Json → Prop
  | [] => True
  | v :: rest => Canonical v ∧ CanonicalItems rest

def CanonicalMembers : List (String × Json) → Prop
  | [] => True
  | (_, v) :: rest => Canonical v ∧ CanonicalMembers rest

end

end Json

end StoreGate
