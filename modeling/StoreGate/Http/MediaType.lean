import StoreGate.Http.Header

/-!
# Media types

A media type is a type, a slash, a subtype, and parameters after semicolons. The last plus sign in a
subtype cuts a suffix off, which names the format that the subtype is written in.

* `MediaType.read?` — type and subtype in lower case, if the whole text is well formed.
* `MediaType.isJson` — the text names JSON, or something written in JSON.
-/

namespace StoreGate

namespace MediaType

/-! ## Parameters -/

/-- Where a reader of parameters stands. -/
inductive Place where
  /-- Before a name. -/
  | gap
  | name
  /-- After an equals sign. -/
  | equals
  | value
  /-- After an opening quote. -/
  | quote
  | quoted
  /-- After a closing quote. -/
  | closed
deriving DecidableEq, Repr

namespace Place

/-- What may stand between quotes. -/
def mayBeQuoted (c : Char) : Bool := decide (0x20 ≤ c.toNat) && c.toNat != 0x7F

/-- The place after a character, if the character may stand there. -/
def step (place : Place) (c : Char) : Option Place :=
  let token := HeaderName.isNameChar c
  match place with
  | gap => if c = ' ' then some gap else if token then some name else none
  | name => if c = '=' then some equals else if token then some name else none
  | equals => if c = '"' then some quote else if token then some value else none
  | value => if c = ';' then some gap else if token then some value else none
  | quote => if mayBeQuoted c then some quoted else none
  | quoted => if c = '"' then some closed else if mayBeQuoted c then some quoted else none
  | closed => if c = ';' then some gap else if c = ' ' then some closed else none

/-- The text may end here. -/
def mayEnd : Place → Bool
  | gap | equals | value | closed => true
  | name | quote | quoted => false

end Place

/-- Well-formed parameters after the first semicolon. -/
def areParameters (cs : List Char) : Bool :=
  ((cs.foldlM Place.step Place.gap).map Place.mayEnd).getD false

/-! ## Types -/

def lowered (cs : List Char) : List Char := cs.map Char.toLower

/-- Type and subtype, the suffix included. -/
def read? (s : String) : Option (List Char × List Char) :=
  let cs := s.toList
  let type := cs.takeWhile HeaderName.isNameChar
  if type.isEmpty || !HeaderValue.isReadable s then none
  else
    match cs.dropWhile HeaderName.isNameChar with
    | '/' :: rest =>
      let subtype := rest.takeWhile HeaderName.isNameChar
      match rest.dropWhile HeaderName.isNameChar with
      | [] => some (lowered type, lowered subtype)
      | ';' :: parameters =>
        if subtype.isEmpty || !areParameters parameters then none
        else some (lowered type, lowered subtype)
      | _ => none
    | _ => none

/-- A subtype without its suffix, and the suffix. A plus sign at the start cuts nothing off. -/
def splitSuffix (subtype : List Char) : List Char × Option (List Char) :=
  match subtype.reverse.dropWhile fun c => c != '+' with
  | '+' :: c :: before =>
    ((c :: before).reverse, some (subtype.reverse.takeWhile fun c => c != '+').reverse)
  | _ => (subtype, none)

/-- The name of JSON. -/
def jsonName : List Char := ['j', 's', 'o', 'n']

/-- The type of all formats of programs. -/
def applicationName : List Char := ['a', 'p', 'p', 'l', 'i', 'c', 'a', 't', 'i', 'o', 'n']

def isJson (s : String) : Bool :=
  match read? s with
  | none => false
  | some (type, subtype) =>
    let (name, suffix) := splitSuffix subtype
    type == applicationName && (name == jsonName || suffix == some jsonName)

example : isJson "application/vnd.logs+JSON; charset=\"utf-8\"" = true := by decide +kernel

example : isJson "application/json; charset" = false := by decide +kernel

end MediaType

end StoreGate
