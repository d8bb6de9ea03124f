import StoreGate.SortedMap

/-!
# Header fields

Names of header fields are compared in lower case, so they are kept in lower case, and a field that
is set again replaces the one before. What may stand in a name or a value is checked before a field
is set.

* `HeaderName.ofText?` — a name as it is kept.
* `HeaderValue.isValid` — a text that may be sent as a value.
-/

namespace StoreGate

/-- Header fields by their lowered names. -/
abbrev Headers := Dict String

namespace HeaderName

/-- The characters of a name. -/
def isNameChar (c : Char) : Bool :=
  c.isAlphanum ||
    ['!', '#', '$', '%', '&', '\'', '*', '+', '-', '.', '^', '_', '\x60', '|', '~'].contains c

/-- The longest name. -/
def longest : Nat := 65535

/-- A name in lower case, if it may be one. -/
def ofText? (s : String) : Option String :=
  let cs := s.toList
  if cs.isEmpty || decide (longest < cs.length) || !cs.all isNameChar then none
  else some (String.ofList (cs.map Char.toLower))

end HeaderName

namespace HeaderValue

/-- No control character but the tab. -/
def isValueChar (c : Char) : Bool := c == '\t' || (decide (0x20 ≤ c.toNat) && c.toNat != 0x7F)

def isValid (s : String) : Bool := s.toList.all isValueChar

/-- Visible ASCII, blanks and tabs: a value that can be read as text. -/
def isReadable (s : String) : Bool := s.toList.all fun c => isValueChar c && decide (c.toNat < 0x7F)

end HeaderValue

namespace Headers

/-- Sets fields one after another over those there are. -/
def setAll (headers : Headers) (fields : List (String × String)) : Headers :=
  fields.foldl (fun h f => h.insert f.1 f.2) headers

/-- Fields over others: of two with one name the upper one stays. -/
def overlay (upper lower : Headers) : Headers := setAll lower upper.entries

end Headers

end StoreGate
