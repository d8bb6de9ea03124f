import StoreGate.Url.Host

/-!
# Addresses

An address has a scheme, and, if the scheme is one of the web, a host, a port, a path of segments,
and perhaps a query and a fragment. Segments, query and fragment are kept as they are written, with
percent signs for what may not stand there.

* `Url.text` — the one written form of an address.
-/

namespace StoreGate

structure Url where
  scheme : String
  username : String
  password : String
  /-- No host: an address that is not of the web. -/
  host : Option Host
  /-- No port: the default one of the scheme. -/
  port : Option Nat
  path : List String
  query : Option String
  fragment : Option String
deriving DecidableEq, Repr, Inhabited

namespace Url

/-! ## Schemes -/

/-- The port of a scheme of the web. -/
def defaultPort? (scheme : String) : Option Nat :=
  if scheme = "http" ∨ scheme = "ws" then some 80
  else if scheme = "https" ∨ scheme = "wss" then some 443
  else if scheme = "ftp" then some 21
  else none

def isWeb (scheme : String) : Bool := (defaultPort? scheme).isSome

/-! ## What may stand where -/

/-- What a fragment keeps. -/
def keptInFragment (c : Char) : Bool :=
  decide (0x20 < c.toNat) && decide (c.toNat < 0x7F) && !(['"', '<', '>', '\x60'].contains c)

/-- What a segment of a path keeps. -/
def keptInPath (c : Char) : Bool := keptInFragment c && !(['#', '?', '\x7b', '\x7d'].contains c)

/-- What a name or password keeps. -/
def keptInUser (c : Char) : Bool :=
  keptInPath c && !(['/', ':', ';', '=', '@', '[', '\\', ']', '^', '|'].contains c)

/-- What a query of the web keeps. -/
def keptInQuery (c : Char) : Bool :=
  decide (0x20 < c.toNat) && decide (c.toNat < 0x7F) && !(['"', '#', '<', '>', '\''].contains c)

/-! ## Writing -/

/-- Name and password before the host. -/
def userText (u : Url) : String :=
  if u.username.isEmpty && u.password.isEmpty then ""
  else u.username ++ (if u.password.isEmpty then "" else ":" ++ u.password) ++ "@"

def portText (u : Url) : String :=
  match u.port with
  | some n => ":" ++ Decimal.natText n
  | none => ""

/-- Scheme, host and port. -/
def originText (u : Url) : String :=
  match u.host with
  | some h => u.scheme ++ "://" ++ u.userText ++ h.text ++ u.portText
  | none => u.scheme ++ ":"

def pathText (u : Url) : String :=
  match u.host with
  | some _ => String.join (u.path.map ("/" ++ ·))
  | none => String.intercalate "/" u.path

/-- A part after its mark, if it is there. -/
def partText (mark : String) : Option String → String
  | some s => mark ++ s
  | none => ""

def text (u : Url) : String :=
  u.originText ++ u.pathText ++ partText "?" u.query ++ partText "#" u.fragment

/-- The address with fields added to its query. -/
def withFields (u : Url) (fields : List (String × String)) : Url :=
  let form := String.ofList (Percent.form fields)
  match u.query with
  | none | some "" => { u with query := if form.isEmpty then none else some form }
  | some q => { u with query := some (if fields.isEmpty then q else q ++ "&" ++ form) }

/-- The address as it goes over the wire: without fragment, and without user and password, whose
field of credentials is left out with them. -/
def onWire (u : Url) : Url := { u with username := "", password := "", fragment := none }

end Url

end StoreGate
