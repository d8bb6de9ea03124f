import StoreGate.Url.Basic

/-!
# Read addresses

A text is cut into its parts from left to right: scheme, authority up to a slash, path up to a
question mark, query up to a number sign, fragment. In addresses of the web a backslash counts as a
slash, `.` and `..` are taken out of the path, and tabs and line ends are passed over.

* `Url.parse` — an address that stands alone.
* `Url.join` — an address that is read from where another one points.
-/

namespace StoreGate

namespace Url

/-! ## Cutting -/

def isSlash (c : Char) : Bool := c == '/' || c == '\\'

/-- Blanks and control characters around a text do not count, nor do tabs and line ends in it. -/
def clean (cs : List Char) : List Char :=
  let start := cs.dropWhile fun c => decide (c.toNat ≤ 0x20)
  let both := (start.reverse.dropWhile fun c => decide (c.toNat ≤ 0x20)).reverse
  both.filter fun c => !(c == '\t' || c == '\n' || c == '\r')

def isSchemeChar (c : Char) : Bool := c.isAlphanum || c == '+' || c == '-' || c == '.'

/-- The lowered scheme before the first colon, and what follows it. -/
def splitScheme? (cs : List Char) : Option (List Char × List Char) :=
  match cs.takeWhile isSchemeChar, cs.dropWhile isSchemeChar with
  | c :: scheme, ':' :: rest =>
    if c.isAlpha then some ((c :: scheme).map Char.toLower, rest) else none
  | _, _ => none

/-- What ends an authority. -/
def endsAuthority (c : Char) : Bool := isSlash c || c == '?' || c == '#'

/-- Path, query and fragment as written. -/
structure Tail where
  path : List Char
  query : Option (List Char)
  fragment : Option (List Char)
deriving Repr

/-- What stands before the first mark, and what stands after it. -/
def splitMark (mark : Char) (cs : List Char) : List Char × Option (List Char) :=
  match cs.dropWhile fun c => c != mark with
  | [] => (cs, none)
  | _ :: rest => (cs.takeWhile fun c => c != mark, some rest)

def splitTail (cs : List Char) : Tail :=
  let (body, fragment) := splitMark '#' cs
  let (path, query) := splitMark '?' body
  ⟨path, query, fragment⟩

/-! ## Paths -/

/-- Cuts a path at its slashes. -/
def splitPath : List Char → List (List Char)
  | [] => [[]]
  | c :: rest =>
    if isSlash c then [] :: splitPath rest
    else
      match splitPath rest with
      | [] => [[c]]
      | part :: parts => (c :: part) :: parts

/-- A dot as it may be written. -/
def dots : List Char → Option Nat
  | [] => some 0
  | '.' :: rest => (dots rest).map (· + 1)
  | '%' :: '2' :: e :: rest => if e = 'e' ∨ e = 'E' then (dots rest).map (· + 1) else none
  | _ => none

def encodeSegment (cs : List Char) : String := String.ofList (Percent.encode keptInPath cs)

/-- Goes through the segments of a path after those in `before`: one dot stays where it is, two
dots go up. A path that ends with dots ends with a slash. -/
def resolve (before : List String) : List (List Char) → List String
  | [] => before
  | segment :: rest =>
    match dots segment with
    | some 1 => if rest.isEmpty then before ++ [""] else resolve before rest
    | some 2 => if rest.isEmpty then before.dropLast ++ [""] else resolve before.dropLast rest
    | _ => resolve (before ++ [encodeSegment segment]) rest

/-- A path from the root. -/
def rootPath (cs : List Char) : List String :=
  match cs with
  | c :: rest => resolve [] (splitPath (if isSlash c then rest else c :: rest))
  | [] => [""]

/-! ## Authorities -/

/-- A name or password as it is kept. -/
def encodeUser (cs : List Char) : String := String.ofList (Percent.encode keptInUser cs)

/-- Name, password, and what follows the last `@`. -/
def splitUser (authority : List Char) : String × String × List Char :=
  if authority.contains '@' then
    let host := (authority.reverse.takeWhile fun c => c != '@').reverse
    let user := authority.take (authority.length - host.length - 1)
    let (name, password) := splitMark ':' user
    (encodeUser name, encodeUser (password.getD []), host)
  else ("", "", authority)

/-- The host up to the first colon outside of brackets, and what follows. -/
def splitHost (inside : Bool) : List Char → List Char × List Char
  | [] => ([], [])
  | c :: rest =>
    if c = ':' ∧ !inside then ([], c :: rest)
    else
      let inside := if c = '[' then true else if c = ']' then false else inside
      let (host, tail) := splitHost inside rest
      (c :: host, tail)

/-- The port after a colon; the default one of the scheme is not kept. -/
def readPort (scheme : String) : List Char → Except UrlFault (Option Nat)
  | ':' :: digits =>
    if digits.isEmpty then .ok none
    else
      match (Decimal.readNat? digits).filter fun n => decide (n ≤ 65535) with
      | some n => .ok (if defaultPort? scheme = some n then none else some n)
      | none => .error .badPort
  | _ => .ok none

/-- An address of the web after the slashes that follow its scheme. -/
def afterSlashes (scheme : String) (cs : List Char) : Except UrlFault Url :=
  let authority := cs.takeWhile fun c => !endsAuthority c
  let tail := splitTail (cs.dropWhile fun c => !endsAuthority c)
  let (username, password, address) := splitUser authority
  let (host, port) := splitHost false address
  if host.isEmpty then .error .emptyHost
  else
    match Host.parse host with
    | .error e => .error e
    | .ok h =>
      (readPort scheme port).map fun port => {
        scheme := scheme
        username := username
        password := password
        host := some h
        port := port
        path := rootPath tail.path
        query := tail.query.map fun q => String.ofList (Percent.encode keptInQuery q)
        fragment := tail.fragment.map fun f => String.ofList (Percent.encode keptInFragment f) }

/-! ## Addresses -/

/-- An address that is not of the web; it is not looked into. -/
def foreign (scheme : String) (cs : List Char) : Url where
  scheme := scheme
  username := ""
  password := ""
  host := none
  port := none
  path := [String.ofList (Percent.encode (fun c => decide (0x20 ≤ c.toNat) && c.toNat != 0x7F) cs)]
  query := none
  fragment := none

/-- An address after its scheme and colon. -/
def afterScheme (scheme : List Char) (rest : List Char) : Except UrlFault Url :=
  let scheme := String.ofList scheme
  if isWeb scheme then afterSlashes scheme (rest.dropWhile isSlash) else .ok (foreign scheme rest)

/-- The address that a text spells. -/
def parseChars (cs : List Char) : Except UrlFault Url :=
  match splitScheme? (clean cs) with
  | none => .error .noBase
  | some (scheme, rest) => afterScheme scheme rest

def parse (s : String) : Except UrlFault Url := parseChars s.toList

/-! ## Joining -/

def encodeQuery (cs : List Char) : String := String.ofList (Percent.encode keptInQuery cs)

def encodeFragment (cs : List Char) : String := String.ofList (Percent.encode keptInFragment cs)

/-- The path of a reference that names one: from the root, or from the last slash of the base. -/
def joinPath (base : Url) (path : List Char) : List String :=
  match path with
  | c :: rest =>
    if isSlash c then resolve [] (splitPath rest)
    else resolve base.path.dropLast (splitPath (c :: rest))
  | [] => base.path

/-- A reference without a scheme. One that begins with two slashes names another host. -/
def joinRelative (base : Url) (cs : List Char) : Except UrlFault Url :=
  match cs with
  | '/' :: '/' :: rest => afterSlashes base.scheme rest
  | _ =>
    if 2 ≤ (cs.takeWhile isSlash).length then afterSlashes base.scheme (cs.dropWhile isSlash)
    else
      let tail := splitTail cs
      .ok { base with
        path := joinPath base tail.path
        query :=
          match tail.query with
          | some q => some (encodeQuery q)
          | none => if tail.path.isEmpty then base.query else none
        fragment := tail.fragment.map encodeFragment }

/-- The address that a reference means at an address of the web. -/
def join (base : Url) (reference : String) : Except UrlFault Url :=
  let cs := clean reference.toList
  match splitScheme? cs with
  | none => joinRelative base cs
  | some (scheme, rest) =>
    if scheme = base.scheme.toList ∧ (rest.takeWhile isSlash).length < 2 then
      joinRelative base rest
    else afterScheme scheme rest

end Url

end StoreGate
