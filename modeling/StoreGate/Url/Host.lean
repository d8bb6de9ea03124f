import StoreGate.Decimal.Reading
import StoreGate.Decimal.Style
import StoreGate.Json.Printer
import StoreGate.Url.HostName

/-!
# Hosts in addresses

A host is a name, a number of thirty-two bits written in up to four parts, or eight pieces of
sixteen bits between brackets.

* `Host.parse` — the host that a text names.
* `Host.text` — its one written form.
-/

namespace StoreGate

inductive Host where
  | domain (name : String)
  | ipv4 (address : Nat)
  /-- Eight pieces. -/
  | ipv6 (pieces : List Nat)
deriving DecidableEq, Repr, Inhabited

/-- Why a text is no address. -/
inductive UrlFault where
  | noBase
  | emptyHost
  | badName
  | badPort
  | badIpv4
  | badIpv6
deriving DecidableEq, Repr

namespace UrlFault

def message : UrlFault → String
  | noBase => "relative address without a base"
  | emptyHost => "empty host"
  | badName => "invalid host name"
  | badPort => "invalid port number"
  | badIpv4 => "invalid IPv4 address"
  | badIpv6 => "invalid IPv6 address"

end UrlFault

namespace Host

/-! ## Numbers -/

/-- The base of a part by how it begins, and its digits. -/
def partDigits : List Char → Nat × List Char
  | '0' :: 'x' :: rest => (16, rest)
  | '0' :: 'X' :: rest => (16, rest)
  | '0' :: d :: rest => (8, d :: rest)
  | cs => (10, cs)

/-- The number that a part of an address spells. -/
def partValue? (cs : List Char) : Option Nat :=
  if cs.isEmpty then none
  else
    let (base, digits) := partDigits cs
    digits.foldl (fun n c =>
      match n, Document.hexValue? c with
      | some n, some d => if d < base then some (base * n + d) else none
      | _, _ => none) (some 0)

/-- The parts of an address; a point at the end is not counted. -/
def parts (cs : List Char) : List (List Char) :=
  let all := Percent.splitOn '.' cs
  if all.getLast? = some [] then all.dropLast else all

/-- A name whose last part is a number is an address. -/
def endsInNumber (cs : List Char) : Bool :=
  match (parts cs).getLast? with
  | none => false
  | some last => (!last.isEmpty && last.all Decimal.isDigit) || (partValue? last).isSome

/-- An address of one to four parts; the last fills the bytes that the others leave. -/
def ipv4? (cs : List Char) : Option Nat :=
  match (parts cs).mapM partValue? with
  | none => none
  | some values =>
    let count := values.length
    let last := values.getLast?.getD 0
    let others := values.dropLast
    if 4 < count ∨ count = 0 then none
    else if others.any (255 < ·) ∨ Nat.pow 256 (5 - count) ≤ last then none
    else some (last + (others.foldl (fun n v => n * 256 + v) 0) * Nat.pow 256 (5 - count))

/-! ## Pieces -/

/-- One piece: up to four hexadecimal digits. -/
def piece? (cs : List Char) : Option Nat :=
  if cs.isEmpty ∨ 4 < cs.length then none
  else (cs.mapM Document.hexValue?).map fun ds => ds.foldl (fun n d => 16 * n + d) 0

/-- A part of four: decimal digits without a leading zero, at most 255. -/
def byte? (cs : List Char) : Option Nat :=
  if cs.head? = some '0' ∧ 1 < cs.length then none
  else (Decimal.readNat? cs).filter fun n => decide (n ≤ 255)

/-- The last two pieces written as four bytes. -/
def lastPieces? (cs : List Char) : Option (List Nat) :=
  match (Percent.splitOn '.' cs).mapM byte? with
  | some [a, b, c, d] => some [a * 256 + b, c * 256 + d]
  | _ => none

/-- Pieces with colons between them; the last may be four bytes. -/
def pieces? : List (List Char) → Option (List Nat)
  | [] => some []
  | [last] => if last.contains '.' then lastPieces? last else (piece? last).map fun n => [n]
  | part :: rest => do
    let n ← piece? part
    let ns ← pieces? rest
    some (n :: ns)

/-- What stands before and after the first pair of colons. -/
def splitGap? : List Char → Option (List Char × List Char)
  | [] => none
  | ':' :: ':' :: rest => some ([], rest)
  | c :: rest => (splitGap? rest).map fun (before, after) => (c :: before, after)

/-- The pieces of a text, nothing for the empty one. -/
def side? (cs : List Char) : Option (List Nat) :=
  if cs.isEmpty then some [] else pieces? (Percent.splitOn ':' cs)

/-- Eight pieces; a pair of colons stands for as many zeros as are missing, at least one. -/
def ipv6? (cs : List Char) : Option (List Nat) :=
  match splitGap? cs with
  | none => (pieces? (Percent.splitOn ':' cs)).filter fun ns => decide (ns.length = 8)
  | some (before, after) =>
    if before.contains '.' then none
    else
      match side? before, side? after with
      | some xs, some ys =>
        if 8 ≤ xs.length + ys.length then none
        else some (xs ++ List.replicate (8 - xs.length - ys.length) 0 ++ ys)
      | _, _ => none

/-! ## Reading -/

/-- The host of a name that is ASCII already. -/
def ofName (name : List Char) : Except UrlFault Host :=
  if name.isEmpty then .error .emptyHost
  else if endsInNumber name then
    match ipv4? name with
    | some n => .ok (.ipv4 n)
    | none => .error .badIpv4
  else .ok (.domain (String.ofList name))

def parse (cs : List Char) : Except UrlFault Host :=
  match cs with
  | '[' :: rest =>
    if rest.getLast? = some ']' then
      match ipv6? rest.dropLast with
      | some ns => .ok (.ipv6 ns)
      | none => .error .badIpv6
    else .error .badIpv6
  | _ =>
    match (Utf8.decode? (Percent.decode cs)).bind HostName.ascii? with
    | none => .error .badName
    | some name => ofName name

/-! ## Writing -/

def ipv4Text (n : Nat) : String :=
  String.intercalate "."
    ([n / 16777216, n / 65536 % 256, n / 256 % 256, n % 256].map Decimal.natText)

def pieceText (n : Nat) : String :=
  String.ofList (Nat.toDigits 16 n)

/-- The length of the zeros at the start. -/
def zeros (ns : List Nat) : Nat := (ns.takeWhile (· == 0)).length

/-- The first of the longest runs of zeros: its place and length. -/
def longestZeros : Nat → List Nat → Nat × Nat
  | _, [] => (0, 0)
  | place, n :: rest =>
    let here := zeros (n :: rest)
    let (p, later) := longestZeros (place + 1) rest
    if here = 0 ∨ here < later then (p, later) else (place, here)

/-- Pieces with colons between them and the longest run of zeros left out. -/
def ipv6Text (ns : List Nat) : String :=
  let (place, count) := longestZeros 0 ns
  let join (ps : List Nat) := String.intercalate ":" (ps.map pieceText)
  if count < 2 then join ns
  else join (ns.take place) ++ "::" ++ join (ns.drop (place + count))

def text : Host → String
  | domain name => name
  | ipv4 n => ipv4Text n
  | ipv6 ns => "[" ++ ipv6Text ns ++ "]"

end Host

end StoreGate
