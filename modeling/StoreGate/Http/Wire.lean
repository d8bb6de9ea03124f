import StoreGate.Http.Exchange
import StoreGate.Text.Blank

/-!
# Messages on the wire

A request as it is sent over a connection that is closed after one reply, and the reply that the
bytes of such a connection spell. The body of a reply is as long as a field of its head says, comes
in chunks, or goes on to the end of the connection.

* `Wire.requestBytes` — a request.
* `Wire.readReply` — a reply; one that is cut short in its body keeps its head.
-/

namespace StoreGate

namespace Wire

/-! ## Requests -/

def lineEnd : String := "\r\n"

def headerLine (name value : String) : String := name ++ ": " ++ value ++ lineEnd

/-- What is asked for at a server. -/
def target (u : Url) : String := u.pathText ++ Url.partText "?" u.query

/-- The name of a server, with its port if it is not the default one. -/
def hostText (u : Url) : String := ((u.host.map Host.text).getD "") ++ u.portText

/-- The first line and the fields of a request. -/
def requestHead (r : Request) : String :=
  r.method.text ++ " " ++ target r.url ++ " HTTP/1.1" ++ lineEnd ++
    headerLine "host" (hostText r.url) ++ headerLine "accept" "*/*" ++
    headerLine "connection" "close" ++
    headerLine "content-length" (Decimal.natText r.body.size) ++
    String.join (r.headers.entries.map fun h => headerLine h.1 h.2) ++ lineEnd

def requestBytes (r : Request) : ByteArray := (requestHead r).toUTF8 ++ r.body

/-! ## Heads of replies -/

/-- A line without its line end; its characters stand in reverse. -/
def lineOf : List Char → List Char
  | '\r' :: line => line.reverse
  | line => line.reverse

/-- The lines up to the first empty one, and what follows it. `line` holds what has been read of a
line, and `lines` the lines before it, both in reverse. -/
def readHead (line : List Char) (lines : List (List Char)) :
    List UInt8 → Option (List (List Char) × List UInt8)
  | [] => none
  | b :: rest =>
    let c := Char.ofNat b.toNat
    if c = '\n' then
      if (lineOf line).isEmpty then some (lines.reverse, rest)
      else readHead [] (lineOf line :: lines) rest
    else readHead (c :: line) lines rest

/-- The status in the first line of a reply. -/
def readStatus? (line : List Char) : Option Nat :=
  match Percent.splitOn ' ' line with
  | version :: code :: _ =>
    if ['H', 'T', 'T', 'P', '/'].isPrefixOf version then Decimal.readNat? code else none
  | _ => none

/-- A field of a head, its name in lower case. -/
def readField (line : List Char) : String × String :=
  (String.ofList ((line.takeWhile fun c => c != ':').map Char.toLower),
    String.ofList (Text.trimChars ((line.dropWhile fun c => c != ':').drop 1)))

/-! ## Bodies of replies -/

def cutShort : TransportFault := ⟨false, "the connection was closed too early"⟩

/-- The number in a line of hexadecimal digits, whatever follows them. -/
def chunkSize? (line : List Char) : Option Nat :=
  let digits := line.takeWhile fun c => (Document.hexValue? c).isSome
  if digits.isEmpty then none
  else some (digits.foldl (fun n c => 16 * n + (Document.hexValue? c).getD 0) 0)

/-- The first line, and what follows it. -/
def readLine (line : List Char) : List UInt8 → Option (List Char × List UInt8)
  | [] => none
  | b :: rest =>
    let c := Char.ofNat b.toNat
    if c = '\n' then some (lineOf line, rest) else readLine (c :: line) rest

/-- The bytes of chunks up to the empty one; at most as many chunks as there is fuel for. -/
def readChunks : Nat → List UInt8 → Except TransportFault (List UInt8)
  | 0, _ => .error cutShort
  | fuel + 1, bytes =>
    match readLine [] bytes with
    | none => .error cutShort
    | some (line, rest) =>
      match chunkSize? line with
      | none => .error cutShort
      | some 0 => .ok []
      | some n =>
        if rest.length < n + 2 then .error cutShort
        else (readChunks fuel (rest.drop (n + 2))).map (rest.take n ++ ·)

/-- The body behind a head with the given fields. -/
def readBody (fields : List (String × String)) (rest : List UInt8) :
    Except TransportFault (List UInt8) :=
  if fields.lookup "transfer-encoding" == some "chunked" then readChunks rest.length rest
  else
    match (fields.lookup "content-length").bind fun n => Decimal.readNat? n.toList with
    | none => .ok rest
    | some n => if rest.length < n then .error cutShort else .ok (rest.take n)

/-! ## Replies -/

/-- The first reply that is not provisional; at most as many as there is fuel for are passed
over. -/
def readReplies : Nat → List UInt8 → Outcome
  | 0, _ => .error cutShort
  | fuel + 1, bytes =>
    match readHead [] [] bytes with
    | some (first :: lines, rest) =>
      match readStatus? first with
      | none => .error ⟨false, "the answer is not HTTP"⟩
      | some status =>
        if status < 200 then readReplies fuel rest
        else
          let fields := lines.map readField
          .ok ⟨status, fields, (readBody fields rest).map fun bytes => ⟨bytes.toArray⟩⟩
    | _ => .error cutShort

/-- The reply that the bytes of a connection spell. -/
def readReply (bytes : ByteArray) : Outcome := readReplies (bytes.size + 1) bytes.toList

example : (readChunks 9 "3\r\nabc\r\n2\r\nde\r\n0\r\n\r\n".toUTF8.toList).toOption =
    some "abcde".toUTF8.toList := by decide +kernel

end Wire

end StoreGate
