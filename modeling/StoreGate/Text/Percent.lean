import StoreGate.Text.Utf8
import StoreGate.Json.Parser

/-!
# Percent encoding

In an address, a character that would be misread is written as a percent sign and two hexadecimal
digits for each of its bytes. Which characters stay depends on the place. Forms write a blank as a
plus sign as well.

* `Percent.encode`, `Percent.decode` — one way, and back to bytes.
* `Percent.pairs`, `Percent.form` — the fields of a form, read and written.
-/

namespace StoreGate

namespace Percent

/-! ## Encoding -/

def hexDigit (n : Nat) : Char := if n < 10 then Char.ofNat (48 + n) else Char.ofNat (55 + n)

def encodeByte (b : UInt8) : List Char :=
  ['%', hexDigit (b.toNat / 16), hexDigit (b.toNat % 16)]

/-- A character that is kept, if it is one of ASCII, or its bytes. -/
def encodeChar (keep : Char → Bool) (c : Char) : List Char :=
  if c.toNat < 0x80 && keep c then [c] else (String.utf8EncodeChar c).flatMap encodeByte

def encode (keep : Char → Bool) (cs : List Char) : List Char := cs.flatMap (encodeChar keep)

/-! ## Decoding -/

/-- The bytes of a text; a percent sign without two digits stands for itself. -/
def decode : List Char → List UInt8
  | [] => []
  | '%' :: a :: b :: rest =>
    match Document.hexValue? a, Document.hexValue? b with
    | some x, some y => UInt8.ofNat (16 * x + y) :: decode rest
    | _, _ => 0x25 :: decode (a :: b :: rest)
  | c :: rest => String.utf8EncodeChar c ++ decode rest

/-! ## Forms -/

/-- A letter, a digit or a mark that forms keep. -/
def keptInForm (c : Char) : Bool := c.isAlphanum || c == '*' || c == '-' || c == '.' || c == '_'

def encodeField (cs : List Char) : List Char :=
  cs.flatMap fun c => if c = ' ' then ['+'] else encodeChar keptInForm c

/-- The fields of a form as one text. -/
def form (fields : List (String × String)) : List Char :=
  List.intercalate ['&'] (fields.map fun f =>
    encodeField f.1.toList ++ '=' :: encodeField f.2.toList)

/-- A name or value of a form; gaps in its bytes are filled. -/
def decodeField (cs : List Char) : String :=
  String.ofList (Utf8.decodeLossy (decode (cs.map fun c => if c = '+' then ' ' else c)))

/-- Cuts a text at every `mark`. -/
def splitOn (mark : Char) : List Char → List (List Char)
  | [] => [[]]
  | c :: rest =>
    if c = mark then [] :: splitOn mark rest
    else
      match splitOn mark rest with
      | [] => [[c]]
      | part :: parts => (c :: part) :: parts

/-- The fields of a form in written order; a field without a value is empty. -/
def pairs (cs : List Char) : List (String × String) :=
  ((splitOn '&' cs).filter fun part => !part.isEmpty).map fun part =>
    (decodeField (part.takeWhile fun c => c != '='),
      decodeField ((part.dropWhile fun c => c != '=').drop 1))

end Percent

end StoreGate
