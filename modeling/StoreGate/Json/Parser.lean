import StoreGate.Json.Document
import StoreGate.Decimal.Reading

/-!
# Read JSON

`Document.parse` reads a JSON text. Blanks are the space, the tab and the two line ends; a number
has no leading zero and a digit on both sides of its point; a text holds no control character; no
comma stands before a closing bracket; nothing but blanks follows the value.

* `Number.ofLiteral` — the number that a literal denotes. An integer literal that fits 64 bits stays
  an integer. Any other literal is a double computed from its leading digits, as many as fit 64
  bits, with one multiplication or division by a power of ten, so that the last bit can differ from
  the nearest double.
-/

namespace StoreGate

/-! ## Number literals -/

/-- A number literal cut into its parts; there is no point if `fraction` is empty. -/
structure NumberLiteral where
  negative : Bool
  whole : List Char
  fraction : List Char
  /-- The exponent's sign and digits. -/
  exponent : Option (Bool × List Char)
deriving Repr

namespace Number

/-- Takes digits into the significand while it stays within 64 bits; gives the significand, the
number of digits taken, and the digits that did not fit. -/
def absorb (significand taken : Nat) : List Char → Nat × Nat × List Char
  | [] => (significand, taken, [])
  | c :: cs =>
    let next := 10 * significand + Decimal.digitValue c
    if next < UInt64.size then absorb next (taken + 1) cs else (significand, taken, c :: cs)

/-- The product `x · 10 ^ exponent` by one multiplication or division, or by divisions in steps of
`10 ^ 308` far below the range. Nothing if the result is beyond all doubles. -/
def scale (x : Double) (exponent : Int) : Nat → Option Double
  | 0 => some x
  | fuel + 1 =>
    if exponent.natAbs ≤ 308 then
      let power := Double.ofRatio false (Nat.pow 10 exponent.natAbs) 1
      if 0 ≤ exponent then
        let y := x.mul power
        if y.isFinite then some y else none
      else some (x.div power)
    else if x.isZero then some x
    else if 0 ≤ exponent then none
    else scale (x.div (Double.ofRatio false (Nat.pow 10 308) 1)) (exponent + 308) fuel

/-- The greatest exponent that is followed exactly. -/
def greatestExponent : Nat := 2147483647

/-- The number that a literal denotes, if it is within range. -/
def ofLiteral (l : NumberLiteral) : Option Number :=
  let (significand, _, extra) := absorb 0 0 l.whole
  let shift : Int := extra.length
  let signed (x : Double) : Number := .double (if l.negative then x.neg else x)
  if l.fraction.isEmpty && l.exponent.isNone && extra.isEmpty then
    if !l.negative then some (.int significand)
    else if 0 < significand && decide (Json.minInt64 ≤ -(significand : Int)) then
      some (.int (-(significand : Int)))
    else some (signed (Double.ofInt significand))
  else
    let (significand, places, _) := absorb significand 0 l.fraction
    let start : Int := shift - (places : Int)
    match l.exponent with
    | none => (scale (Double.ofInt significand) start 8).map signed
    | some (below, digits) =>
      let e := Decimal.ofDigits digits
      if greatestExponent < e then
        if significand = 0 ∨ below then some (signed Double.zero) else none
      else
        let exponent := if below then start - (e : Int) else start + (e : Int)
        (scale (Double.ofInt significand) exponent 8).map signed

end Number

namespace Document

/-! ## Tokens -/

def isBlank (c : Char) : Bool := c == ' ' || c == '\n' || c == '\t' || c == '\r'

def skipBlanks : List Char → List Char
  | [] => []
  | c :: cs => if isBlank c then skipBlanks cs else c :: cs

def hexValue? (c : Char) : Option Nat :=
  if '0' ≤ c ∧ c ≤ '9' then some (c.toNat - '0'.toNat)
  else if 'a' ≤ c ∧ c ≤ 'f' then some (c.toNat - 'a'.toNat + 10)
  else if 'A' ≤ c ∧ c ≤ 'F' then some (c.toNat - 'A'.toNat + 10)
  else none

/-- Four hexadecimal digits. -/
def hexUnit? (a b c d : Char) : Option Nat :=
  match hexValue? a, hexValue? b, hexValue? c, hexValue? d with
  | some a, some b, some c, some d => some (((a * 16 + b) * 16 + c) * 16 + d)
  | _, _, _, _ => none

/-- A piece of a text: a character, a UTF-16 unit that is half of a pair, or the end. -/
inductive Piece where
  | char (c : Char)
  | surrogate (unit : Nat)
deriving Repr

/-- The character that a two-letter escape stands for. -/
def shortEscape? : Char → Option Char
  | '"' => some '"'
  | '\\' => some '\\'
  | '/' => some '/'
  | 'b' => some '\x08'
  | 'f' => some '\x0c'
  | 'n' => some '\n'
  | 'r' => some '\r'
  | 't' => some '\t'
  | _ => none

/-- The pieces of a text up to its closing quote, and what follows the quote. -/
def pieces : List Char → Except DecodeError (List Piece × List Char)
  | [] => .error (.malformed "text")
  | '"' :: rest => .ok ([], rest)
  | '\\' :: 'u' :: a :: b :: c :: d :: rest =>
    match hexUnit? a b c d with
    | none => .error (.malformed "escape")
    | some unit =>
      let piece :=
        if 0xD800 ≤ unit ∧ unit ≤ 0xDFFF then Piece.surrogate unit else .char (Char.ofNat unit)
      (pieces rest).map fun (ps, r) => (piece :: ps, r)
  | '\\' :: e :: rest =>
    match shortEscape? e with
    | none => .error (.malformed "escape")
    | some c => (pieces rest).map fun (ps, r) => (.char c :: ps, r)
  | c :: rest =>
    if c = '\\' ∨ c.toNat < 0x20 then .error (.malformed "text")
    else (pieces rest).map fun (ps, r) => (.char c :: ps, r)

/-- Joins surrogate pairs; nothing if half of a pair stands alone. -/
def joinPieces : List Piece → Option (List Char)
  | [] => some []
  | .char c :: rest => (joinPieces rest).map (c :: ·)
  | .surrogate hi :: .surrogate lo :: rest =>
    if hi < 0xDC00 ∧ 0xDC00 ≤ lo then
      (joinPieces rest).map (Char.ofNat (0x10000 + (hi - 0xD800) * 0x400 + (lo - 0xDC00)) :: ·)
    else none
  | .surrogate _ :: _ => none

/-- A text after its opening quote. -/
def parseText (cs : List Char) : Except DecodeError (Option String × List Char) :=
  (pieces cs).map fun (ps, rest) => ((joinPieces ps).map String.ofList, rest)

/-- A number after its optional minus sign. -/
def parseNumber (negative : Bool) (cs : List Char) :
    Except DecodeError (Option Number × List Char) :=
  let whole := cs.takeWhile Decimal.isDigit
  let rest := cs.dropWhile Decimal.isDigit
  if whole.isEmpty || (whole.head? == some '0' && 1 < whole.length) then
    .error (.malformed "number")
  else
    let point : Except DecodeError (List Char × List Char) :=
      match rest with
      | '.' :: after =>
        let fraction := after.takeWhile Decimal.isDigit
        if fraction.isEmpty then .error (.malformed "number")
        else .ok (fraction, after.dropWhile Decimal.isDigit)
      | _ => .ok ([], rest)
    match point with
    | .error e => .error e
    | .ok (fraction, rest) =>
      match rest with
      | c :: after =>
        if c = 'e' ∨ c = 'E' then
          let (below, after) :=
            match after with
            | '+' :: after => (false, after)
            | '-' :: after => (true, after)
            | _ => (false, after)
          let digits := after.takeWhile Decimal.isDigit
          if digits.isEmpty then .error (.malformed "number")
          else
            .ok (Number.ofLiteral ⟨negative, whole, fraction, some (below, digits)⟩,
              after.dropWhile Decimal.isDigit)
        else .ok (Number.ofLiteral ⟨negative, whole, fraction, none⟩, rest)
      | [] => .ok (Number.ofLiteral ⟨negative, whole, fraction, none⟩, [])

/-! ## Values -/

/-- What a text begins with, and what follows it, unless the text stops being JSON within it. -/
structure Parsed (α : Type) where
  doc : α
  rest : Except DecodeError (List Char)

/-- A value that is read as a whole or not at all. -/
def Parsed.scalar {α : Type} (wrap : α → Document) :
    Except DecodeError (α × List Char) → Parsed Document
  | .ok (a, rest) => ⟨wrap a, .ok rest⟩
  | .error e => ⟨.broken e, .error e⟩

/-- The fault that a container ends with, if it is not closed. -/
def Parsed.ending {α : Type} (p : Parsed α) : Ending :=
  match p.rest with
  | .ok _ => .closed
  | .error e => .cut e

mutual

/-- One value at the start of the text. -/
def parseValue : Nat → List Char → Parsed Document
  | 0, _ => ⟨.broken (.malformed "value"), .error (.malformed "value")⟩
  | fuel + 1, cs =>
    match skipBlanks cs with
    | 'n' :: 'u' :: 'l' :: 'l' :: rest => ⟨.null, .ok rest⟩
    | 't' :: 'r' :: 'u' :: 'e' :: rest => ⟨.bool true, .ok rest⟩
    | 'f' :: 'a' :: 'l' :: 's' :: 'e' :: rest => ⟨.bool false, .ok rest⟩
    | '"' :: rest => Parsed.scalar .text (parseText rest)
    | '-' :: rest => Parsed.scalar .number (parseNumber true rest)
    | '[' :: rest =>
      match skipBlanks rest with
      | ']' :: rest => ⟨.array [] .closed, .ok rest⟩
      | rest =>
        let p := parseItems fuel rest
        ⟨.array p.doc p.ending, p.rest⟩
    | '{' :: rest =>
      match skipBlanks rest with
      | '}' :: rest => ⟨.object [] .closed, .ok rest⟩
      | rest =>
        let p := parseMembers fuel rest
        ⟨.object p.doc p.ending, p.rest⟩
    | c :: rest =>
      if Decimal.isDigit c then Parsed.scalar .number (parseNumber false (c :: rest))
      else ⟨.broken (.malformed "value"), .error (.malformed "value")⟩
    | [] => ⟨.broken (.malformed "value"), .error (.malformed "value")⟩

/-- One or more items up to the closing bracket. -/
def parseItems : Nat → List Char → Parsed (List Document)
  | 0, _ => ⟨[], .error (.malformed "array")⟩
  | fuel + 1, cs =>
    let item := parseValue fuel cs
    match item.rest with
    | .error e => ⟨[item.doc], .error e⟩
    | .ok rest =>
      match skipBlanks rest with
      | ']' :: rest => ⟨[item.doc], .ok rest⟩
      | ',' :: rest =>
        let p := parseItems fuel rest
        ⟨item.doc :: p.doc, p.rest⟩
      | _ => ⟨[item.doc], .error (.malformed "array")⟩

/-- One or more members up to the closing brace. -/
def parseMembers : Nat → List Char → Parsed (List (Option String × Document))
  | 0, _ => ⟨[], .error (.malformed "object")⟩
  | fuel + 1, cs =>
    match skipBlanks cs with
    | '"' :: rest =>
      match parseText rest with
      | .error e => ⟨[], .error e⟩
      | .ok (key, rest) =>
        match skipBlanks rest with
        | ':' :: rest =>
          let member := parseValue fuel rest
          match member.rest with
          | .error e => ⟨[(key, member.doc)], .error e⟩
          | .ok rest =>
            match skipBlanks rest with
            | '}' :: rest => ⟨[(key, member.doc)], .ok rest⟩
            | ',' :: rest =>
              let p := parseMembers fuel rest
              ⟨(key, member.doc) :: p.doc, p.rest⟩
            | _ => ⟨[(key, member.doc)], .error (.malformed "object")⟩
        | _ => ⟨[(key, .broken (.malformed "object"))], .error (.malformed "object")⟩
    | _ => ⟨[], .error (.malformed "object")⟩

end

/-- The document at the start of a text, whatever follows it. -/
def parseStart (text : String) : Parsed Document :=
  let cs := text.toList
  parseValue (2 * cs.length + 1) cs

/-- The document that a text spells, and the fault that follows it if the text goes on. -/
def parse (text : String) : Document × Ending :=
  let p := parseStart text
  match p.rest with
  | .ok rest => (p.doc, if (skipBlanks rest).isEmpty then .closed else .cut .trailing)
  | .error _ => (p.doc, .closed)

/-- Reads all of a text with a reader of documents. -/
def decodeText {α : Type} (read : Nat → Document → Except DecodeError α) (text : String) :
    Except DecodeError α :=
  let (d, ending) := parse text
  match read nestingLimit d with
  | .error e => .error e
  | .ok a => close ending a

end Document

/-- The data that a JSON text holds. -/
def Json.parse (text : String) : Except DecodeError Json :=
  Document.decodeText Document.value text

end StoreGate
