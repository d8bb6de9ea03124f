import StoreGate.Json.Basic
import StoreGate.Decimal.Style

/-!
# Written JSON

The compact form has no blanks; the indented form gives every item and member a line of its own,
two blanks deeper than its container. Both escape a quote, a backslash and the control characters,
and nothing else.
-/

namespace StoreGate

namespace Json

/-! ## Text -/

def hexDigit (n : Nat) : Char :=
  if n < 10 then Char.ofNat ('0'.toNat + n) else Char.ofNat ('a'.toNat + (n - 10))

/-- The written form of one character of a text. -/
def escapeChar (c : Char) : List Char :=
  if c = '"' then ['\\', '"']
  else if c = '\\' then ['\\', '\\']
  else if c = '\n' then ['\\', 'n']
  else if c = '\r' then ['\\', 'r']
  else if c = '\t' then ['\\', 't']
  else if c = '\x08' then ['\\', 'b']
  else if c = '\x0c' then ['\\', 'f']
  else if c.toNat < 0x20 then
    ['\\', 'u', '0', '0', hexDigit (c.toNat / 16), hexDigit (c.toNat % 16)]
  else [c]

def writeText (s : String) : List Char :=
  '"' :: s.toList.flatMap escapeChar ++ ['"']

def writeNumber : Number → List Char
  | .int n => Decimal.intDigits n
  | .double x => DecimalStyle.data.write x

/-! ## Compact form -/

mutual

def write : Json → List Char
  | .null => ['n', 'u', 'l', 'l']
  | .bool true => ['t', 'r', 'u', 'e']
  | .bool false => ['f', 'a', 'l', 's', 'e']
  | .num n => writeNumber n
  | .str s => writeText s
  | .arr items => '[' :: writeItems items ++ [']']
  | .obj members => '{' :: writeMembers members ++ ['}']

def writeItems : List Json → List Char
  | [] => []
  | [v] => write v
  | v :: rest => write v ++ ',' :: writeItems rest

def writeMembers : List (String × Json) → List Char
  | [] => []
  | [(k, v)] => writeText k ++ ':' :: write v
  | (k, v) :: rest => writeText k ++ ':' :: (write v ++ ',' :: writeMembers rest)

end

/-- The compact text of a value. -/
def render (v : Json) : String := String.ofList (write v)

/-! ## Indented form -/

def newline (depth : Nat) : List Char := '\n' :: List.replicate (2 * depth) ' '

mutual

def writeIndented (depth : Nat) : Json → List Char
  | .arr [] => ['[', ']']
  | .arr items => '[' :: writeIndentedItems (depth + 1) items ++ newline depth ++ [']']
  | .obj [] => ['{', '}']
  | .obj members => '{' :: writeIndentedMembers (depth + 1) members ++ newline depth ++ ['}']
  | v => write v

def writeIndentedItems (depth : Nat) : List Json → List Char
  | [] => []
  | [v] => newline depth ++ writeIndented depth v
  | v :: rest => newline depth ++ writeIndented depth v ++ ',' :: writeIndentedItems depth rest

def writeIndentedMembers (depth : Nat) : List (String × Json) → List Char
  | [] => []
  | [(k, v)] => newline depth ++ writeText k ++ ':' :: ' ' :: writeIndented depth v
  | (k, v) :: rest =>
    newline depth ++ writeText k ++
      ':' :: ' ' :: (writeIndented depth v ++ ',' :: writeIndentedMembers depth rest)

end

/-- The indented text of a value. -/
def renderIndented (v : Json) : String := String.ofList (writeIndented 0 v)

end Json

end StoreGate
