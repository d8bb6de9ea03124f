import StoreGate.Toml.Scalar
import StoreGate.Toml.Quoted
import StoreGate.Text.Utf8

/-!
# Read settings files

A file is read line by line: a blank line, a header in brackets, or keys, an equals sign and a
value, each with a comment behind it or not. Arrays may go over several lines and end with a comma;
tables between braces may not.

* `Toml.parse` — the table that a file spells, as a document.
-/

namespace StoreGate

namespace Toml

/-- What was read, and what follows it. -/
abbrev Step (α : Type) := Except TomlFault (α × List Char)

/-! ## Blanks and comments -/

def skipSpaces (cs : List Char) : List Char := cs.dropWhile fun c => c == ' ' || c == '\t'

/-- What follows blanks and a comment. -/
def skipComment (cs : List Char) : List Char :=
  match skipSpaces cs with
  | '#' :: rest => rest.dropWhile isPlain
  | rest => rest

/-- The end of a line after blanks and a comment. -/
def endLine (cs : List Char) : Except TomlFault (List Char) :=
  match skipComment cs with
  | [] => .ok []
  | rest =>
    match afterBreak? rest with
    | some after => .ok after
    | none => .error (.malformed "line")

/-- Skips blanks, comments and line breaks. -/
def skipLines : Nat → List Char → List Char
  | 0, cs => cs
  | fuel + 1, cs =>
    match afterBreak? (skipComment cs) with
    | some after => skipLines fuel after
    | none =>
      match skipSpaces cs with
      | '#' :: _ => skipComment cs
      | rest => rest

/-! ## Keys -/

def isKeyChar (c : Char) : Bool := c.isAlphanum || c == '_' || c == '-'

/-- One key, plain or quoted on one line. -/
def parseKey : List Char → Step String
  | '"' :: rest => (basicText rest).map fun (cs, r) => (String.ofList cs, r)
  | '\'' :: rest => (literalText rest).map fun (cs, r) => (String.ofList cs, r)
  | cs =>
    let key := cs.takeWhile isKeyChar
    if key.isEmpty then .error (.malformed "key")
    else .ok (String.ofList key, cs.dropWhile isKeyChar)

/-- The most keys with points between them, and the most arrays within each other, is below this. -/
def depthLimit : Nat := 80

/-- Keys with points between them, and blanks around each: all but the last, and the last. -/
def parseKeys : Nat → List Char → Step (List String × String)
  | 0, _ => .error .tooDeep
  | room + 1, cs =>
    match parseKey (skipSpaces cs) with
    | .error e => .error e
    | .ok (key, rest) =>
      match skipSpaces rest with
      | '.' :: rest => (parseKeys room rest).map fun ((path, last), r) => ((key :: path, last), r)
      | rest => .ok (([], key), rest)

/-- Keys before an equals sign. -/
def parseKeysEquals (cs : List Char) : Step (List String × String) :=
  match parseKeys (depthLimit - 1) cs with
  | .error e => .error e
  | .ok (keys, '=' :: rest) => .ok (keys, rest)
  | .ok _ => .error (.malformed "entry")

/-! ## Values -/

/-- One word. A blank between a date and a time of day belongs to the word. -/
def parseWord (cs : List Char) : Step Toml :=
  let word := cs.takeWhile isWordChar
  let rest := cs.dropWhile isWordChar
  let single : Step Toml :=
    match ofWord? word with
    | some v => .ok (v, rest)
    | none => .error (.malformed "value")
  match rest with
  | ' ' :: c :: after =>
    if isDate word && Decimal.isDigit c then
      let time := (c :: after).takeWhile isWordChar
      if isTimeWithOffset time then
        .ok (.moment (String.ofList (word ++ ' ' :: time)), (c :: after).dropWhile isWordChar)
      else .error (.malformed "value")
    else single
  | _ => single

mutual

/-- One value; fewer than `room` arrays and tables may be within each other. -/
def parseValue : Nat → Nat → List Char → Step Toml
  | 0, _, _ => .error (.malformed "value")
  | fuel + 1, room, cs =>
    match parseText? cs with
    | some r => r.map fun (chars, rest) => (.text (String.ofList chars), rest)
    | none =>
      match cs with
      | '[' :: rest =>
        if room ≤ 1 then .error .tooDeep
        else (parseItems fuel (room - 1) rest).map fun (items, r) => (.array items, r)
      | '{' :: rest =>
        if room ≤ 1 then .error .tooDeep
        else
          match skipSpaces rest with
          | '}' :: rest => .ok (.table .inline [], rest)
          | rest =>
            match parseEntries fuel (room - 1) rest with
            | .error e => .error e
            | .ok (entries, rest) => (fill [] entries).map fun ms => (.table .inline ms, rest)
      | _ => parseWord cs

/-- Items up to the closing bracket. -/
def parseItems : Nat → Nat → List Char → Step (List Toml)
  | 0, _, _ => .error (.malformed "array")
  | fuel + 1, room, cs =>
    match skipLines cs.length cs with
    | ']' :: rest => .ok ([], rest)
    | start =>
      match parseValue fuel room start with
      | .error e => .error e
      | .ok (item, rest) =>
        match skipLines rest.length rest with
        | ']' :: rest => .ok ([item], rest)
        | ',' :: rest => (parseItems fuel room rest).map fun (items, r) => (item :: items, r)
        | _ => .error (.malformed "array")

/-- One or more entries up to the closing brace. -/
def parseEntries : Nat → Nat → List Char → Step (List Entry)
  | 0, _, _ => .error (.malformed "table")
  | fuel + 1, room, cs =>
    match parseKeysEquals cs with
    | .error e => .error e
    | .ok ((path, key), rest) =>
      match parseValue fuel room (skipSpaces rest) with
      | .error e => .error e
      | .ok (value, rest) =>
        match skipSpaces rest with
        | '}' :: rest => .ok ([⟨path, key, value⟩], rest)
        | ',' :: rest =>
          (parseEntries fuel room rest).map fun (es, r) => (⟨path, key, value⟩ :: es, r)
        | _ => .error (.malformed "table")

end

/-! ## Lines -/

/-- A header after its opening brackets. -/
def parseHeader (closing : List Char) (make : List String → String → Line) (cs : List Char) :
    Step Line :=
  match parseKeys (depthLimit - 1) cs with
  | .error e => .error e
  | .ok ((path, key), rest) =>
    match closing.isPrefixOf? rest with
    | none => .error (.malformed "header")
    | some rest => (endLine rest).map fun r => (make path key, r)

/-- An entry on a line of its own. -/
def parseEntry (cs : List Char) : Step Line :=
  match parseKeysEquals cs with
  | .error e => .error e
  | .ok ((path, key), rest) =>
    match parseValue (2 * rest.length + 1) depthLimit (skipSpaces rest) with
    | .error e => .error e
    | .ok (value, rest) => (endLine rest).map fun r => (.entry ⟨path, key, value⟩, r)

/-- The lines of a file, blank ones left out. -/
def parseLines : Nat → List Char → Except TomlFault (List Line)
  | 0, _ => .ok []
  | fuel + 1, cs =>
    let next (r : Step Line) : Except TomlFault (List Line) :=
      match r with
      | .error e => .error e
      | .ok (line, rest) => (parseLines fuel rest).map (line :: ·)
    match skipSpaces cs with
    | [] => .ok []
    | '[' :: '[' :: rest => next (parseHeader [']', ']'] .nextHeader rest)
    | '[' :: rest => next (parseHeader [']'] .header rest)
    | c :: rest =>
      if c = '#' ∨ c = '\r' ∨ c = '\n' then
        match endLine (c :: rest) with
        | .error e => .error e
        | .ok rest => parseLines fuel rest
      else next (parseEntry (c :: rest))

/-- The table that a file spells, as a document. -/
def parse (text : String) : Except TomlFault Document :=
  let cs := Utf8.withoutMark text.toList
  match parseLines (cs.length + 1) cs with
  | .error e => .error e
  | .ok lines => (assemble lines).map fun ms => .object (memberDocuments ms) .closed

end Toml

end StoreGate
