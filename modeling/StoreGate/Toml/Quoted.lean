import StoreGate.Toml.Table
import StoreGate.Json.Parser

/-!
# Texts of a settings file

A text stands between quotes, which may have escapes in them, or between apostrophes, which may not.
Either may be tripled; then the text goes over several lines, and a line break right after the
opening marks is left out.

* `Toml.parseText` — a text on one line, or over several ones, after its opening marks.
-/

namespace StoreGate

namespace Toml

/-- A character that stands for itself in texts and comments: no control character but the tab. -/
def isPlain (c : Char) : Bool := c == '\t' || (decide (0x20 ≤ c.toNat) && c.toNat != 0x7F)

/-- The character that an escape of one letter stands for. -/
def shortEscape? : Char → Option Char
  | 'b' => some '\x08'
  | 't' => some '\t'
  | 'n' => some '\n'
  | 'f' => some '\x0c'
  | 'r' => some '\r'
  | '"' => some '"'
  | '\\' => some '\\'
  | _ => none

/-- The character of a number in hexadecimal digits. -/
def codePoint? (digits : List Char) : Option Char :=
  match digits.mapM Document.hexValue? with
  | none => none
  | some values =>
    let n := values.foldl (fun n v => 16 * n + v) 0
    if n < 0xD800 ∨ (0xDFFF < n ∧ n ≤ 0x10FFFF) then some (Char.ofNat n) else none

/-- The character that an escape stands for, after the backslash, and what follows. -/
def escape? : List Char → Option (Char × List Char)
  | [] => none
  | 'u' :: rest =>
    if rest.length < 4 then none else (codePoint? (rest.take 4)).map fun c => (c, rest.drop 4)
  | 'U' :: rest =>
    if rest.length < 8 then none else (codePoint? (rest.take 8)).map fun c => (c, rest.drop 8)
  | c :: rest => (shortEscape? c).map fun d => (d, rest)

theorem length_escape? {cs rest : List Char} {c : Char} (h : escape? cs = some (c, rest)) :
    rest.length < cs.length := by
  unfold escape? at h
  split at h
  · cases h
  · rename_i r
    split at h
    · cases h
    · obtain ⟨d, -, hd⟩ := Option.map_eq_some_iff.1 h
      cases hd
      simp only [List.length_drop, List.length_cons]
      omega
  · rename_i r
    split at h
    · cases h
    · obtain ⟨d, -, hd⟩ := Option.map_eq_some_iff.1 h
      cases hd
      simp only [List.length_drop, List.length_cons]
      omega
  · obtain ⟨d, -, hd⟩ := Option.map_eq_some_iff.1 h
    cases hd
    simp

abbrev TextResult := Except TomlFault (List Char × List Char)

/-- Puts a character before a text. -/
def TextResult.cons (c : Char) (r : TextResult) : TextResult :=
  r.map fun (cs, rest) => (c :: cs, rest)

def unclosed : TextResult := .error (.malformed "text")

/-! ## On one line -/

/-- A text up to its closing quote. -/
def basicText (cs : List Char) : TextResult :=
  match cs with
  | [] => unclosed
  | '"' :: rest => .ok ([], rest)
  | '\\' :: rest =>
    match h : escape? rest with
    | none => .error (.malformed "escape")
    | some (c, after) =>
      have := length_escape? h
      TextResult.cons c (basicText after)
  | c :: rest => if isPlain c then TextResult.cons c (basicText rest) else unclosed
termination_by cs.length
decreasing_by all_goals simp_all <;> omega

/-- A text up to its closing apostrophe. -/
def literalText : List Char → TextResult
  | [] => unclosed
  | c :: rest =>
    if c = '\'' then .ok ([], rest)
    else if isPlain c then TextResult.cons c (literalText rest)
    else unclosed

/-! ## Over several lines -/

/-- What follows a line break. -/
def afterBreak? : List Char → Option (List Char)
  | '\n' :: rest => some rest
  | '\r' :: '\n' :: rest => some rest
  | _ => none

/-- Only blanks stand before the next line break. -/
def endsLine (cs : List Char) : Bool :=
  (afterBreak? (cs.dropWhile fun c => c == ' ' || c == '\t')).isSome

/-- Up to two marks after the closing ones still belong to the text. -/
def closing (mark : Char) (rest : List Char) : List Char × List Char :=
  match rest with
  | a :: b :: after =>
    if a = mark then if b = mark then ([mark, mark], after) else ([mark], b :: after)
    else ([], rest)
  | [a] => if a = mark then ([mark], []) else ([], rest)
  | [] => ([], [])

/-- A text over several lines up to its closing quotes. A backslash at the end of a line leaves out
the blanks and line breaks that follow; `skipping` is set among those. -/
def longBasicText (skipping : Bool) (cs : List Char) : TextResult :=
  match cs with
  | [] => unclosed
  | '"' :: '"' :: '"' :: rest => .ok (closing '"' rest)
  | '\r' :: '\n' :: rest =>
    if skipping then longBasicText true rest else TextResult.cons '\n' (longBasicText false rest)
  | '\n' :: rest =>
    if skipping then longBasicText true rest else TextResult.cons '\n' (longBasicText false rest)
  | '\\' :: rest =>
    if endsLine rest then longBasicText true rest
    else
      match h : escape? rest with
      | none => .error (.malformed "escape")
      | some (c, after) =>
        have := length_escape? h
        TextResult.cons c (longBasicText false after)
  | c :: rest =>
    if skipping && (c == ' ' || c == '\t') then longBasicText true rest
    else if isPlain c then TextResult.cons c (longBasicText false rest)
    else unclosed
termination_by cs.length
decreasing_by all_goals simp_all <;> omega

/-- A text over several lines up to its closing apostrophes. -/
def longLiteralText : List Char → TextResult
  | [] => unclosed
  | '\'' :: '\'' :: '\'' :: rest => .ok (closing '\'' rest)
  | '\r' :: '\n' :: rest => TextResult.cons '\n' (longLiteralText rest)
  | c :: rest =>
    if c = '\n' ∨ isPlain c then TextResult.cons c (longLiteralText rest) else unclosed

/-! ## Either -/

/-- A text without its first line break. -/
def afterFirstBreak (cs : List Char) : List Char := (afterBreak? cs).getD cs

/-- A text from its opening marks on; nothing if none begins here. -/
def parseText? : List Char → Option TextResult
  | '"' :: '"' :: '"' :: rest => some (longBasicText false (afterFirstBreak rest))
  | '"' :: rest => some (basicText rest)
  | '\'' :: '\'' :: '\'' :: rest => some (longLiteralText (afterFirstBreak rest))
  | '\'' :: rest => some (literalText rest)
  | _ => none

end Toml

end StoreGate
