import StoreGate.Text.LowerCase
import StoreGate.Text.MarkTable
import StoreGate.Text.PrintTable

/-!
# Quoted texts in messages

A text inside a message stands between double quotes with every character visible: the common
control characters, the quote and the backslash as two-letter escapes, and every other character
that does not show on its own as its number in hexadecimal digits.
-/

namespace StoreGate

namespace Text

/-- The character belongs to the one before it and shows as a part of it. -/
def extendsOther (c : Char) : Bool :=
  inRanges nonspacingRanges c.toNat || inRanges extendingRanges c.toNat

/-- The character shows on a page by itself. -/
def isPlain (c : Char) : Bool :=
  if c.toNat < 0x80 then decide (0x20 ≤ c.toNat) && decide (c.toNat < 0x7F)
  else
    !extendsOther c && !inRanges unprintableRanges c.toNat && !inRanges fillerRanges c.toNat

/-- The visible form of one character. -/
def visibleChar (c : Char) : List Char :=
  if c = '\x00' then ['\\', '0']
  else if c = '\t' then ['\\', 't']
  else if c = '\r' then ['\\', 'r']
  else if c = '\n' then ['\\', 'n']
  else if c = '\\' then ['\\', '\\']
  else if c = '"' then ['\\', '"']
  else if isPlain c then [c]
  else ['\\', 'u', '\x7b'] ++ Nat.toDigits 16 c.toNat ++ ['\x7d']

/-- The text between quotes with every character visible. -/
def quoted (s : String) : String :=
  String.ofList ('"' :: s.toList.flatMap visibleChar ++ ['"'])

end Text

end StoreGate
