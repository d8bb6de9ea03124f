/-!
# Texts as bytes

UTF-8 encodes each character with one to four bytes. `Utf8.decode` reads any bytes: what is no
character is a gap, and a gap is as long as the longest beginning of a character that stands there.

* `Utf8.decode?` — the characters of bytes without gaps.
* `Utf8.decodeLossy` — the characters of any bytes, with the replacement character for each gap.
-/

namespace StoreGate

namespace Utf8

def bytes (cs : List Char) : List UInt8 := cs.flatMap String.utf8EncodeChar

/-! ## Decoding -/

/-- A byte that continues a character. -/
def isContinuation (b : UInt8) : Bool := decide (0x80 ≤ b) && decide (b ≤ 0xBF)

/-- The number of bytes of a character by its first byte; none if no character begins so. -/
def size? (a : UInt8) : Option Nat :=
  if a < 0x80 then some 1
  else if a < 0xC2 then none
  else if a < 0xE0 then some 2
  else if a < 0xF0 then some 3
  else if a < 0xF5 then some 4
  else none

/-- A second byte that may follow the first. It rules out long forms, surrogates and numbers past
the last character. -/
def mayFollow (a b : UInt8) : Bool :=
  if a = 0xE0 then decide (0xA0 ≤ b) && decide (b ≤ 0xBF)
  else if a = 0xED then decide (0x80 ≤ b) && decide (b ≤ 0x9F)
  else if a = 0xF0 then decide (0x90 ≤ b) && decide (b ≤ 0xBF)
  else if a = 0xF4 then decide (0x80 ≤ b) && decide (b ≤ 0x8F)
  else isContinuation b

/-- The lower six bits. -/
def low (b : UInt8) : Nat := b.toNat % 64

/-- The characters of bytes, with `none` for each gap. -/
def decode : List UInt8 → List (Option Char)
  | [] => []
  | a :: rest =>
    match size? a with
    | none => none :: decode rest
    | some 1 => some (Char.ofNat a.toNat) :: decode rest
    | some n =>
      match rest with
      | [] => [none]
      | b :: rest₁ =>
        if !mayFollow a b then none :: decode (b :: rest₁)
        else if n = 2 then some (Char.ofNat (a.toNat % 32 * 64 + low b)) :: decode rest₁
        else
          match rest₁ with
          | [] => [none]
          | c :: rest₂ =>
            if !isContinuation c then none :: decode (c :: rest₂)
            else if n = 3 then
              some (Char.ofNat ((a.toNat % 16 * 64 + low b) * 64 + low c)) :: decode rest₂
            else
              match rest₂ with
              | [] => [none]
              | d :: rest₃ =>
                if !isContinuation d then none :: decode (d :: rest₃)
                else
                  some (Char.ofNat (((a.toNat % 8 * 64 + low b) * 64 + low c) * 64 + low d)) ::
                    decode rest₃

/-- The characters of bytes, if there is no gap. -/
def decode? (bs : List UInt8) : Option (List Char) := (decode bs).mapM id

/-- What stands for a gap. -/
def replacement : Char := Char.ofNat 0xFFFD

def decodeLossy (bs : List UInt8) : List Char := (decode bs).map fun c => c.getD replacement

/-- Characters without the mark of byte order that may stand before them. -/
def withoutMark : List Char → List Char
  | c :: rest => if c.toNat = 0xFEFF then rest else c :: rest
  | [] => []

/-! ## Lemmas -/

theorem bytes_cons (c : Char) (cs : List Char) :
    bytes (c :: cs) = String.utf8EncodeChar c ++ bytes cs := rfl

/-! ## Examples -/

-- Long forms and surrogates are gaps, one for each byte; a beginning of a character is one gap.
example : decode [0xC0, 0x80] = [none, none] ∧ decode [0xED, 0xA0, 0x80] = [none, none, none] ∧
    decode [0xF0, 0x9F, 0x98, 0x80] = [some '😀'] ∧
    decode [0xF0, 0x9F, 0x41] = [none, some 'A'] := by
  decide +kernel

end Utf8

end StoreGate
