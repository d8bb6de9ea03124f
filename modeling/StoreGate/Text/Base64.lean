import StoreGate.Text.Utf8

/-!
# Base64

Three bytes become four letters of an alphabet of sixty-four; equals signs fill up the last four.
-/

namespace StoreGate

namespace Base64

/-- The letter of a number below sixty-four. -/
def letter (n : Nat) : Char :=
  if n < 26 then Char.ofNat (65 + n)
  else if n < 52 then Char.ofNat (71 + n)
  else if n < 62 then Char.ofNat (n - 4)
  else if n = 62 then '+'
  else '/'

/-- The first `count` letters of three bytes, filled up to four. -/
def group (a b c : UInt8) (count : Nat) : List Char :=
  let n := (a.toNat * 256 + b.toNat) * 256 + c.toNat
  ([n / 262144, n / 4096 % 64, n / 64 % 64, n % 64].take count).map letter ++
    List.replicate (4 - count) '='

def encode : List UInt8 → List Char
  | [] => []
  | [a] => group a 0 0 2
  | [a, b] => group a b 0 3
  | a :: b :: c :: rest => group a b c 4 ++ encode rest

/-- The encoded bytes of a text. -/
def ofText (s : String) : String := String.ofList (encode (Utf8.bytes s.toList))

example : ofText "admin:secret" = "YWRtaW46c2VjcmV0" := by decide +kernel

example : ofText "a" = "YQ==" := by decide +kernel

end Base64

end StoreGate
