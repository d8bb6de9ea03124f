/-!
# Clipped texts

A text longer than a limit is cut after that many characters and marked with three points.

* `Text.clip_of_le` — a text within the limit stays as it is.
-/

namespace StoreGate

namespace Text

/-- The first `limit` characters and three points, or the whole text if it is not longer. -/
def clip (limit : Nat) (s : String) : String :=
  if s.toList.length ≤ limit then s else String.ofList (s.toList.take limit) ++ "..."

theorem clip_of_le {limit : Nat} {s : String} (h : s.toList.length ≤ limit) : clip limit s = s := by
  simp [clip, h]

theorem clip_of_lt {limit : Nat} {s : String} (h : limit < s.toList.length) :
    clip limit s = String.ofList (s.toList.take limit) ++ "..." := by
  simp [clip, Nat.not_le.2 h]

end Text

end StoreGate
