/-!
# Text literals in statements

A text in a statement stands between single quotes; a backslash makes the next character part of
the text. `Literal.quoteChars` writes a literal, `Literal.read` reads one after its opening quote.

* `Literal.read_quoteBody` — what is read is the text that was written, and what follows the
  literal is left as it is.
-/

namespace StoreGate

namespace Sql

namespace Literal

/-- The written form of one character of a text. -/
def escape (c : Char) : List Char :=
  if c = '\\' then ['\\', '\\'] else if c = '\'' then ['\\', '\''] else [c]

/-- The text with its closing quote. -/
def quoteBody (cs : List Char) : List Char := cs.flatMap escape ++ ['\'']

def quoteChars (cs : List Char) : List Char := '\'' :: quoteBody cs

/-- The literal of a text. -/
def quote (s : String) : String := String.ofList (quoteChars s.toList)

/-- The text of a literal after its opening quote, and what follows the closing one. -/
def read : List Char → Option (List Char × List Char)
  | [] => none
  | '\'' :: rest => some ([], rest)
  | '\\' :: c :: rest => (read rest).map fun (cs, r) => (c :: cs, r)
  | c :: rest => if c = '\\' then none else (read rest).map fun (cs, r) => (c :: cs, r)

theorem read_quoteBody (cs rest : List Char) : read (quoteBody cs ++ rest) = some (cs, rest) := by
  unfold quoteBody
  induction cs with
  | nil => rfl
  | cons c cs ih =>
    simp only [List.append_assoc, List.singleton_append] at ih ⊢
    by_cases hb : c = '\\'
    · subst hb
      simp [escape, read, ih]
    · by_cases hq : c = '\''
      · subst hq
        simp [escape, read, ih]
      · simp [escape, read, hb, hq, ih]

end Literal

end Sql

end StoreGate
