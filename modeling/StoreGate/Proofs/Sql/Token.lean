import StoreGate.Proofs.Sql.Literal
import StoreGate.Proofs.Sql.Plain

/-!
# Reading statements

A statement is read from its start to its end: outside of quotes every character stands for itself,
and a quote opens a literal, which has to be closed. What is read from the parts of a statement is
put together as the parts are, as long as no part ends inside of a literal.

* `Sql.lex` — the tokens of a statement, if all of its literals are closed.
* `Sql.Token.outline`, `Sql.Token.texts` — the statement with its literals blanked, and what they
  say.
* `Sql.Reads` — how a part of a statement reads, whatever follows it.
* `Sql.Reads.append`, `Sql.Reads.plain`, `Sql.Reads.quote` — parts in a row, plain parts, literals.
-/

namespace StoreGate

namespace Sql

/-! ## Tokens -/

/-- What a reader of a statement sees: a character outside of quotes, or a literal. -/
inductive Token where
  | char (c : Char)
  | literal (text : String)
deriving DecidableEq, Repr

namespace Token

/-- The tokens as a text, with a question mark for every literal. -/
def outline (tokens : List Token) : String :=
  String.ofList (tokens.map fun
    | char c => c
    | literal _ => '?')

/-- What the literals say, in their order. -/
def texts (tokens : List Token) : List String :=
  tokens.filterMap fun
    | char _ => none
    | literal text => some text

end Token

/-- The tokens of a statement, if every literal is closed. -/
def lex : List Char → Option (List Token)
  | [] => some []
  | c :: cs =>
    if c = '\'' then
      match _h : Literal.read cs with
      | none => none
      | some (text, rest) => (lex rest).map (.literal (String.ofList text) :: ·)
    else (lex cs).map (.char c :: ·)
termination_by cs => cs.length
decreasing_by
  · have := Literal.length_of_read _h
    simp only [List.length_cons]
    omega
  · simp

theorem lex_nil : lex [] = some [] := by
  rw [lex]

theorem lex_cons {c : Char} (h : c ≠ '\'') (cs : List Char) :
    lex (c :: cs) = (lex cs).map (.char c :: ·) := by
  rw [lex, if_neg h]

theorem lex_quote {cs text rest : List Char} (h : Literal.read cs = some (text, rest)) :
    lex ('\'' :: cs) = (lex rest).map (.literal (String.ofList text) :: ·) := by
  rw [lex, if_pos rfl]
  split
  · next hnone => rw [h] at hnone; cases hnone
  · next text' rest' hsome =>
    rw [h] at hsome
    cases hsome
    rfl

/-- Plain characters stand for themselves. -/
theorem lex_plain {cs : List Char} (h : Plain cs) (rest : List Char) :
    lex (cs ++ rest) = (lex rest).map (cs.map .char ++ ·) := by
  induction cs with
  | nil => simp
  | cons c cs ih =>
      obtain ⟨hc, hcs⟩ := plain_cons.1 h
      have hquote : c ≠ '\'' := fun heq => hc (mem_special.2 (Or.inl heq))
      rw [List.cons_append, lex_cons hquote, ih hcs, Option.map_map]
      rfl

/-! ## Parts of statements -/

/-- Whatever follows the part, its tokens have this outline, in which only literals are question
marks, and their literals say these texts. -/
def Reads (part outline : String) (texts : List String) : Prop :=
  ∃ tokens, Token.outline tokens = outline ∧ .char '?' ∉ tokens ∧ Token.texts tokens = texts ∧
    ∀ rest, lex (part.toList ++ rest) = (lex rest).map (tokens ++ ·)

namespace Reads

variable {part part' outline outline' : String} {texts texts' : List String}

/-- **Parts in a row.** -/
theorem append (h : Reads part outline texts) (h' : Reads part' outline' texts') :
    Reads (part ++ part') (outline ++ outline') (texts ++ texts') := by
  obtain ⟨tokens, rfl, hmark, rfl, hlex⟩ := h
  obtain ⟨tokens', rfl, hmark', rfl, hlex'⟩ := h'
  refine ⟨tokens ++ tokens', ?_, ?_, ?_, ?_⟩
  · rw [Token.outline, List.map_append, String.ofList_append]
    rfl
  · rw [List.mem_append]
    exact not_or_intro hmark hmark'
  · exact List.filterMap_append
  · intro rest
    rw [String.toList_append, List.append_assoc, hlex, hlex', Option.map_map]
    simp only [Function.comp_def, List.append_assoc]

/-- **Plain parts** stand for themselves. -/
theorem plain (h : Plain part.toList) : Reads part part [] := by
  refine ⟨part.toList.map .char, ?_, ?_, ?_, ?_⟩
  · simp [Token.outline, Function.comp_def]
  · intro hmem
    obtain ⟨c, hc, heq⟩ := List.mem_map.1 hmem
    exact h c hc (mem_special.2 (Or.inr (Or.inr (Token.char.inj heq))))
  · simp [Token.texts, List.filterMap_map]
  · exact lex_plain h

/-- A plain text that is written down. -/
theorem verbatim (s : String) (h : Plain s.toList := by decide) : Reads s s [] := plain h

/-- **A literal** says the text that was quoted, whatever is in it. -/
theorem quote (text : String) : Reads (Literal.quote text) "?" [text] := by
  refine ⟨[.literal text], rfl, by simp, rfl, ?_⟩
  intro rest
  have hread := Literal.read_quoteBody text.toList rest
  rw [Literal.quote, String.toList_ofList, Literal.quoteChars, List.cons_append, lex_quote hread,
    String.ofList_toList]
  rfl

section Lists

variable {α : Type} {sep : String} {xs : List α} {partOf outlineOf : α → String}
  {textsOf : α → List String}

/-- One part more, with a separator after it. -/
theorem intercalate_cons (hsep : Plain sep.toList) (h : Reads part outline texts)
    (hxs : ∀ x ∈ xs, Reads (partOf x) (outlineOf x) (textsOf x)) :
    Reads (String.intercalate sep (part :: xs.map partOf))
      (String.intercalate sep (outline :: xs.map outlineOf)) (texts ++ xs.flatMap textsOf) := by
  induction xs generalizing part outline texts with
  | nil => simpa using h
  | cons x xs ih =>
      obtain ⟨hx, hrest⟩ := List.forall_mem_cons.1 hxs
      -- the next part takes the place of the first one, so the induction is over all first parts
      have hafter := (h.append (plain hsep)).append (ih hx hrest)
      simpa only [List.map_cons, String.intercalate_cons_cons, List.flatMap_cons, List.append_nil]
        using hafter

/-- **Parts with a separator between them.** -/
theorem intercalate (hsep : Plain sep.toList)
    (hxs : ∀ x ∈ xs, Reads (partOf x) (outlineOf x) (textsOf x)) :
    Reads (String.intercalate sep (xs.map partOf)) (String.intercalate sep (xs.map outlineOf))
      (xs.flatMap textsOf) := by
  cases xs with
  | nil => exact plain plain_nil
  | cons x xs =>
      obtain ⟨hx, hrest⟩ := List.forall_mem_cons.1 hxs
      exact intercalate_cons hsep hx hrest

end Lists

/-- A whole statement. -/
theorem lex_eq (h : Reads part outline texts) :
    ∃ tokens, lex part.toList = some tokens ∧ Token.texts tokens = texts ∧
      Token.outline tokens = outline ∧ .char '?' ∉ tokens := by
  obtain ⟨tokens, houtline, hmark, htexts, hlex⟩ := h
  refine ⟨tokens, ?_, htexts, houtline, hmark⟩
  have hwhole := hlex []
  rwa [List.append_nil, lex_nil, Option.map_some, List.append_nil] at hwhole

end Reads

end Sql

end StoreGate
