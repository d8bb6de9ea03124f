import StoreGate.Sql.Literal

/-!
# Literals that end where they end

A lexer that meets a quote reads on to the next quote that has no backslash before it, and takes
what a backslash and the character behind it stand for. What a text is written as ends for every
such lexer with the quote that was written last, whatever follows: the quotes and the backslashes of
the text all have a backslash of their own, and no other character of it ends or changes anything.

* `Sql.Literal.Escapes` — what a lexer makes of a backslash and the character behind it.
* `Sql.Literal.Spells` — the literals of such a lexer and what they say, as a grammar.
* `Sql.Literal.scanBody_eq_some_iff` — the lexer reads the literal at the start of a text, exactly
  if there is one.
* `Sql.Literal.Spells.unique` — a text starts with no more than one literal.
* `Sql.Literal.quote_delimits_itself` — the literal of a text before any other text.
-/

namespace StoreGate

namespace Sql

namespace Literal

/-- What a backslash and the character behind it stand for. Behind a backslash, a backslash and a
quote stand for themselves; of other characters a lexer may make what it likes. -/
structure Escapes where
  meaning : Char → List Char
  backslash : meaning '\\' = ['\\']
  quote : meaning '\'' = ['\'']

/-- Every character stands for itself. -/
def Escapes.plain : Escapes := ⟨fun c => [c], rfl, rfl⟩

/-- Some letters stand for characters that cannot be typed, and the marks of a pattern keep their
backslash. -/
def Escapes.withLetters : Escapes where
  meaning
    | 'n' => ['\n']
    | 't' => ['\t']
    | 'r' => ['\r']
    | '0' => ['\x00']
    | '%' => ['\\', '%']
    | '_' => ['\\', '_']
    | c => [c]
  backslash := rfl
  quote := rfl

variable {e : Escapes} {body body' text text' rest rest' : List Char}

/-! ## The grammar of literals -/

/-- What stands behind the opening quote of a literal, with the closing one, and what it says. -/
inductive Spells (e : Escapes) : List Char → List Char → Prop where
  | close : Spells e ['\''] []
  | char {c : Char} {body text : List Char} (hquote : c ≠ '\'') (hslash : c ≠ '\\')
      (h : Spells e body text) : Spells e (c :: body) (c :: text)
  | escaped {c : Char} {body text : List Char} (h : Spells e body text) :
      Spells e ('\\' :: c :: body) (e.meaning c ++ text)

/-- The literal says the text. -/
def IsLiteral (e : Escapes) (literal text : String) : Prop :=
  ∃ body, literal.toList = '\'' :: body ∧ Spells e body text.toList

/-- **A written text** says the text. -/
theorem spells_quoteBody (e : Escapes) (cs : List Char) : Spells e (quoteBody cs) cs := by
  induction cs with
  | nil => exact .close
  | cons c cs ih =>
      have hbody : quoteBody (c :: cs) = escape c ++ quoteBody cs := by
        simp [quoteBody]
      rw [hbody]
      unfold escape
      by_cases hslash : c = '\\'
      · subst hslash
        have hescaped := Spells.escaped (c := '\\') ih
        rwa [e.backslash] at hescaped
      · rw [if_neg hslash]
        by_cases hquote : c = '\''
        · subst hquote
          have hescaped := Spells.escaped (c := '\'') ih
          rwa [e.quote] at hescaped
        · rw [if_neg hquote]
          exact .char hquote hslash ih

/-! ## Lexers -/

/-- What a literal says behind its opening quote, and what follows the closing one. -/
def scanBody (e : Escapes) : List Char → Option (List Char × List Char)
  | [] => none
  | '\'' :: rest => some ([], rest)
  | '\\' :: c :: rest => (scanBody e rest).map fun (text, after) => (e.meaning c ++ text, after)
  | c :: rest =>
    if c = '\\' then none else (scanBody e rest).map fun (text, after) => (c :: text, after)

/-- What the literal at the start of a text says, and what follows it. -/
def scan (e : Escapes) (s : String) : Option (String × String) :=
  match s.toList with
  | '\'' :: rest =>
    (scanBody e rest).map fun read => (String.ofList read.1, String.ofList read.2)
  | _ => none

/-- A literal is read up to its closing quote. -/
theorem Spells.scanBody_append (h : Spells e body text) (rest : List Char) :
    scanBody e (body ++ rest) = some (text, rest) := by
  induction h with
  | close => rfl
  | char hquote hslash h ih =>
      rw [List.cons_append, scanBody, if_neg hslash, ih]
      · rfl
      · exact hquote
      · exact fun _ _ heq => absurd heq hslash
  | escaped h ih =>
      rw [List.cons_append, List.cons_append, scanBody, ih]
      rfl

/-- **The lexer reads the literal** at the start of a text, exactly if there is one. -/
theorem scanBody_eq_some_iff {cs : List Char} :
    scanBody e cs = some (text, rest) ↔ ∃ body, cs = body ++ rest ∧ Spells e body text := by
  constructor
  · intro h
    fun_induction scanBody e cs generalizing text with
    | case1 => cases h
    | case2 rest' =>
        cases h
        exact ⟨['\''], rfl, .close⟩
    | case3 c rest' ih =>
        obtain ⟨⟨text', after⟩, hread, heq⟩ := Option.map_eq_some_iff.1 h
        cases heq
        obtain ⟨body, rfl, hbody⟩ := ih hread
        exact ⟨'\\' :: c :: body, rfl, .escaped hbody⟩
    | case4 => cases h
    | case5 c rest' hquote hslash hc ih =>
        obtain ⟨⟨text', after⟩, hread, heq⟩ := Option.map_eq_some_iff.1 h
        cases heq
        obtain ⟨body, rfl, hbody⟩ := ih hread
        exact ⟨c :: body, rfl, .char hquote hc hbody⟩
  · rintro ⟨body, rfl, hbody⟩
    exact hbody.scanBody_append rest

/-- **A text starts with no more than one literal**, which ends at one place and says one thing. -/
theorem Spells.unique (h : Spells e body text) (h' : Spells e body' text')
    (heq : body ++ rest = body' ++ rest') : body = body' ∧ text = text' ∧ rest = rest' := by
  have hscan := h.scanBody_append rest
  rw [heq, h'.scanBody_append rest'] at hscan
  cases hscan
  exact ⟨List.append_cancel_right heq, rfl, rfl⟩

/-! ## The lexer of statements -/

/-- The lexer of statements takes every character for itself. -/
theorem scanBody_plain (cs : List Char) : scanBody .plain cs = read cs := by
  fun_induction read cs with
  | case1 => rfl
  | case2 rest => rfl
  | case3 c rest ih =>
      rw [scanBody, ih]
      rfl
  | case4 rest hquote hslash =>
      rw [scanBody, if_pos rfl]
      · exact hquote
      · exact hslash
  | case5 c rest hquote hslash hc ih =>
      rw [scanBody, if_neg hc, ih]
      · exact hquote
      · exact hslash

/-- What follows a literal is shorter than what begins with it. -/
theorem length_of_read {cs : List Char} (h : read cs = some (text, rest)) :
    rest.length < cs.length := by
  rw [← scanBody_plain] at h
  obtain ⟨body, rfl, hbody⟩ := scanBody_eq_some_iff.1 h
  have hpos : 0 < body.length := by cases hbody <;> simp
  rw [List.length_append]
  omega

/-! ## Literals before other texts -/

theorem toList_quote (s : String) : (quote s).toList = '\'' :: quoteBody s.toList :=
  String.toList_ofList

theorem isLiteral_quote (e : Escapes) (s : String) : IsLiteral e (quote s) s :=
  ⟨quoteBody s.toList, toList_quote s, spells_quoteBody e s.toList⟩

theorem toList_append_of_literal {literal : String} (h : literal.toList = '\'' :: body)
    (rest : String) : (literal ++ rest).toList = '\'' :: (body ++ rest.toList) := by
  rw [String.toList_append, h, List.cons_append]

/-- **A lexer takes a literal and no more.** -/
theorem IsLiteral.scan_append {literal text : String} (h : IsLiteral e literal text)
    (rest : String) : scan e (literal ++ rest) = some (text, rest) := by
  obtain ⟨body, hliteral, hbody⟩ := h
  have hchars := toList_append_of_literal hliteral rest
  unfold scan
  split
  · next behind hbehind =>
    obtain rfl : body ++ rest.toList = behind := (List.cons.inj (hchars.symm.trans hbehind)).2
    rw [hbody.scanBody_append, Option.map_some, String.ofList_toList, String.ofList_toList]
  · next hnone => exact absurd hchars (hnone _)

/-- Of what follows a literal, no part belongs to it. -/
theorem IsLiteral.unique {literal literal' text text' rest rest' : String}
    (h : IsLiteral e literal text) (h' : IsLiteral e literal' text')
    (heq : literal ++ rest = literal' ++ rest') :
    literal = literal' ∧ text = text' ∧ rest = rest' := by
  obtain ⟨body, hliteral, hbody⟩ := h
  obtain ⟨body', hliteral', hbody'⟩ := h'
  have hchars : body ++ rest.toList = body' ++ rest'.toList := by
    have hlist := congrArg String.toList heq
    rw [toList_append_of_literal hliteral, toList_append_of_literal hliteral'] at hlist
    exact (List.cons.inj hlist).2
  obtain ⟨rfl, htext, hrest⟩ := hbody.unique hbody' hchars
  exact ⟨String.toList_inj.1 (hliteral.trans hliteral'.symm), String.toList_inj.1 htext,
    String.toList_inj.1 hrest⟩

/-- **The literal of a text ends where it ends**, for every lexer with backslashes and before
every other text: the lexer takes the literal and no more, makes the text of it, and leaves what
follows. There is no other literal that what is written begins with, and so no two texts are
written alike, whatever follows them. -/
theorem quote_delimits_itself (e : Escapes) (s t : String) :
    scan e (quote s ++ t) = some (s, t) ∧ IsLiteral e (quote s) s ∧
      (∀ literal text rest, IsLiteral e literal text → quote s ++ t = literal ++ rest →
        literal = quote s ∧ text = s ∧ rest = t) ∧
      ∀ s' t', quote s ++ t = quote s' ++ t' → s = s' ∧ t = t' := by
  have hliteral := isLiteral_quote e s
  refine ⟨hliteral.scan_append t, hliteral, ?_, ?_⟩
  · intro literal text rest h heq
    exact h.unique hliteral heq.symm
  · intro s' t' heq
    exact (hliteral.unique (isLiteral_quote e s') heq).2

-- a text with `\n` in it is no line's end, and a quote behind its literal is not drawn into it
example : scanBody .withLetters (quoteBody ['C', '\\', 'n'] ++ ['\'', ' ']) =
    some (['C', '\\', 'n'], ['\'', ' ']) := by decide

end Literal

end Sql

end StoreGate
