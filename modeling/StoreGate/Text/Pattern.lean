/-!
# Patterns of characters

A `Pattern` describes whole texts: a character of a class, one pattern after another, a pattern any
number of times, or a pattern that may be left out. A text is matched by taking the pattern's rest
after each of its characters.

* `Pattern.matches_cons` — a text matches if what follows its first character matches the rest.
-/

namespace StoreGate

inductive Pattern where
  | never
  | done
  | one (allowed : Char → Bool)
  | both (first second : Pattern)
  | either (left right : Pattern)
  | many (p : Pattern)

namespace Pattern

/-- A pattern that may be left out. -/
def maybe (p : Pattern) : Pattern := either done p

/-- The character itself. -/
def exactly (c : Char) : Pattern := one fun d => d == c

/-- The pattern matches the empty text. -/
def matchesEmpty : Pattern → Bool
  | never => false
  | done => true
  | one _ => false
  | both p q => p.matchesEmpty && q.matchesEmpty
  | either p q => p.matchesEmpty || q.matchesEmpty
  | many _ => true

/-- One pattern after another, in its simplest form. -/
def andThen : Pattern → Pattern → Pattern
  | never, _ => never
  | done, q => q
  | p, q => both p q

/-- One of two patterns, in its simplest form. -/
def orElse : Pattern → Pattern → Pattern
  | never, q => q
  | p, never => p
  | p, q => either p q

/-- What may follow after the character `c`. -/
def after (c : Char) : Pattern → Pattern
  | never => never
  | done => never
  | one allowed => if allowed c then done else never
  | both p q =>
    if p.matchesEmpty then orElse (andThen (p.after c) q) (q.after c) else andThen (p.after c) q
  | either p q => orElse (p.after c) (q.after c)
  | many p => andThen (p.after c) (many p)

/-- The pattern describes the whole text. -/
def matchesChars (p : Pattern) (cs : List Char) : Bool :=
  (cs.foldl (fun p c => p.after c) p).matchesEmpty

def matchesText (p : Pattern) (s : String) : Bool := p.matchesChars s.toList

theorem matches_nil (p : Pattern) : p.matchesChars [] = p.matchesEmpty := rfl

theorem matches_cons (p : Pattern) (c : Char) (cs : List Char) :
    p.matchesChars (c :: cs) = (p.after c).matchesChars cs := rfl

end Pattern

end StoreGate
