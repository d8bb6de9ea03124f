import Mathlib.Data.List.Basic
import StoreGate.Text.Pattern

/-!
# What a pattern matches

A pattern says how the texts that it describes are put together. Matching takes the pattern's rest
after one character of a text after another, and simplifies what it is left with on the way. It comes
to the same: the texts that are matched are those that are described.

* `Pattern.matches_both`, `Pattern.matches_either`, `Pattern.matches_many` — a text matches two
  patterns in a row if it falls into a text of each, one of two patterns if it matches either, and a
  pattern any number of times if it is empty or begins with a text of the pattern.
* `Pattern.Describes`, `Pattern.matches_iff_describes` — the texts that a pattern describes, and
  that no others match.
* `Pattern.allows_of_matches` — a text that a pattern matches holds only characters of the pattern.
-/

namespace StoreGate

namespace Pattern

/-! ## Patterns put together -/

theorem not_matches_never (cs : List Char) : never.matchesChars cs = false := by
  induction cs with
  | nil => rfl
  | cons c cs ih => exact ih

theorem matches_done {cs : List Char} : done.matchesChars cs = true ↔ cs = [] := by
  cases cs with
  | nil => exact iff_of_true rfl rfl
  | cons c cs =>
      rw [matches_cons, after, not_matches_never]
      exact iff_of_false (fun h => by cases h) (fun h => by cases h)

theorem matches_one {allowed : Char → Bool} {cs : List Char} :
    (one allowed).matchesChars cs = true ↔ ∃ c, cs = [c] ∧ allowed c = true := by
  cases cs with
  | nil => exact iff_of_false (fun h => by cases h) fun ⟨c, h, _⟩ => by cases h
  | cons c cs =>
      rw [matches_cons, after]
      by_cases hc : allowed c = true
      · rw [if_pos hc, matches_done]
        constructor
        · rintro rfl
          exact ⟨c, rfl, hc⟩
        · rintro ⟨_, h, -⟩
          exact (List.cons.inj h).2
      · rw [if_neg hc, not_matches_never]
        refine iff_of_false (fun h => by cases h) ?_
        rintro ⟨_, h, hallowed⟩
        rw [← (List.cons.inj h).1] at hallowed
        exact hc hallowed

theorem orElse_never (p : Pattern) : orElse p never = p := by cases p <;> rfl

/-- A choice in its simplest form matches what the choice matches. -/
theorem matches_orElse (p q : Pattern) (cs : List Char) :
    (orElse p q).matchesChars cs = (either p q).matchesChars cs := by
  unfold orElse
  split
  · -- nothing on the left
    cases cs with
    | nil => rfl
    | cons c cs => rfl
  · -- nothing on the right: what may follow is a choice in its simplest form as well
    cases cs with
    | nil => exact (Bool.or_false _).symm
    | cons c cs =>
        rw [matches_cons, matches_cons, after]
        exact congrArg (matchesChars · cs) (orElse_never _).symm
  · rfl

theorem matches_either {p q : Pattern} {cs : List Char} :
    (either p q).matchesChars cs = true ↔
      p.matchesChars cs = true ∨ q.matchesChars cs = true := by
  induction cs generalizing p q with
  | nil => exact Bool.or_eq_true_iff
  | cons c cs ih =>
      rw [matches_cons, after, matches_orElse]
      exact ih

/-- Two patterns in a row in their simplest form match what the two match. -/
theorem matches_andThen (p q : Pattern) (cs : List Char) :
    (andThen p q).matchesChars cs = (both p q).matchesChars cs := by
  cases p with
  | never =>
      cases cs with
      | nil => rfl
      | cons c cs => rfl
  | done =>
      cases cs with
      | nil => rfl
      | cons c cs => rfl
  | _ => rfl

/-- A text is split before its first character or behind it. -/
theorem exists_split_cons {P Q : List Char → Prop} {c : Char} {cs : List Char} :
    (∃ front back, c :: cs = front ++ back ∧ P front ∧ Q back) ↔
      P [] ∧ Q (c :: cs) ∨ ∃ front back, cs = front ++ back ∧ P (c :: front) ∧ Q back := by
  constructor
  · rintro ⟨front, back, hsplit, hp, hq⟩
    rcases List.cons_eq_append_iff.1 hsplit with ⟨rfl, rfl⟩ | ⟨front, rfl, rfl⟩
    · exact Or.inl ⟨hp, hq⟩
    · exact Or.inr ⟨front, back, rfl, hp, hq⟩
  · rintro (⟨hp, hq⟩ | ⟨front, back, rfl, hp, hq⟩)
    · exact ⟨[], c :: cs, rfl, hp, hq⟩
    · exact ⟨c :: front, back, rfl, hp, hq⟩

/-- **Two patterns in a row** match the texts that fall into a text of each. -/
theorem matches_both {p q : Pattern} {cs : List Char} :
    (both p q).matchesChars cs = true ↔
      ∃ front back, cs = front ++ back ∧ p.matchesChars front = true ∧
        q.matchesChars back = true := by
  induction cs generalizing p with
  | nil =>
      rw [matches_nil, matchesEmpty, Bool.and_eq_true]
      constructor
      · rintro ⟨hp, hq⟩
        exact ⟨[], [], rfl, hp, hq⟩
      · rintro ⟨front, back, hnil, hp, hq⟩
        obtain ⟨rfl, rfl⟩ := List.append_eq_nil_iff.1 hnil.symm
        exact ⟨hp, hq⟩
  | cons c cs ih =>
      have hfirst : (andThen (p.after c) q).matchesChars cs = true ↔
          ∃ front back, cs = front ++ back ∧ p.matchesChars (c :: front) = true ∧
            q.matchesChars back = true := by
        rw [matches_andThen]
        exact ih
      rw [exists_split_cons, matches_nil, matches_cons, after]
      -- the first pattern takes the character, or it takes nothing and the second one does
      by_cases hempty : p.matchesEmpty = true
      · rw [if_pos hempty, matches_orElse, matches_either, hfirst, or_comm]
        exact or_congr_left (and_iff_right hempty).symm
      · rw [if_neg hempty, hfirst]
        exact (or_iff_right fun h => hempty h.1).symm

theorem matches_maybe {p : Pattern} {cs : List Char} :
    (maybe p).matchesChars cs = true ↔ cs = [] ∨ p.matchesChars cs = true := by
  rw [maybe, matches_either, matches_done]

/-! ## Patterns repeated -/

/-- **Any number of texts of a pattern**: none, or one that is not empty and then the others. -/
theorem matches_many {p : Pattern} {cs : List Char} :
    (many p).matchesChars cs = true ↔ cs = [] ∨
      ∃ c front back, cs = c :: (front ++ back) ∧ p.matchesChars (c :: front) = true ∧
        (many p).matchesChars back = true := by
  cases cs with
  | nil => exact iff_of_true rfl (Or.inl rfl)
  | cons c cs =>
      rw [matches_cons, after, matches_andThen, matches_both]
      constructor
      · rintro ⟨front, back, rfl, hp, hmany⟩
        exact Or.inr ⟨c, front, back, rfl, hp, hmany⟩
      · rintro (hnil | ⟨d, front, back, hsplit, hp, hmany⟩)
        · cases hnil
        · obtain ⟨rfl, rfl⟩ := List.cons.inj hsplit
          exact ⟨front, back, rfl, hp, hmany⟩

/-- Any number of characters of a class. -/
theorem matches_many_one {allowed : Char → Bool} {cs : List Char} :
    (many (one allowed)).matchesChars cs = true ↔ ∀ c ∈ cs, allowed c = true := by
  induction cs with
  | nil => exact iff_of_true rfl fun c hc => by cases hc
  | cons c cs ih =>
      rw [matches_many, List.forall_mem_cons]
      constructor
      · rintro (hnil | ⟨d, front, back, hsplit, hone, hmany⟩)
        · cases hnil
        · obtain ⟨_, hsingle, hallowed⟩ := matches_one.1 hone
          obtain ⟨rfl, rfl⟩ := List.cons.inj hsingle
          obtain ⟨rfl, rfl⟩ := List.cons.inj hsplit
          exact ⟨hallowed, ih.1 hmany⟩
      · rintro ⟨hc, hcs⟩
        exact Or.inr ⟨c, [], cs, rfl, matches_one.2 ⟨c, rfl, hc⟩, ih.2 hcs⟩

/-! ## Described texts -/

/-- The texts that a pattern describes, from what it is put together of. -/
inductive Describes : Pattern → List Char → Prop where
  | done : Describes done []
  | one {allowed : Char → Bool} {c : Char} (h : allowed c = true) : Describes (one allowed) [c]
  | both {p q : Pattern} {front back : List Char} (hp : Describes p front)
      (hq : Describes q back) : Describes (both p q) (front ++ back)
  | left {p q : Pattern} {cs : List Char} (h : Describes p cs) : Describes (either p q) cs
  | right {p q : Pattern} {cs : List Char} (h : Describes q cs) : Describes (either p q) cs
  | none {p : Pattern} : Describes (many p) []
  | more {p : Pattern} {front back : List Char} (h : Describes p front)
      (hmany : Describes (many p) back) : Describes (many p) (front ++ back)

theorem matches_of_describes {p : Pattern} {cs : List Char} (h : Describes p cs) :
    p.matchesChars cs = true := by
  induction h with
  | done => rfl
  | one h => exact matches_one.2 ⟨_, rfl, h⟩
  | both _ _ hp hq => exact matches_both.2 ⟨_, _, rfl, hp, hq⟩
  | left _ ih => exact matches_either.2 (Or.inl ih)
  | right _ ih => exact matches_either.2 (Or.inr ih)
  | none => rfl
  | @more p front back _ _ hp hmany =>
      cases front with
      | nil => exact hmany
      | cons c front => exact matches_many.2 (Or.inr ⟨c, front, back, rfl, hp, hmany⟩)

/-- What a pattern matches any number of times, it describes, if it describes what it matches. -/
theorem describes_many {p : Pattern}
    (hp : ∀ cs, p.matchesChars cs = true → Describes p cs) (cs : List Char)
    (h : (many p).matchesChars cs = true) : Describes (many p) cs := by
  -- each text that is taken off the front leaves a shorter one
  induction hlength : cs.length using Nat.strongRecOn generalizing cs with
  | ind n ih =>
      rcases matches_many.1 h with rfl | ⟨c, front, back, rfl, hfront, hback⟩
      · exact .none
      · have hshorter : back.length < n := by
          rw [← hlength, List.length_cons, List.length_append]
          omega
        exact .more (hp _ hfront) (ih _ hshorter back hback rfl)

theorem describes_of_matches {p : Pattern} {cs : List Char} (h : p.matchesChars cs = true) :
    Describes p cs := by
  induction p generalizing cs with
  | never =>
      rw [not_matches_never] at h
      cases h
  | done =>
      obtain rfl := matches_done.1 h
      exact .done
  | one allowed =>
      obtain ⟨c, rfl, hc⟩ := matches_one.1 h
      exact .one hc
  | both p q ihp ihq =>
      obtain ⟨front, back, rfl, hp, hq⟩ := matches_both.1 h
      exact .both (ihp hp) (ihq hq)
  | either p q ihp ihq =>
      rcases matches_either.1 h with hp | hq
      · exact .left (ihp hp)
      · exact .right (ihq hq)
  | many p ih => exact describes_many (fun _ hcs => ih hcs) cs h

/-- **Matching is exact**: a pattern matches the texts that it describes and no others. -/
theorem matches_iff_describes {p : Pattern} {cs : List Char} :
    p.matchesChars cs = true ↔ Describes p cs :=
  ⟨describes_of_matches, matches_of_describes⟩

/-! ## Characters of a pattern -/

/-- The character occurs in the pattern. -/
def allows (c : Char) : Pattern → Bool
  | never => false
  | done => false
  | one allowed => allowed c
  | both p q => p.allows c || q.allows c
  | either p q => p.allows c || q.allows c
  | many p => p.allows c

theorem allows_of_describes {p : Pattern} {cs : List Char} (h : Describes p cs) :
    ∀ c ∈ cs, p.allows c = true := by
  induction h with
  | done => exact fun c hc => by cases hc
  | one h =>
      intro c hc
      rw [List.mem_singleton.1 hc]
      exact h
  | both _ _ hp hq =>
      intro c hc
      exact Bool.or_eq_true_iff.2 ((List.mem_append.1 hc).imp (hp c) (hq c))
  | left _ ih => exact fun c hc => Bool.or_eq_true_iff.2 (Or.inl (ih c hc))
  | right _ ih => exact fun c hc => Bool.or_eq_true_iff.2 (Or.inr (ih c hc))
  | none => exact fun c hc => by cases hc
  | more _ _ hp hmany => exact fun c hc => (List.mem_append.1 hc).elim (hp c) (hmany c)

/-- **A text that matches holds only characters of the pattern.** -/
theorem allows_of_matches {p : Pattern} {cs : List Char} (h : p.matchesChars cs = true) :
    ∀ c ∈ cs, p.allows c = true :=
  allows_of_describes (describes_of_matches h)

end Pattern

end StoreGate
