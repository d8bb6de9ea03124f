import Mathlib.Data.List.Basic
import StoreGate.Text.LowerCase

/-!
# Lower case in its place

A part of a text is lowered like the part alone, but for its capital sigmas: whether one is final
depends on the letters around it, which may stand outside the part.

* `Text.lowerBetween` — the lower case of a part, between what stands before it and after it.
* `Text.lowerBetween_eq_iff` — two places lower a part alike exactly if each of its sigmas is final
  in both or in none.
* `Text.lowerChars_infix_of_asAlone` — where its sigmas are lowered as in the part alone, the lower
  case of a part is a part of the lower case.
* `Text.lowerChars_infix_iff_settled` — the parts of which this is true wherever they stand.
-/

namespace StoreGate

namespace Text

/-! ## The next letter -/

/-- What stands beyond a text is seen only if all its characters are ignored. -/
theorem letterFollows_append (cs rest : List Char) :
    letterFollows (cs ++ rest) =
      if cs.all isCaseIgnorable then letterFollows rest else letterFollows cs := by
  induction cs with
  | nil => rfl
  | cons c cs ih =>
      by_cases hc : isCaseIgnorable c = true
      · simpa [letterFollows, hc] using ih
      · simp [letterFollows, hc]

theorem letterFollows_of_all {cs : List Char} (h : cs.all isCaseIgnorable = true) :
    letterFollows cs = false := by
  have happend := letterFollows_append cs []
  rw [List.append_nil, if_pos h] at happend
  exact happend

/-- No letter is ignored. -/
theorem not_all_of_letterFollows {cs : List Char} (h : letterFollows cs = true) :
    cs.all isCaseIgnorable = false := by
  refine Bool.eq_false_iff.2 fun hall => ?_
  rw [letterFollows_of_all hall] at h
  cases h

/-! ## Parts -/

/-- The lower case of a part between the characters `before`, nearest first, and `after`. -/
def lowerBetween (before : List Char) : List Char → List Char → List Char
  | [], _ => []
  | c :: rest, after =>
    (if c = capitalSigma then [lowerSigma before (rest ++ after)] else lowerChar c) ++
      lowerBetween (c :: before) rest after

theorem lowerAfter_eq_lowerBetween (before cs : List Char) :
    lowerAfter before cs = lowerBetween before cs [] := by
  induction cs generalizing before with
  | nil => rfl
  | cons c rest ih => rw [lowerAfter, lowerBetween, ih, List.append_nil]

theorem lowerChars_eq_lowerBetween (cs : List Char) : lowerChars cs = lowerBetween [] cs [] :=
  lowerAfter_eq_lowerBetween [] cs

/-- Each of two parts is lowered with the other beside it. -/
theorem lowerBetween_append (before xs ys after : List Char) :
    lowerBetween before (xs ++ ys) after =
      lowerBetween before xs (ys ++ after) ++ lowerBetween (xs.reverse ++ before) ys after := by
  induction xs generalizing before with
  | nil => rfl
  | cons c rest ih =>
      rw [List.cons_append, lowerBetween, lowerBetween, ih, List.reverse_cons, List.append_assoc,
        List.append_assoc, List.append_assoc]
      rfl

theorem lowerChar_ne_nil (c : Char) : lowerChar c ≠ [] := by
  unfold lowerChar
  split
  · exact List.cons_ne_nil _ _
  · split
    · exact List.cons_ne_nil _ _
    · split
      · exact List.cons_ne_nil _ _
      · exact List.cons_ne_nil _ _

theorem lowerChars_eq_nil_iff {cs : List Char} : lowerChars cs = [] ↔ cs = [] := by
  cases cs with
  | nil => exact ⟨fun _ => rfl, fun _ => rfl⟩
  | cons c rest =>
      rw [lowerChars_eq_lowerBetween, lowerBetween, List.append_eq_nil_iff]
      by_cases hc : c = capitalSigma
      · simp [hc]
      · simp [hc, lowerChar_ne_nil]

/-- Only a text without characters is lowered to one. -/
theorem lower_isEmpty (s : String) : (lower s).isEmpty = decide (s = "") := by
  rw [Bool.eq_iff_iff, decide_eq_true_iff, String.isEmpty_iff, ← String.toList_inj,
    ← String.toList_inj, lower, String.toList_ofList]
  exact lowerChars_eq_nil_iff

theorem length_lowerBetween (cs before after before' after' : List Char) :
    (lowerBetween before cs after).length = (lowerBetween before' cs after').length := by
  induction cs generalizing before before' with
  | nil => rfl
  | cons c rest ih =>
      rw [lowerBetween, lowerBetween, List.length_append, List.length_append,
        ih (c :: before) (c :: before')]
      by_cases hc : c = capitalSigma
      · rw [if_pos hc, if_pos hc]
        rfl
      · rw [if_neg hc, if_neg hc]

/-- **Two places** lower a part alike exactly if each of its sigmas is final in both or in none. -/
theorem lowerBetween_eq_iff {cs before after before' after' : List Char} :
    lowerBetween before cs after = lowerBetween before' cs after' ↔
      ∀ front rest, cs = front ++ capitalSigma :: rest →
        lowerSigma (front.reverse ++ before) (rest ++ after) =
          lowerSigma (front.reverse ++ before') (rest ++ after') := by
  induction cs generalizing before before' with
  | nil => simp [lowerBetween]
  | cons c cs ih =>
      -- the first character has one piece of the lower case, of the same length in both places
      have hsplits : (∀ front rest, c :: cs = front ++ capitalSigma :: rest →
          lowerSigma (front.reverse ++ before) (rest ++ after) =
            lowerSigma (front.reverse ++ before') (rest ++ after')) ↔
          (c = capitalSigma → lowerSigma before (cs ++ after) = lowerSigma before' (cs ++ after')) ∧
          ∀ front rest, cs = front ++ capitalSigma :: rest →
            lowerSigma (front.reverse ++ (c :: before)) (rest ++ after) =
              lowerSigma (front.reverse ++ (c :: before')) (rest ++ after') := by
        constructor
        · intro h
          refine ⟨fun hc => h [] cs (by rw [hc]; rfl), fun front rest heq => ?_⟩
          simpa using h (c :: front) rest (by rw [heq]; rfl)
        · rintro ⟨hfirst, hrest⟩ front rest heq
          cases front with
          | nil =>
              obtain ⟨rfl, rfl⟩ := List.cons.inj heq
              exact hfirst rfl
          | cons c' front =>
              obtain ⟨rfl, hcs⟩ := List.cons.inj heq
              simpa using hrest front rest hcs
      rw [hsplits, ← ih, lowerBetween, lowerBetween]
      by_cases hc : c = capitalSigma
      · simp [hc]
      · simp [hc]

/-! ## Parts within a text -/

/-- The sigmas of a part are lowered between two others as in the part alone. -/
def SigmasAsAlone (cs before after : List Char) : Prop :=
  ∀ front rest, cs = front ++ capitalSigma :: rest →
    lowerSigma (front.reverse ++ before.reverse) (rest ++ after) = lowerSigma front.reverse rest

theorem lowerBetween_eq_lowerChars_iff {cs before after : List Char} :
    lowerBetween before.reverse cs after = lowerChars cs ↔ SigmasAsAlone cs before after := by
  simp only [lowerChars_eq_lowerBetween, lowerBetween_eq_iff, SigmasAsAlone, List.append_nil]

/-- The lower case of a part alone is found in that of its place only if they are the same. -/
theorem sigmasAsAlone_of_found {cs before after : List Char}
    (h : lowerChars cs <:+: lowerBetween before.reverse cs after) :
    SigmasAsAlone cs before after := by
  refine lowerBetween_eq_lowerChars_iff.1 (h.eq_of_length ?_).symm
  rw [lowerChars_eq_lowerBetween]
  exact length_lowerBetween cs _ _ _ _

theorem lowerChars_append_append (before cs after : List Char) :
    lowerChars (before ++ cs ++ after) =
      lowerBetween [] before (cs ++ after) ++ lowerBetween before.reverse cs after ++
        lowerBetween (cs.reverse ++ before.reverse) after [] := by
  rw [lowerChars_eq_lowerBetween, lowerBetween_append, lowerBetween_append, List.append_nil,
    List.append_nil, List.append_nil, List.reverse_append]

/-- **The lower case of a part** is a part of the lower case, where its sigmas are lowered as in the
part alone. -/
theorem lowerChars_infix_of_asAlone {cs before after : List Char} (h : SigmasAsAlone cs before after) :
    lowerChars cs <:+: lowerChars (before ++ cs ++ after) := by
  rw [lowerChars_append_append, lowerBetween_eq_lowerChars_iff.2 h]
  exact ⟨_, _, rfl⟩

/-! ## Parts that are found everywhere -/

/-- Every sigma is final or not by the part alone: a letter follows it, or what stands before it is
known and either is no letter or what follows is known as well. -/
def SigmasSettled (cs : List Char) : Prop :=
  ∀ front rest, cs = front ++ capitalSigma :: rest →
    letterFollows rest = true ∨ front.all isCaseIgnorable = false ∧
      (letterFollows front.reverse = false ∨ rest.all isCaseIgnorable = false)

theorem sigmasAsAlone_of_settled {cs : List Char} (h : SigmasSettled cs)
    (before after : List Char) : SigmasAsAlone cs before after := by
  intro front rest heq
  have hafter : letterFollows (rest ++ after) =
      if rest.all isCaseIgnorable then letterFollows after else letterFollows rest :=
    letterFollows_append rest after
  have hbefore : letterFollows (front.reverse ++ before.reverse) =
      if front.all isCaseIgnorable then letterFollows before.reverse
      else letterFollows front.reverse := by
    rw [letterFollows_append, List.all_reverse]
  rcases h front rest heq with hletter | ⟨hknown, hnone | hrest⟩
  · simp [lowerSigma, hafter, not_all_of_letterFollows hletter, hletter]
  · simp [lowerSigma, hbefore, hknown, hnone]
  · simp [lowerSigma, hbefore, hafter, hknown, hrest]

/-- A letter that is its own lower case wherever it stands. -/
structure IsPlainLetter (x : Char) : Prop where
  counts : isCaseIgnorable x = false
  cased : isCased x = true
  lowered : lowerChar x = [x]
  other : x ≠ capitalSigma

theorem IsPlainLetter.letterFollows {x : Char} (h : IsPlainLetter x) :
    Text.letterFollows [x] = true := by
  simp [Text.letterFollows, h.counts, h.cased]

theorem IsPlainLetter.lowerBetween {x : Char} (h : IsPlainLetter x) (before after : List Char) :
    Text.lowerBetween before [x] after = [x] := by
  rw [Text.lowerBetween, if_neg h.other, h.lowered]
  rfl

theorem exists_plainLetter_ne (c : Option Char) : ∃ x, IsPlainLetter x ∧ c ≠ some x := by
  by_cases hc : c = some 'a'
  · refine ⟨'b', ?_, by simp [hc]⟩
    constructor <;> decide +kernel
  · refine ⟨'a', ?_, hc⟩
    constructor <;> decide +kernel

/-- A sigma that is not settled is lowered otherwise after a letter, or before one. -/
theorem not_sigmasAsAlone {cs : List Char} (h : ¬ SigmasSettled cs) :
    (∀ x, IsPlainLetter x → ¬ SigmasAsAlone cs [x] []) ∨
      ∀ x, IsPlainLetter x → ¬ SigmasAsAlone cs [] [x] := by
  simp only [SigmasSettled, not_forall, not_or, not_and_or, Bool.not_eq_true, Bool.not_eq_false]
    at h
  obtain ⟨front, rest, heq, hrest, hfront | ⟨hletter, hall⟩⟩ := h
  · -- nothing before the sigma counts: a letter put before the part makes it final
    left
    intro x hx halone
    have hsame := halone front rest heq
    have hbefore : letterFollows (front.reverse ++ [x]) = true := by
      rw [letterFollows_append, List.all_reverse, if_pos hfront, hx.letterFollows]
    have hreverse : letterFollows front.reverse = false :=
      letterFollows_of_all (by rwa [List.all_reverse])
    simp [lowerSigma, hbefore, hrest, hreverse] at hsame
  · -- a letter stands before the sigma and nothing after it counts: a letter put there does
    right
    intro x hx halone
    have hsame := halone front rest heq
    have hafter : letterFollows (rest ++ [x]) = true := by
      rw [letterFollows_append, if_pos hall, hx.letterFollows]
    simp [lowerSigma, hletter, hrest, hafter] at hsame

/-- **The parts that are found** in lower case wherever they stand are those whose sigmas are
settled. -/
theorem lowerChars_infix_iff_settled {cs : List Char} (hne : cs ≠ []) :
    (∀ before after, lowerChars cs <:+: lowerChars (before ++ cs ++ after)) ↔
      SigmasSettled cs := by
  have hlower : lowerChars cs ≠ [] := fun h => hne (lowerChars_eq_nil_iff.1 h)
  constructor
  · intro hfound
    by_contra hopen
    rcases not_sigmasAsAlone hopen with hopen | hopen
    · -- a letter before the part, other than the first of its lower case
      obtain ⟨x, hx, hfirst⟩ := exists_plainLetter_ne (lowerChars cs).head?
      have hpart := hfound [x] []
      rw [lowerChars_append_append, hx.lowerBetween, lowerBetween, List.append_nil,
        List.singleton_append, List.infix_cons_iff, List.prefix_cons_iff] at hpart
      rcases hpart with (hnil | ⟨t, ht, -⟩) | hpart
      · exact hlower hnil
      · exact hfirst (by rw [ht]; rfl)
      · exact hopen x hx (sigmasAsAlone_of_found hpart)
    · -- a letter after the part, other than the last of its lower case
      obtain ⟨x, hx, hlast⟩ := exists_plainLetter_ne (lowerChars cs).getLast?
      have hpart := hfound [] [x]
      rw [lowerChars_append_append, hx.lowerBetween, lowerBetween, List.nil_append,
        List.infix_concat_iff, List.suffix_concat_iff] at hpart
      rcases hpart with (hnil | ⟨t, ht, -⟩) | hpart
      · exact hlower hnil
      · exact hlast (by rw [ht, List.getLast?_concat])
      · exact hopen x hx (sigmasAsAlone_of_found hpart)
  · intro h before after
    exact lowerChars_infix_of_asAlone (sigmasAsAlone_of_settled h before after)

end Text

end StoreGate
