import Mathlib.Algebra.GroupWithZero.Nat
import Mathlib.Algebra.Order.BigOperators.Group.List
import StoreGate.Proofs.Text.Escape
import StoreGate.Proofs.Url.Plain

/-!
# Paths and what is left of them

A path is cut at its slashes, its dots go up, and what may not stand in it is encoded. All this only
takes away: the segments that are left are read as no more characters than were written. They are
read as just as many only if there is a segment for every part of the path, read as it is written.

* `Url.splitPath_parts` — the parts of a path.
* `Url.resolve_append`, `Url.resolve_of_not_dots` — where the parts lead.
* `Url.cost`, `Url.sum_cost_resolve_le` — the characters that are left.
-/

namespace StoreGate

namespace Url

/-! ## Parts -/

theorem splitPath_ne_nil (cs : List Char) : splitPath cs ≠ [] :=
  splitPath_eq cs ▸ List.splitOnP_ne_nil _ cs

/-- A character that is no slash belongs to the first part. -/
theorem splitPath_cons_of_not_slash {c : Char} (h : isSlash c = false) (cs : List Char) :
    ∃ part parts, splitPath cs = part :: parts ∧ splitPath (c :: cs) = (c :: part) :: parts := by
  obtain ⟨part, parts, hparts⟩ := List.exists_cons_of_ne_nil (splitPath_ne_nil cs)
  refine ⟨part, parts, hparts, ?_⟩
  rw [splitPath, hparts, h]
  rfl

/-- There is one part more than there are slashes, and every character is in a part or is a slash.
No part has a slash. -/
theorem splitPath_parts (cs : List Char) :
    (splitPath cs).length = cs.countP isSlash + 1 ∧
      ((splitPath cs).map fun part => part.length + 1).sum = cs.length + 1 ∧
      ∀ part ∈ splitPath cs, ∀ c ∈ part, isSlash c = false := by
  induction cs with
  | nil => exact ⟨rfl, rfl, by simp [splitPath]⟩
  | cons c cs ih =>
    obtain ⟨hlength, hsum, hmem⟩ := ih
    by_cases hc : isSlash c = true
    · have hcons : splitPath (c :: cs) = [] :: splitPath cs := if_pos hc
      rw [hcons, List.countP_cons_of_pos hc, List.length_cons, List.map_cons, List.sum_cons,
        hlength, hsum, List.length_nil, List.length_cons]
      exact ⟨rfl, by omega, List.forall_mem_cons.2 ⟨by simp, hmem⟩⟩
    · have hc : isSlash c = false := by simpa using hc
      obtain ⟨part, parts, hparts, hcons⟩ := splitPath_cons_of_not_slash hc cs
      rw [hparts] at hlength hsum hmem
      rw [List.map_cons, List.sum_cons] at hsum
      obtain ⟨hpart, hrest⟩ := List.forall_mem_cons.1 hmem
      rw [hcons, List.countP_cons_of_neg (by simp [hc]), List.map_cons, List.sum_cons,
        @List.length_cons _ c, @List.length_cons _ c cs]
      exact ⟨hlength, by omega,
        List.forall_mem_cons.2 ⟨List.forall_mem_cons.2 ⟨hc, hpart⟩, hrest⟩⟩

/-! ## Dots -/

/-- The part stays where it is or goes up. -/
def IsDots (part : List Char) : Prop := dots part = some 1 ∨ dots part = some 2

/-- Where a part leads that is not the last. -/
def climb (before : List String) (part : List Char) : List String :=
  match dots part with
  | some 1 => before
  | some 2 => before.dropLast
  | _ => before ++ [encodeSegment part]

theorem length_pos_of_isDots {part : List Char} (h : IsDots part) : 0 < part.length := by
  cases part with
  | nil => exact absurd h (by simp [IsDots, dots])
  | cons c cs => exact Nat.succ_pos _

theorem climb_of_dots {part : List Char} (h : IsDots part) (before : List String) :
    climb before part = before ∨ climb before part = before.dropLast := by
  rcases h with h | h
  · exact .inl (by simp [climb, h])
  · exact .inr (by simp [climb, h])

theorem climb_of_not_dots {part : List Char} (h : ¬ IsDots part) (before : List String) :
    climb before part = before ++ [encodeSegment part] := by
  unfold climb
  split
  · next hone => exact absurd (.inl hone) h
  · next htwo => exact absurd (.inr htwo) h
  · rfl

/-- A part that is not the last is passed on the way. -/
theorem resolve_cons {parts : List (List Char)} (hne : parts ≠ []) (before : List String)
    (part : List Char) : resolve before (part :: parts) = resolve (climb before part) parts := by
  have hempty : ¬ parts.isEmpty = true := by simpa using hne
  unfold climb
  rw [resolve]
  split <;> simp_all

/-- The last part is left, or nothing in its place if it is dots. -/
theorem resolve_singleton (before : List String) (part : List Char) :
    (IsDots part ∧ (resolve before [part] = before ++ [""] ∨
      resolve before [part] = before.dropLast ++ [""])) ∨
    (¬ IsDots part ∧ resolve before [part] = before ++ [encodeSegment part]) := by
  unfold IsDots
  rw [resolve]
  split
  · next hone => exact .inl ⟨.inl hone, .inl rfl⟩
  · next htwo => exact .inl ⟨.inr htwo, .inr rfl⟩
  · next hone htwo => exact .inr ⟨not_or.2 ⟨hone, htwo⟩, rfl⟩

/-- **A path leads on from where its beginning leads.** -/
theorem resolve_append {rest : List (List Char)} (hne : rest ≠ []) (before : List String)
    (parts : List (List Char)) :
    resolve before (parts ++ rest) = resolve (parts.foldl climb before) rest := by
  induction parts generalizing before with
  | nil => rfl
  | cons part parts ih =>
    rw [List.cons_append, resolve_cons (by simp [hne]), ih, List.foldl_cons]

/-- A path leads somewhere. -/
theorem resolve_ne_nil {parts : List (List Char)} (hne : parts ≠ []) (before : List String) :
    resolve before parts ≠ [] := by
  induction parts generalizing before with
  | nil => exact absurd rfl hne
  | cons part parts ih =>
    by_cases hparts : parts = []
    · subst hparts
      rcases resolve_singleton before part with ⟨-, h | h⟩ | ⟨-, h⟩ <;> simp [h]
    · rw [resolve_cons hparts]
      exact ih hparts _

section Left

variable {P : String → Prop} {before : List String} (hbefore : ∀ s ∈ before, P s)

include hbefore

theorem forall_mem_climb {part : List Char} (hpart : P (encodeSegment part)) :
    ∀ s ∈ climb before part, P s := by
  by_cases hdots : IsDots part
  · intro s hs
    rcases climb_of_dots hdots before with h | h
    · exact hbefore s (h ▸ hs)
    · exact hbefore s (List.dropLast_subset before (h ▸ hs))
  · rw [climb_of_not_dots hdots]
    exact List.forall_mem_append.2 ⟨hbefore, List.forall_mem_singleton.2 hpart⟩

/-- **What is left of a path** comes of its parts, or it is empty. -/
theorem forall_mem_resolve (hempty : P "") {parts : List (List Char)}
    (hparts : ∀ part ∈ parts, P (encodeSegment part)) : ∀ s ∈ resolve before parts, P s := by
  induction parts generalizing before with
  | nil => exact hbefore
  | cons part parts ih =>
    obtain ⟨hpart, hrest⟩ := List.forall_mem_cons.1 hparts
    by_cases hne : parts = []
    · subst hne
      rcases resolve_singleton before part with ⟨-, h | h⟩ | ⟨-, h⟩
      · rw [h]
        exact List.forall_mem_append.2 ⟨hbefore, List.forall_mem_singleton.2 hempty⟩
      · rw [h]
        exact List.forall_mem_append.2 ⟨fun s hs => hbefore s (List.dropLast_subset before hs),
          List.forall_mem_singleton.2 hempty⟩
      · rw [h]
        exact List.forall_mem_append.2 ⟨hbefore, List.forall_mem_singleton.2 hpart⟩
    · rw [resolve_cons hne]
      exact ih (forall_mem_climb hbefore hpart) hrest

end Left

/-- **A path without dots leads through all its parts.** -/
theorem resolve_of_not_dots {parts : List (List Char)} (h : ∀ part ∈ parts, ¬ IsDots part)
    (before : List String) : resolve before parts = before ++ parts.map encodeSegment := by
  induction parts generalizing before with
  | nil => exact (List.append_nil before).symm
  | cons part parts ih =>
    obtain ⟨hpart, hrest⟩ := List.forall_mem_cons.1 h
    by_cases hne : parts = []
    · rcases resolve_singleton before part with ⟨hdots, -⟩ | ⟨-, hresolve⟩
      · exact absurd hdots hpart
      · rw [hne, hresolve]
        rfl
    · rw [resolve_cons hne, climb_of_not_dots hpart, ih hrest, List.append_assoc]
      rfl

/-- Dots that are not written by their digits. -/
theorem eq_replicate_of_dots {part : List Char} (h : Percent.IsUnescaped part) {n : Nat}
    (hdots : dots part = some n) : part = List.replicate n '.' := by
  fun_induction dots part generalizing n with
  | case1 =>
    cases hdots
    rfl
  | case2 rest ih =>
    obtain ⟨m, hm, rfl⟩ := Option.map_eq_some_iff.1 hdots
    rw [List.replicate_succ, ← ih (Percent.isUnescaped_cons.1 h).2 hm]
  | case3 e rest he ih =>
    rcases h '2' e ⟨[], rest, rfl⟩ with hnone | hnone
    · exact absurd hnone (by decide)
    · rcases he with rfl | rfl
      · exact absurd hnone (by decide)
      · exact absurd hnone (by decide)
  | case4 => cases hdots
  | case5 => cases hdots

/-- **Parts that stay or go up** are one dot or two. -/
theorem isDots_iff {part : List Char} (h : Percent.IsUnescaped part) :
    IsDots part ↔ part = ['.'] ∨ part = ['.', '.'] := by
  constructor
  · exact Or.imp (eq_replicate_of_dots h) (eq_replicate_of_dots h)
  · rintro (rfl | rfl)
    · exact .inl rfl
    · exact .inr rfl

/-! ## Characters -/

theorem toNat_of_hexValue? {c : Char} {v : Nat} (h : Document.hexValue? c = some v) :
    c.toNat < 0x80 := by
  by_contra hwide
  have hout : ∀ lo hi : Char, hi.toNat < 0x80 → ¬ (lo ≤ c ∧ c ≤ hi) := fun lo hi hhi hc =>
    hwide (Nat.lt_of_le_of_lt hc.2 hhi)
  rw [Document.hexValue?, if_neg (hout '0' '9' (by decide)), if_neg (hout 'a' 'f' (by decide)),
    if_neg (hout 'A' 'F' (by decide))] at h
  cases h

theorem keepsEscapes_keptInPath : Percent.KeepsEscapes keptInPath where
  percent := by decide
  digit c v h := by
    have hascii := toNat_of_hexValue? h
    have hall : ((Document.hexValue? c).isNone || keptInPath c) = true :=
      forall_ascii (p := fun c => (Document.hexValue? c).isNone || keptInPath c) (by decide +kernel)
        hascii
    exact ⟨hascii, by simpa [h] using hall⟩

theorem decode_encodeSegment (part : List Char) :
    Percent.decode (encodeSegment part).toList = Percent.decode part := by
  rw [encodeSegment, String.toList_ofList, Percent.decode_encode keepsEscapes_keptInPath]

/-- The number of characters that a segment is read as, and its slash. -/
def cost (segment : String) : Nat :=
  (Percent.decode segment.toList).countP Utf8.begins + 1

/-- Nothing is lost of a part: it does not lead elsewhere, and it is read as it is written. -/
structure IsWhole (part : List Char) : Prop where
  not_dots : ¬ IsDots part
  unescaped : Percent.IsUnescaped part

theorem cost_encodeSegment_le (part : List Char) :
    cost (encodeSegment part) ≤ part.length + 1 ∧
      (cost (encodeSegment part) = part.length + 1 → Percent.IsUnescaped part) := by
  obtain ⟨hle, heq⟩ := Percent.countP_decode_le part
  rw [cost, decode_encodeSegment]
  exact ⟨Nat.succ_le_succ hle, fun h => heq (Nat.succ.inj h)⟩

section Cost

variable (before : List String) (part : List Char)

theorem sum_cost_append (after : List String) : ((before ++ after).map cost).sum =
    (before.map cost).sum + (after.map cost).sum := by
  rw [List.map_append, List.sum_append]

theorem sum_cost_dropLast_le : (before.dropLast.map cost).sum ≤ (before.map cost).sum :=
  ((List.dropLast_sublist before).map cost).sum_le_sum fun _ _ => Nat.zero_le _

/-- **One part leaves no more than it has**, and as much only if it is whole. -/
theorem sum_cost_climb_le :
    ((climb before part).map cost).sum ≤ (before.map cost).sum + (part.length + 1) ∧
      (((climb before part).map cost).sum = (before.map cost).sum + (part.length + 1) →
        IsWhole part) := by
  by_cases hdots : IsDots part
  · have hup := sum_cost_dropLast_le before
    rcases climb_of_dots hdots before with h | h
    · rw [h]
      exact ⟨by omega, by omega⟩
    · rw [h]
      exact ⟨by omega, by omega⟩
  · obtain ⟨hle, heq⟩ := cost_encodeSegment_le part
    rw [climb_of_not_dots hdots, sum_cost_append, List.map_singleton, List.sum_singleton]
    exact ⟨by omega, fun h => ⟨hdots, heq (by omega)⟩⟩

theorem sum_cost_singleton_le :
    ((resolve before [part]).map cost).sum ≤ (before.map cost).sum + (part.length + 1) ∧
      (((resolve before [part]).map cost).sum = (before.map cost).sum + (part.length + 1) →
        IsWhole part) := by
  have hup := sum_cost_dropLast_le before
  have hempty : cost "" = 1 := by decide
  rcases resolve_singleton before part with ⟨hdots, h | h⟩ | ⟨hdots, h⟩
  · have hpos := length_pos_of_isDots hdots
    rw [h, sum_cost_append, List.map_singleton, List.sum_singleton, hempty]
    exact ⟨by omega, by omega⟩
  · have hpos := length_pos_of_isDots hdots
    rw [h, sum_cost_append, List.map_singleton, List.sum_singleton, hempty]
    exact ⟨by omega, by omega⟩
  · obtain ⟨hle, heq⟩ := cost_encodeSegment_le part
    rw [h, sum_cost_append, List.map_singleton, List.sum_singleton]
    exact ⟨by omega, fun h => ⟨hdots, heq (by omega)⟩⟩

end Cost

/-- **A path leaves no more characters than it has**, and as many only if all its parts are
whole. -/
theorem sum_cost_resolve_le (before : List String) (parts : List (List Char)) :
    ((resolve before parts).map cost).sum ≤
        (before.map cost).sum + (parts.map fun part => part.length + 1).sum ∧
      (((resolve before parts).map cost).sum =
          (before.map cost).sum + (parts.map fun part => part.length + 1).sum →
        ∀ part ∈ parts, IsWhole part) := by
  induction parts generalizing before with
  | nil => exact ⟨Nat.le_refl _, fun _ part h => by cases h⟩
  | cons part parts ih =>
    by_cases hne : parts = []
    · subst hne
      obtain ⟨hle, heq⟩ := sum_cost_singleton_le before part
      exact ⟨hle, fun h => List.forall_mem_singleton.2 (heq h)⟩
    · obtain ⟨hle, heq⟩ := ih (climb before part)
      obtain ⟨hfirst, hwhole⟩ := sum_cost_climb_le before part
      rw [resolve_cons hne, List.map_cons, List.sum_cons]
      exact ⟨by omega, fun h =>
        List.forall_mem_cons.2 ⟨hwhole (by omega), heq (by omega)⟩⟩

end Url

end StoreGate
