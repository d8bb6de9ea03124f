import StoreGate.Proofs.Text.Form
import StoreGate.Url.Basic

/-!
# Texts and their percent signs

What a percent sign and two digits are written for is not told from the text afterwards. A text in
which no percent sign stands before two digits is read as itself, and of all texts it is these that
lose nothing: every other has fewer characters once it is read.

* `Percent.IsUnescaped` — the texts that are read as themselves.
* `Percent.countP_decode_le` — reading gives no more characters than are written, and as many only
  if nothing is written by its digits.
* `Percent.decode_encode` — encoding changes nothing of what is read.
-/

namespace StoreGate

namespace Utf8

/-- A byte that a character begins with continues none. -/
theorem begins_of_size? {a : UInt8} {n : Nat} (h : size? a = some n) : begins a = true := by
  have hall : ∀ m < 256, (size? (UInt8.ofNat m)).isNone = true ∨ begins (UInt8.ofNat m) = true := by
    decide +kernel
  rcases hall a.toNat a.toNat_lt with hnone | hbegins
  · rw [UInt8.ofNat_toNat, h] at hnone
    cases hnone
  · rwa [UInt8.ofNat_toNat] at hbegins

/-- **There are no more characters than bytes that begin one.** -/
theorem countP_decode_le (bs : List UInt8) :
    (decode bs).countP Option.isSome ≤ bs.countP begins := by
  fun_induction decode bs <;> grind [begins_of_size?]

theorem length_le_of_decode? {bs : List UInt8} {cs : List Char} (h : decode? bs = some cs) :
    cs.length ≤ bs.countP begins := by
  have hlength : ∀ (os : List (Option Char)) (cs : List Char), os.mapM id = some cs →
      os.countP Option.isSome = cs.length := by
    intro os
    induction os with
    | nil => rintro cs h; cases h; rfl
    | cons o os ih =>
      intro cs h
      rw [List.mapM_cons] at h
      obtain ⟨c, ho, htail⟩ := Option.bind_eq_some_iff.1 h
      obtain ⟨cs', hcs', hall⟩ := Option.bind_eq_some_iff.1 htail
      obtain rfl : o = some c := ho
      obtain rfl := Option.some.inj hall
      rw [List.countP_cons_of_pos rfl, ih cs' hcs', List.length_cons]
  rw [← hlength (decode bs) cs h]
  exact countP_decode_le bs

end Utf8

namespace Percent

/-- No percent sign stands before two hexadecimal digits. -/
def IsUnescaped (cs : List Char) : Prop :=
  ∀ a b, ['%', a, b] <:+: cs → Document.hexValue? a = none ∨ Document.hexValue? b = none

theorem isUnescaped_of_notMem {cs : List Char} (h : '%' ∉ cs) : IsUnescaped cs :=
  fun _ _ hmem => absurd (hmem.subset List.mem_cons_self) h

theorem isUnescaped_nil : IsUnescaped [] := isUnescaped_of_notMem List.not_mem_nil

theorem isUnescaped_cons {c : Char} {cs : List Char} : IsUnescaped (c :: cs) ↔
    (∀ a b rest, c = '%' → cs = a :: b :: rest →
      Document.hexValue? a = none ∨ Document.hexValue? b = none) ∧ IsUnescaped cs := by
  constructor
  · refine fun h => ⟨?_, fun a b hmem => h a b (List.infix_cons_iff.2 (.inr hmem))⟩
    rintro a b rest rfl rfl
    exact h a b ⟨[], rest, rfl⟩
  · rintro ⟨hfirst, hrest⟩ a b hmem
    rcases List.infix_cons_iff.1 hmem with ⟨rest, heq⟩ | hmem
    · obtain ⟨rfl, rfl⟩ := List.cons.inj heq
      exact hfirst a b rest rfl rfl
    · exact hrest a b hmem

/-- **A text without digits behind a percent sign** is read as itself. -/
theorem decode_of_unescaped {cs : List Char} (h : IsUnescaped cs) : decode cs = Utf8.bytes cs := by
  induction cs with
  | nil => rfl
  | cons c cs ih =>
    obtain ⟨hfirst, hrest⟩ := isUnescaped_cons.1 h
    have hstep : decode (c :: cs) = String.utf8EncodeChar c ++ decode cs := by
      by_cases hc : c = '%'
      · subst hc
        refine decode_percent fun a b rest x y heq ha hb => ?_
        rcases hfirst a b rest rfl heq with hnone | hnone
        · rw [hnone] at ha
          cases ha
        · rw [hnone] at hb
          cases hb
      · exact decode_cons hc cs
    rw [hstep, ih hrest, Utf8.bytes_cons]

/-- **Reading gives no more characters than are written**, and as many only if no percent sign
stands before two digits. -/
theorem countP_decode_le (cs : List Char) :
    (decode cs).countP Utf8.begins ≤ cs.length ∧
      ((decode cs).countP Utf8.begins = cs.length → IsUnescaped cs) := by
  have hpercent : Utf8.begins 0x25 = true := by decide
  induction cs using decode.induct with
  | case1 => exact ⟨Nat.le_refl _, fun _ => isUnescaped_nil⟩
  | case2 a b rest x y hb ha ih =>
    have hbyte : (decode ('%' :: a :: b :: rest)).countP Utf8.begins ≤
        (decode rest).countP Utf8.begins + 1 := by
      rw [decode, ha, hb]
      dsimp only
      rw [List.countP_cons]
      split <;> omega
    simp only [List.length_cons]
    exact ⟨by omega, by omega⟩
  | case3 a b rest hnot ih =>
    have hstep : decode ('%' :: a :: b :: rest) = 0x25 :: decode (a :: b :: rest) :=
      decode_percent fun a' b' rest' x y heq ha hb => by
        cases heq
        exact hnot x y ha hb
    rw [hstep, List.countP_cons_of_pos hpercent, List.length_cons]
    refine ⟨Nat.succ_le_succ ih.1, fun heq => isUnescaped_cons.2 ⟨?_, ih.2 (by omega)⟩⟩
    intro a' b' rest' _ heq
    cases heq
    cases ha : Document.hexValue? a with
    | none => exact .inl rfl
    | some x =>
      cases hb : Document.hexValue? b with
      | none => exact .inr rfl
      | some y => exact absurd hb (hnot x y ha)
  | case4 c rest hnot ih =>
    have hstep : decode (c :: rest) = String.utf8EncodeChar c ++ decode rest := by
      rw [decode]
      exact hnot
    rw [hstep, List.countP_append, Utf8.countP_begins_encodeChar, List.length_cons]
    refine ⟨by omega, fun heq => isUnescaped_cons.2 ⟨?_, ih.2 (by omega)⟩⟩
    exact fun a b rest' hc hrest => absurd hrest (hnot a b rest' hc)

/-! ## Encoding -/

/-- A percent sign and hexadecimal digits are kept. -/
structure KeepsEscapes (keep : Char → Bool) : Prop where
  percent : keep '%' = true
  digit : ∀ c v, Document.hexValue? c = some v → c.toNat < 0x80 ∧ keep c = true

theorem encode_cons (keep : Char → Bool) (c : Char) (cs : List Char) :
    encode keep (c :: cs) = encodeChar keep c ++ encode keep cs := rfl

/-- What stands in an encoded text was kept, or it belongs to a percent sign. -/
theorem mem_encode {keep : Char → Bool} {c : Char} {cs : List Char} (h : c ∈ encode keep cs) :
    (c ∈ cs ∧ keep c = true) ∨ c = '%' ∨ ∃ n < 16, c = hexDigit n := by
  obtain ⟨d, hd, hc⟩ := List.mem_flatMap.1 h
  rcases mem_encodeChar hc with ⟨rfl, hkept⟩ | hescape
  · exact .inl ⟨hd, hkept⟩
  · exact .inr hescape

theorem encodeChar_of_keep {keep : Char → Bool} {c : Char} (h : c.toNat < 0x80 ∧ keep c = true) :
    encodeChar keep c = [c] := by
  simp [encodeChar, h]

/-- **A digit at the start** of what is encoded is one that was there before: what is not kept
begins with a percent sign. -/
theorem exists_of_encode_eq_cons {keep : Char → Bool} {cs ds : List Char} {d : Char} {v : Nat}
    (h : encode keep cs = d :: ds) (hd : Document.hexValue? d = some v) :
    ∃ rest, cs = d :: rest ∧ encode keep rest = ds := by
  cases cs with
  | nil => cases h
  | cons c cs =>
    rw [encode_cons, encodeChar] at h
    split at h
    · obtain ⟨rfl, rfl⟩ := List.cons.inj h
      exact ⟨cs, rfl, rfl⟩
    · obtain ⟨b, rest, hbytes, -⟩ := Utf8.encodeChar_eq_cons c
      rw [hbytes] at h
      obtain ⟨rfl, -⟩ := List.cons.inj h
      exact absurd hd (by decide +revert)

/-- **Encoding changes nothing of what is read.** -/
theorem decode_encode {keep : Char → Bool} (hkeep : KeepsEscapes keep) (cs : List Char) :
    decode (encode keep cs) = decode cs := by
  have hpercent : encodeChar keep '%' = ['%'] := encodeChar_of_keep ⟨by decide, hkeep.percent⟩
  -- a percent sign comes to stand before two digits only if it did so before
  have hlone : ∀ rest, (∀ a b rest' x y, rest = a :: b :: rest' → Document.hexValue? a = some x →
      Document.hexValue? b ≠ some y) → decode (encode keep rest) = decode rest →
        decode (encode keep ('%' :: rest)) = decode ('%' :: rest) := by
    intro rest hnot ih
    rw [encode_cons, hpercent, List.singleton_append, decode_percent hnot, decode_percent, ih]
    rintro a b ds x y heq ha hb
    obtain ⟨rest₁, rfl, htail⟩ := exists_of_encode_eq_cons heq ha
    obtain ⟨rest₂, rfl, -⟩ := exists_of_encode_eq_cons htail hb
    exact hnot a b rest₂ x y rfl ha hb
  induction cs using decode.induct with
  | case1 => rfl
  | case2 a b rest x y hb ha ih =>
    have hencode : encode keep ('%' :: a :: b :: rest) = '%' :: a :: b :: encode keep rest := by
      rw [encode_cons, encode_cons, encode_cons, hpercent, encodeChar_of_keep (hkeep.digit a x ha),
        encodeChar_of_keep (hkeep.digit b y hb)]
      rfl
    rw [hencode, decode, decode, ha, hb, ih]
  | case3 a b rest hnot ih =>
    refine hlone _ (fun a' b' rest' x y heq ha hb => ?_) ih
    cases heq
    exact hnot x y ha hb
  | case4 c rest hnot ih =>
    by_cases hc : c = '%'
    · subst hc
      exact hlone rest (fun a b rest' _ _ heq _ _ => hnot a b rest' rfl heq) ih
    · rw [encode_cons, decode_cons hc]
      unfold encodeChar
      split
      · rw [List.singleton_append, decode_cons hc, ih]
      · rw [decode_encodeBytes, ih]

end Percent

end StoreGate
