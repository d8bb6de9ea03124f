import StoreGate.Proofs.Text.Utf8
import StoreGate.Text.Percent

/-!
# Forms read back

The fields of a form are read as they were written, whatever characters they hold: what the form
would misread is written in percent signs and digits, which hold no mark of their own.

* `Percent.decode_split` — what belongs to no percent sign comes through.
* `Percent.decode_encodeField` — one name or value, byte by byte.
* `Percent.splitOn_intercalate` — parts without the mark are cut where they were joined.
* `Percent.pairs_form` — all fields.
-/

namespace StoreGate

namespace Percent

/-! ## Bytes -/

theorem hexValue?_hexDigit {n : Nat} (h : n < 16) :
    Document.hexValue? (hexDigit n) = some n := by
  have hall : ∀ m < 16, Document.hexValue? (hexDigit m) = some m := by decide
  exact hall n h

theorem decode_encodeByte (b : UInt8) (rest : List Char) :
    decode (encodeByte b ++ rest) = b :: decode rest := by
  have hlt := b.toNat_lt
  have hbyte : 16 * (b.toNat / 16) + b.toNat % 16 = b.toNat := Nat.div_add_mod _ _
  have hhigh : Document.hexValue? (hexDigit (b.toNat / 16)) = some (b.toNat / 16) :=
    hexValue?_hexDigit (by omega)
  have hlow : Document.hexValue? (hexDigit (b.toNat % 16)) = some (b.toNat % 16) :=
    hexValue?_hexDigit (by omega)
  rw [encodeByte, List.cons_append, List.cons_append, List.cons_append, List.nil_append, decode,
    hhigh, hlow]
  dsimp only
  rw [hbyte, UInt8.ofNat_toNat]

theorem decode_encodeBytes (bytes : List UInt8) (rest : List Char) :
    decode (bytes.flatMap encodeByte ++ rest) = bytes ++ decode rest := by
  induction bytes with
  | nil => rfl
  | cons b bytes ih =>
      rw [List.flatMap_cons, List.append_assoc, decode_encodeByte, ih]
      rfl

/-- **What is written for a character** is that character if it is kept, or a percent sign, or a
digit. -/
theorem mem_encodeChar {keep : Char → Bool} {c d : Char} (h : c ∈ encodeChar keep d) :
    (c = d ∧ keep d = true) ∨ c = '%' ∨ ∃ n < 16, c = hexDigit n := by
  unfold encodeChar at h
  split at h
  · next hkept => exact .inl ⟨List.mem_singleton.1 h, (Bool.and_eq_true_iff.1 hkept).2⟩
  · obtain ⟨b, -, hc⟩ := List.mem_flatMap.1 h
    have hlt := b.toNat_lt
    simp only [encodeByte, List.mem_cons, List.not_mem_nil, or_false] at hc
    rcases hc with rfl | rfl | rfl
    · exact .inr (.inl rfl)
    · exact .inr (.inr ⟨_, by omega, rfl⟩)
    · exact .inr (.inr ⟨_, by omega, rfl⟩)

theorem decode_cons {c : Char} (h : c ≠ '%') (rest : List Char) :
    decode (c :: rest) = String.utf8EncodeChar c ++ decode rest := by
  rw [decode]
  exact fun a b rest' heq => absurd heq h

/-- A text without percent signs stands for itself. -/
theorem decode_of_notMem {cs : List Char} (h : '%' ∉ cs) : decode cs = Utf8.bytes cs := by
  induction cs with
  | nil => rfl
  | cons c cs ih =>
      have hne : c ≠ '%' := fun heq => h (heq ▸ List.mem_cons_self)
      rw [decode_cons hne, ih fun hmem => h (List.mem_cons_of_mem _ hmem)]
      rfl

/-- A percent sign without two digits stands for itself. -/
theorem decode_percent {cs : List Char}
    (h : ∀ a b rest x y, cs = a :: b :: rest → Document.hexValue? a = some x →
      Document.hexValue? b ≠ some y) : decode ('%' :: cs) = 0x25 :: decode cs := by
  match cs, h with
  | [], _ => rfl
  | [a], _ => rfl
  | a :: b :: rest, h =>
      rw [decode]
      cases ha : Document.hexValue? a with
      | none => rfl
      | some x =>
          cases hb : Document.hexValue? b with
          | none => rfl
          | some y => exact absurd hb (h a b rest x y rfl ha)

/-- **A character that belongs to no percent sign** comes through as its own bytes. -/
theorem decode_split {c : Char} (hpercent : c ≠ '%') (hhex : Document.hexValue? c = none)
    (before after : List Char) : ∃ front back,
      decode (before ++ c :: after) = front ++ String.utf8EncodeChar c ++ back := by
  have hpast : ∀ {bytes : List UInt8} {rest : List Char},
      (∃ front back, decode rest = front ++ String.utf8EncodeChar c ++ back) →
      ∃ front back, bytes ++ decode rest = front ++ String.utf8EncodeChar c ++ back := by
    rintro bytes rest ⟨front, back, h⟩
    exact ⟨bytes ++ front, back, by simp [h]⟩
  induction before using decode.induct with
  | case1 => exact ⟨[], decode after, by rw [List.nil_append, decode_cons hpercent]; rfl⟩
  | case2 a b rest x y hb ha ih =>
      have hstep : decode ('%' :: a :: b :: rest ++ c :: after) =
          [UInt8.ofNat (16 * x + y)] ++ decode (rest ++ c :: after) := by
        simp only [List.cons_append]
        rw [decode, ha, hb]
        rfl
      rw [hstep]
      exact hpast ih
  | case3 a b rest hnot ih =>
      have hstep : decode ('%' :: a :: b :: rest ++ c :: after) =
          [0x25] ++ decode (a :: b :: rest ++ c :: after) :=
        decode_percent fun a' b' rest' x y heq ha hb => by
          cases heq
          exact hnot x y ha hb
      rw [hstep]
      exact hpast ih
  | case4 d rest hnot ih =>
      by_cases hd : d = '%'
      · subst hd
        have hstep : decode ('%' :: rest ++ c :: after) = [0x25] ++ decode (rest ++ c :: after) := by
          refine decode_percent fun a b rest' x y heq ha hb => ?_
          match rest, heq with
          | [], heq =>
              cases heq
              rw [hhex] at ha
              cases ha
          | [a'], heq =>
              cases heq
              rw [hhex] at hb
              cases hb
          | a' :: b' :: rest, _ => exact hnot a' b' rest rfl rfl
        rw [hstep]
        exact hpast ih
      · rw [List.cons_append, decode_cons hd]
        exact hpast ih

/-! ## Names and values -/

/-- The characters that a written name or value consists of. -/
def IsWritten (c : Char) : Prop := keptInForm c = true ∨ c = '+' ∨ c = '%'

theorem isWritten_hexDigit {n : Nat} (h : n < 16) : IsWritten (hexDigit n) := by
  have hall : ∀ m < 16, keptInForm (hexDigit m) = true := by decide
  exact .inl (hall n h)

theorem isWritten_of_mem_encodeField {c : Char} {cs : List Char} (h : c ∈ encodeField cs) :
    IsWritten c := by
  obtain ⟨d, -, hc⟩ := List.mem_flatMap.1 h
  by_cases hblank : d = ' '
  · rw [if_pos hblank] at hc
    exact .inr (.inl (List.mem_singleton.1 hc))
  rw [if_neg hblank] at hc
  rcases mem_encodeChar hc with ⟨rfl, hkept⟩ | rfl | ⟨n, hn, rfl⟩
  · exact .inl hkept
  · exact .inr (.inr rfl)
  · exact isWritten_hexDigit hn

theorem notMem_encodeField {mark : Char} (h : ¬ IsWritten mark) (cs : List Char) :
    mark ∉ encodeField cs := fun hmem => h (isWritten_of_mem_encodeField hmem)

/-- A plus sign is a blank in a form. -/
def spaced (cs : List Char) : List Char := cs.map fun c => if c = '+' then ' ' else c

theorem spaced_encodeBytes (bytes : List UInt8) :
    spaced (bytes.flatMap encodeByte) = bytes.flatMap encodeByte := by
  refine (List.map_congr_left fun c hc => ?_).trans (List.map_id _)
  have hplus : ∀ n < 16, hexDigit n ≠ '+' := by decide
  obtain ⟨b, -, hc⟩ := List.mem_flatMap.1 hc
  have hlt := b.toNat_lt
  have hne : c ≠ '+' := by
    simp only [encodeByte, List.mem_cons, List.not_mem_nil, or_false] at hc
    rcases hc with rfl | rfl | rfl
    · decide
    · exact hplus _ (by omega)
    · exact hplus _ (by omega)
  exact if_neg hne

/-- **A name or value is read back** byte by byte. -/
theorem decode_encodeField (cs : List Char) :
    decode (spaced (encodeField cs)) = Utf8.bytes cs := by
  induction cs with
  | nil => rfl
  | cons c cs ih =>
      have hcons : spaced (encodeField (c :: cs)) =
          spaced (if c = ' ' then ['+'] else encodeChar keptInForm c) ++
            spaced (encodeField cs) := by
        rw [encodeField, List.flatMap_cons, spaced, List.map_append]
        rfl
      rw [hcons, Utf8.bytes_cons, ← ih]
      by_cases hblank : c = ' '
      · subst hblank
        rw [if_pos rfl]
        exact decode_cons (by decide) _
      rw [if_neg hblank, encodeChar]
      by_cases hkept : (c.toNat < 0x80 && keptInForm c) = true
      · have hform := (Bool.and_eq_true_iff.1 hkept).2
        have hne : ∀ d : Char, keptInForm d = false → c ≠ d := by
          rintro d hd rfl
          rw [hd] at hform
          cases hform
        have hsame : spaced [c] = [c] := congrArg (· :: []) (if_neg (hne '+' (by decide)))
        rw [if_pos hkept, hsame]
        exact decode_cons (hne '%' (by decide)) _
      · rw [if_neg hkept, spaced_encodeBytes, decode_encodeBytes]

theorem decodeField_encodeField (s : String) : decodeField (encodeField s.toList) = s := by
  have hdecode := decode_encodeField s.toList
  unfold spaced at hdecode
  rw [decodeField, hdecode, Utf8.decodeLossy_bytes, String.ofList_toList]

/-! ## Fields -/

theorem splitOn_eq (mark : Char) (cs : List Char) : splitOn mark cs = cs.splitOn mark := by
  induction cs with
  | nil => rfl
  | cons c cs ih =>
      have hsplit : (c :: cs).splitOn mark =
          if (c == mark) = true then [] :: cs.splitOn mark
          else (cs.splitOn mark).modifyHead (c :: ·) :=
        List.splitOnP_cons_eq_if_modifyHead c cs
      rw [splitOn, ih, hsplit]
      by_cases hc : c = mark
      · rw [if_pos hc, if_pos (beq_iff_eq.2 hc)]
      · rw [if_neg hc, if_neg fun h => hc (beq_iff_eq.1 h)]
        cases hparts : cs.splitOn mark with
        | nil => exact absurd hparts (List.splitOn_ne_nil mark cs)
        | cons part parts => rfl

/-- **Parts are cut where they were joined**, if none of them holds the mark. -/
theorem splitOn_intercalate {mark : Char} {parts : List (List Char)} (h : ∀ p ∈ parts, mark ∉ p)
    (hne : parts ≠ []) : splitOn mark (List.intercalate [mark] parts) = parts := by
  rw [splitOn_eq, List.splitOn_intercalate mark h hne]

theorem not_isWritten {mark : Char} (hform : keptInForm mark = false) (hplus : mark ≠ '+')
    (hpercent : mark ≠ '%') : ¬ IsWritten mark := by
  rintro (h | h | h)
  · rw [hform] at h
    cases h
  · exact hplus h
  · exact hpercent h

theorem mem_intercalate {mark c : Char} {parts : List (List Char)}
    (h : c ∈ List.intercalate [mark] parts) : c = mark ∨ ∃ p ∈ parts, c ∈ p := by
  induction parts with
  | nil => simp at h
  | cons p parts ih =>
      cases parts with
      | nil =>
          rw [List.intercalate_singleton] at h
          exact .inr ⟨p, List.mem_cons_self, h⟩
      | cons p' parts =>
          rw [List.intercalate_cons_cons, List.append_assoc] at h
          rcases List.mem_append.1 h with h | h
          · exact .inr ⟨p, List.mem_cons_self, h⟩
          · rcases List.mem_append.1 h with h | h
            · exact .inl (List.mem_singleton.1 h)
            · refine (ih h).imp_right fun ⟨q, hq, hc⟩ => ⟨q, List.mem_cons_of_mem _ hq, hc⟩

/-- A cut text consists of its parts and the marks between them. -/
theorem mem_splitOn (mark : Char) {c : Char} {cs : List Char} (h : c ∈ cs) :
    c = mark ∨ ∃ p ∈ splitOn mark cs, c ∈ p := by
  have hjoined : List.intercalate [mark] (cs.splitOn mark) = cs := List.intercalate_splitOn mark
  rw [splitOn_eq]
  rw [← hjoined] at h
  exact mem_intercalate h

/-- What a form consists of. -/
theorem isWritten_of_mem_form {fields : List (String × String)} {c : Char} (h : c ∈ form fields) :
    IsWritten c ∨ c = '&' ∨ c = '=' := by
  rcases mem_intercalate h with h | ⟨p, hp, hc⟩
  · exact .inr (.inl h)
  · obtain ⟨f, -, rfl⟩ := List.mem_map.1 hp
    rcases List.mem_append.1 hc with hc | hc
    · exact .inl (isWritten_of_mem_encodeField hc)
    · rcases List.mem_cons.1 hc with hc | hc
      · exact .inr (.inr hc)
      · exact .inl (isWritten_of_mem_encodeField hc)

/-- **The fields of a form are read back.** -/
theorem pairs_form (fields : List (String × String)) : pairs (form fields) = fields := by
  obtain ⟨parts, hparts⟩ : ∃ parts, parts = fields.map fun f =>
      encodeField f.1.toList ++ '=' :: encodeField f.2.toList := ⟨_, rfl⟩
  have hmark : ¬ IsWritten '&' := not_isWritten (by decide) (by decide) (by decide)
  have hequals : ¬ IsWritten '=' := not_isWritten (by decide) (by decide) (by decide)
  have hnone : ∀ p ∈ parts, '&' ∉ p := by
    intro p hp
    rw [hparts] at hp
    obtain ⟨f, -, rfl⟩ := List.mem_map.1 hp
    intro hmem
    rcases List.mem_append.1 hmem with hmem | hmem
    · exact notMem_encodeField hmark _ hmem
    · rcases List.mem_cons.1 hmem with hmem | hmem
      · exact absurd hmem (by decide)
      · exact notMem_encodeField hmark _ hmem
  have hread : ∀ f : String × String,
      (decodeField ((encodeField f.1.toList ++ '=' :: encodeField f.2.toList).takeWhile
          fun c => c != '='),
        decodeField (((encodeField f.1.toList ++ '=' :: encodeField f.2.toList).dropWhile
          fun c => c != '=').drop 1)) = f := by
    intro f
    have hname : ∀ c ∈ encodeField f.1.toList, (c != '=') = true := fun c hc =>
      bne_iff_ne.2 fun heq => notMem_encodeField hequals _ (heq ▸ hc)
    rw [List.takeWhile_append_of_pos hname, List.dropWhile_append_of_pos hname]
    simp [decodeField_encodeField]
  have hjoined : form fields = List.intercalate ['&'] parts := by
    rw [form, hparts]
  cases hfields : fields with
  | nil => rfl
  | cons f rest =>
      have hne : parts ≠ [] := by
        rw [hparts, hfields]
        simp
      have hfull : parts.filter (fun part => !part.isEmpty) = parts := by
        refine List.filter_eq_self.2 fun p hp => ?_
        rw [hparts] at hp
        obtain ⟨f, -, rfl⟩ := List.mem_map.1 hp
        simp
      rw [← hfields, pairs, hjoined, splitOn_intercalate hnone hne, hfull, hparts, List.map_map]
      exact (List.map_congr_left fun f _ => hread f).trans (List.map_id fields)

/-- A form without fields is the only empty one. -/
theorem form_ne_nil {fields : List (String × String)} (h : fields ≠ []) : form fields ≠ [] := by
  intro hnil
  have hpairs := pairs_form fields
  rw [hnil] at hpairs
  exact h hpairs.symm

end Percent

end StoreGate
