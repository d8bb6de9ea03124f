import Mathlib.Data.String.Basic
import StoreGate.Proofs.Except
import StoreGate.Text.Utf8

/-!
# Texts read back from their bytes

The bytes of a text are read as the characters of the text, without a gap.

* `Utf8.decode_bytes` — the characters that are read.
* `Utf8.decode?_toUTF8`, `Utf8.decodeLossy_bytes` — the same for the two readers of whole texts.
* `Utf8.decode_append`, `Utf8.mem_of_decode?` — a character is read among any other bytes.
* `Utf8.length_eq_countP` — characters are counted by the bytes that begin them.
-/

namespace StoreGate

namespace Utf8

/-! ## One byte -/

theorem toNat_ofNat {n : Nat} (h : n < 256) : (UInt8.ofNat n).toNat = n := by
  rw [UInt8.toNat_ofNat']
  exact Nat.mod_eq_of_lt h

theorem ofNat_lt_iff {n m : Nat} (hn : n < 256) (hm : m < 256) :
    UInt8.ofNat n < UInt8.ofNat m ↔ n < m := by
  rw [UInt8.lt_iff_toNat_lt, toNat_ofNat hn, toNat_ofNat hm]

theorem ofNat_le_iff {n m : Nat} (hn : n < 256) (hm : m < 256) :
    UInt8.ofNat n ≤ UInt8.ofNat m ↔ n ≤ m := by
  rw [UInt8.le_iff_toNat_le, toNat_ofNat hn, toNat_ofNat hm]

theorem ofNat_eq_iff {n m : Nat} (hn : n < 256) (hm : m < 256) :
    UInt8.ofNat n = UInt8.ofNat m ↔ n = m := by
  rw [← UInt8.toNat_inj, toNat_ofNat hn, toNat_ofNat hm]

theorem isContinuation_ofNat {n : Nat} (hlow : 128 ≤ n) (hhigh : n < 192) :
    isContinuation (UInt8.ofNat n) = true := by
  have h₁ : UInt8.ofNat 0x80 ≤ UInt8.ofNat n := (ofNat_le_iff (by decide) (by omega)).2 hlow
  have h₂ : UInt8.ofNat n ≤ UInt8.ofNat 0xBF :=
    (ofNat_le_iff (by omega) (by decide)).2 (Nat.le_of_lt_succ hhigh)
  unfold isContinuation
  rw [Bool.and_eq_true, decide_eq_true_eq, decide_eq_true_eq]
  exact ⟨h₁, h₂⟩

theorem low_ofNat {n : Nat} (h : n < 64) : low (UInt8.ofNat (n + 128)) = n := by
  rw [low, toNat_ofNat (by omega)]
  omega

/-- The first byte tells the number of bytes. -/
theorem size?_ofNat {n : Nat} (h : n < 256) :
    size? (UInt8.ofNat n) =
      if n < 0x80 then some 1 else if n < 0xC2 then none else if n < 0xE0 then some 2
      else if n < 0xF0 then some 3 else if n < 0xF5 then some 4 else none := by
  have hlt : ∀ m < 256, (UInt8.ofNat n < UInt8.ofNat m ↔ n < m) := fun m hm => ofNat_lt_iff h hm
  unfold size?
  rw [show (0x80 : UInt8) = UInt8.ofNat 0x80 from rfl,
    show (0xC2 : UInt8) = UInt8.ofNat 0xC2 from rfl,
    show (0xE0 : UInt8) = UInt8.ofNat 0xE0 from rfl,
    show (0xF0 : UInt8) = UInt8.ofNat 0xF0 from rfl,
    show (0xF5 : UInt8) = UInt8.ofNat 0xF5 from rfl]
  simp only [hlt 0x80 (by decide), hlt 0xC2 (by decide), hlt 0xE0 (by decide),
    hlt 0xF0 (by decide), hlt 0xF5 (by decide)]

/-- The second byte, by the numbers of the two. -/
theorem mayFollow_ofNat {a b : Nat} (ha : a < 256) (hlow : 128 ≤ b) (hhigh : b < 192)
    (hE0 : a = 0xE0 → 0xA0 ≤ b) (hED : a = 0xED → b ≤ 0x9F) (hF0 : a = 0xF0 → 0x90 ≤ b)
    (hF4 : a = 0xF4 → b ≤ 0x8F) : mayFollow (UInt8.ofNat a) (UInt8.ofNat b) = true := by
  have heq : ∀ m < 256, (UInt8.ofNat a = UInt8.ofNat m ↔ a = m) := fun m hm => ofNat_eq_iff ha hm
  have hle : ∀ m < 256, (UInt8.ofNat b ≤ UInt8.ofNat m ↔ b ≤ m) :=
    fun m hm => ofNat_le_iff (by omega) hm
  have hge : ∀ m < 256, (UInt8.ofNat m ≤ UInt8.ofNat b ↔ m ≤ b) :=
    fun m hm => ofNat_le_iff hm (by omega)
  unfold mayFollow
  split
  · next h =>
    have h := hE0 ((heq 0xE0 (by decide)).1 h)
    simp only [Bool.and_eq_true, decide_eq_true_eq]
    exact ⟨(hge 0xA0 (by decide)).2 h, (hle 0xBF (by decide)).2 (by omega)⟩
  · split
    · next h =>
      have h := hED ((heq 0xED (by decide)).1 h)
      simp only [Bool.and_eq_true, decide_eq_true_eq]
      exact ⟨(hge 0x80 (by decide)).2 hlow, (hle 0x9F (by decide)).2 h⟩
    · split
      · next h =>
        have h := hF0 ((heq 0xF0 (by decide)).1 h)
        simp only [Bool.and_eq_true, decide_eq_true_eq]
        exact ⟨(hge 0x90 (by decide)).2 h, (hle 0xBF (by decide)).2 (by omega)⟩
      · split
        · next h =>
          have h := hF4 ((heq 0xF4 (by decide)).1 h)
          simp only [Bool.and_eq_true, decide_eq_true_eq]
          exact ⟨(hge 0x80 (by decide)).2 hlow, (hle 0x8F (by decide)).2 h⟩
        · exact isContinuation_ofNat hlow hhigh

/-! ## One character -/

/-- The number of a character that is no surrogate and no more than the last. -/
theorem toNat_char_cases (c : Char) :
    c.toNat < 0xD800 ∨ 0xDFFF < c.toNat ∧ c.toNat < 0x110000 := c.valid

theorem decode_one {v : Nat} (h : v < 0x80) (rest : List UInt8) :
    decode (UInt8.ofNat v :: rest) = some (Char.ofNat v) :: decode rest := by
  have hsize : size? (UInt8.ofNat v) = some 1 := by
    rw [size?_ofNat (by omega), if_pos h]
  rw [decode, hsize]
  simp only [toNat_ofNat (show v < 256 by omega)]

theorem decode_two {v : Nat} (hlow : 0x80 ≤ v) (hhigh : v < 0x800) (rest : List UInt8) :
    decode (UInt8.ofNat (v / 64 % 32 + 192) :: UInt8.ofNat (v % 64 + 128) :: rest) =
      some (Char.ofNat v) :: decode rest := by
  have hsize : size? (UInt8.ofNat (v / 64 % 32 + 192)) = some 2 := by
    rw [size?_ofNat (by omega), if_neg (by omega), if_neg (by omega), if_pos (by omega)]
  have hfollow : mayFollow (UInt8.ofNat (v / 64 % 32 + 192)) (UInt8.ofNat (v % 64 + 128)) = true :=
    mayFollow_ofNat (by omega) (by omega) (by omega) (by omega) (by omega) (by omega) (by omega)
  rw [decode, hsize]
  simp only [hfollow, Bool.not_true, Bool.false_eq_true, if_false, if_true]
  rw [toNat_ofNat (by omega), low_ofNat (by omega)]
  congr 3
  omega

theorem decode_three {v : Nat} (hlow : 0x800 ≤ v) (hhigh : v < 0x10000)
    (hsurrogate : v < 0xD800 ∨ 0xDFFF < v) (rest : List UInt8) :
    decode (UInt8.ofNat (v / 4096 % 16 + 224) :: UInt8.ofNat (v / 64 % 64 + 128) ::
        UInt8.ofNat (v % 64 + 128) :: rest) = some (Char.ofNat v) :: decode rest := by
  have hsize : size? (UInt8.ofNat (v / 4096 % 16 + 224)) = some 3 := by
    rw [size?_ofNat (by omega), if_neg (by omega), if_neg (by omega), if_neg (by omega),
      if_pos (by omega)]
  have hfollow : mayFollow (UInt8.ofNat (v / 4096 % 16 + 224)) (UInt8.ofNat (v / 64 % 64 + 128)) =
      true :=
    mayFollow_ofNat (by omega) (by omega) (by omega) (by omega) (by omega) (by omega) (by omega)
  have hthird : isContinuation (UInt8.ofNat (v % 64 + 128)) = true :=
    isContinuation_ofNat (by omega) (by omega)
  rw [decode, hsize]
  simp only [hfollow, hthird, Bool.not_true, Bool.false_eq_true, if_false, if_true,
    show ¬ (3 : Nat) = 2 from by decide]
  rw [toNat_ofNat (by omega), low_ofNat (by omega), low_ofNat (by omega)]
  congr 3
  omega

theorem decode_four {v : Nat} (hlow : 0x10000 ≤ v) (hhigh : v < 0x110000) (rest : List UInt8) :
    decode (UInt8.ofNat (v / 262144 % 8 + 240) :: UInt8.ofNat (v / 4096 % 64 + 128) ::
        UInt8.ofNat (v / 64 % 64 + 128) :: UInt8.ofNat (v % 64 + 128) :: rest) =
      some (Char.ofNat v) :: decode rest := by
  have hsize : size? (UInt8.ofNat (v / 262144 % 8 + 240)) = some 4 := by
    rw [size?_ofNat (by omega), if_neg (by omega), if_neg (by omega), if_neg (by omega),
      if_neg (by omega), if_pos (by omega)]
  have hfollow : mayFollow (UInt8.ofNat (v / 262144 % 8 + 240))
      (UInt8.ofNat (v / 4096 % 64 + 128)) = true :=
    mayFollow_ofNat (by omega) (by omega) (by omega) (by omega) (by omega) (by omega) (by omega)
  have hthird : isContinuation (UInt8.ofNat (v / 64 % 64 + 128)) = true :=
    isContinuation_ofNat (by omega) (by omega)
  have hfourth : isContinuation (UInt8.ofNat (v % 64 + 128)) = true :=
    isContinuation_ofNat (by omega) (by omega)
  rw [decode, hsize]
  simp only [hfollow, hthird, hfourth, Bool.not_true, Bool.false_eq_true, if_false,
    show ¬ (4 : Nat) = 2 from by decide, show ¬ (4 : Nat) = 3 from by decide]
  rw [toNat_ofNat (by omega), low_ofNat (by omega), low_ofNat (by omega), low_ofNat (by omega)]
  congr 3
  omega

/-- **One character** is read from its bytes, whatever follows them. -/
theorem decode_encodeChar (c : Char) (rest : List UInt8) :
    decode (String.utf8EncodeChar c ++ rest) = some c :: decode rest := by
  have hvalid := toNat_char_cases c
  conv_rhs => rw [← Char.ofNat_toNat c]
  unfold String.utf8EncodeChar
  rw [show c.val.toNat = c.toNat from rfl]
  generalize c.toNat = v at *
  dsimp only
  split
  · exact decode_one (by omega) rest
  · split
    · exact decode_two (by omega) (by omega) rest
    · split
      · exact decode_three (by omega) (by omega) (by omega) rest
      · exact decode_four (by omega) (by omega) rest

/-! ## Texts -/

/-- **The characters of a text** are read from its bytes. -/
theorem decode_bytes (cs : List Char) : decode (bytes cs) = cs.map some := by
  induction cs with
  | nil => rfl
  | cons c cs ih => rw [bytes_cons, decode_encodeChar, ih, List.map_cons]

theorem mapM_map_some {α : Type} (as : List α) : (as.map some).mapM id = some as := by
  induction as with
  | nil => rfl
  | cons a as ih => simp [List.mapM_cons, ih]

theorem decode?_bytes (cs : List Char) : decode? (bytes cs) = some cs := by
  rw [decode?, decode_bytes, mapM_map_some]

theorem decodeLossy_bytes (cs : List Char) : decodeLossy (bytes cs) = cs := by
  rw [decodeLossy, decode_bytes, List.map_map]
  exact List.map_id cs

theorem toList_toUTF8 (s : String) : s.toUTF8.data.toList = bytes s.toList := by
  rw [String.toUTF8_eq_toByteArray, ← String.utf8Encode_toList, List.utf8Encode,
    List.toList_data_toByteArray]
  rfl

theorem fromUTF8?_toUTF8 (s : String) : String.fromUTF8? s.toUTF8 = some s := by
  rw [String.fromUTF8?, String.toUTF8_eq_toByteArray, dif_pos s.isValidUTF8]
  rfl

/-! ## Boundaries -/

/-- What continues no character is no second byte either. -/
theorem mayFollow_of_not_continuation {a b : UInt8} (h : isContinuation b = false) :
    mayFollow a b = false := by
  have hlow : ∀ lo hi : UInt8, 0x80 ≤ lo → hi ≤ 0xBF →
      (decide (lo ≤ b) && decide (b ≤ hi)) = false := by
    intro lo hi hlo hhi
    by_contra hin
    simp only [Bool.not_eq_false, Bool.and_eq_true, decide_eq_true_eq] at hin
    have hcontinues : isContinuation b = true := by
      simp only [isContinuation, Bool.and_eq_true, decide_eq_true_eq]
      exact ⟨UInt8.le_trans hlo hin.1, UInt8.le_trans hin.2 hhi⟩
    rw [h] at hcontinues
    cases hcontinues
  unfold mayFollow
  split
  · exact hlow _ _ (by decide) (by decide)
  · split
    · exact hlow _ _ (by decide) (by decide)
    · split
      · exact hlow _ _ (by decide) (by decide)
      · split
        · exact hlow _ _ (by decide) (by decide)
        · exact h

/-- **Bytes are read up to where a character begins**: what stands before does not run into it, even
if it ends within a character. -/
theorem decode_append (pre : List UInt8) {b : UInt8} (hb : isContinuation b = false)
    (rest : List UInt8) : decode (pre ++ b :: rest) = decode pre ++ decode (b :: rest) := by
  have hfollow : ∀ a, mayFollow a b = false := fun a => mayFollow_of_not_continuation hb
  fun_induction decode pre
  case case1 => rfl
  -- a character that is cut short is one gap, whether `b` follows or nothing
  all_goals
    simp only [List.cons_append, List.nil_append] at *
    rw [decode]
    simp [*]

/-- The bytes of a character begin with none that continues one. -/
theorem encodeChar_eq_cons (c : Char) :
    ∃ b rest, String.utf8EncodeChar c = b :: rest ∧ isContinuation b = false := by
  have hbyte : ∀ n < 256, n < 0x80 ∨ 0xBF < n → isContinuation (UInt8.ofNat n) = false := by
    decide +kernel
  have hvalid := toNat_char_cases c
  unfold String.utf8EncodeChar
  rw [show c.val.toNat = c.toNat from rfl]
  generalize c.toNat = v at *
  dsimp only
  split
  · exact ⟨_, _, rfl, hbyte _ (by omega) (by omega)⟩
  · split
    · exact ⟨_, _, rfl, hbyte _ (by omega) (by omega)⟩
    · split
      · exact ⟨_, _, rfl, hbyte _ (by omega) (by omega)⟩
      · exact ⟨_, _, rfl, hbyte _ (by omega) (by omega)⟩

/-- **A character is read** wherever its bytes stand, whatever stands before and after them. -/
theorem some_mem_decode (before after : List UInt8) (c : Char) :
    some c ∈ decode (before ++ String.utf8EncodeChar c ++ after) := by
  obtain ⟨b, rest, hbytes, hb⟩ := encodeChar_eq_cons c
  have hread := decode_encodeChar c after
  rw [hbytes] at hread ⊢
  rw [List.append_assoc, List.cons_append, decode_append before hb, ← List.cons_append, hread]
  simp

theorem mem_of_decode? {before after : List UInt8} {c : Char} {cs : List Char}
    (h : decode? (before ++ String.utf8EncodeChar c ++ after) = some cs) : c ∈ cs := by
  obtain ⟨d, hd, hc⟩ := exists_of_optionMapM_eq_some h (some_mem_decode before after c)
  rwa [Option.some.inj hc]

/-! ## Counting characters -/

/-- A byte that continues no character. -/
def begins (b : UInt8) : Bool := Nat.blt b.toNat 0x80 || Nat.blt 0xBF b.toNat

theorem countP_begins_encodeChar (c : Char) :
    (String.utf8EncodeChar c).countP begins = 1 := by
  have hfirst : ∀ n < 256, n < 0x80 ∨ 0xBF < n → begins (UInt8.ofNat n) = true := by decide +kernel
  have hother : ∀ n < 64, begins (UInt8.ofNat (n + 128)) = false := by decide +kernel
  have hvalid := toNat_char_cases c
  unfold String.utf8EncodeChar
  rw [show c.val.toNat = c.toNat from rfl]
  generalize c.toNat = v at *
  dsimp only
  split
  · rw [List.countP_cons, hfirst v (by omega) (by omega)]
    rfl
  · split
    · rw [List.countP_cons, hfirst _ (by omega) (by omega), List.countP_cons, hother _ (by omega)]
      rfl
    · split
      · rw [List.countP_cons, hfirst _ (by omega) (by omega), List.countP_cons, hother _ (by omega),
          List.countP_cons, hother _ (by omega)]
        rfl
      · rw [List.countP_cons, hfirst _ (by omega) (by omega), List.countP_cons, hother _ (by omega),
          List.countP_cons, hother _ (by omega), List.countP_cons, hother _ (by omega)]
        rfl

/-- **A text has as many characters** as it has bytes that continue none. -/
theorem length_eq_countP (s : String) : s.length = s.toUTF8.data.toList.countP begins := by
  have hchars : ∀ cs, (bytes cs).countP begins = cs.length := by
    intro cs
    induction cs with
    | nil => rfl
    | cons c cs ih =>
        rw [bytes_cons, List.countP_append, countP_begins_encodeChar, ih, List.length_cons,
          Nat.add_comm]
  rw [toList_toUTF8, hchars, String.length_toList]

end Utf8

end StoreGate
