import Mathlib.Data.List.TakeWhile
import StoreGate.Proofs.Text.Form
import StoreGate.Proofs.Url.Plain

/-!
# Which characters a host is read with

Before a name is compared, capital letters are lowered, forms of letters are replaced and marks are
joined to their letters. None of this takes away a blank or a mark that cuts an address: a text with
one of them is read as no host, but for the brackets and colons of eight pieces.

* `Text.mem_composed` — what joins nothing is still there in normal form C.
* `HostName.cutsAddress` — the marks that cut an address, and what it is cleaned of.
* `HostName.notMem_of_ascii?` — a name has none of them, and no blank of any kind.
* `Host.Bracketed`, `Host.mem_of_bracketed` — what stands between brackets.
* `Host.parse_eq_ok_cases` — a text that is read as a host is one or the other.
-/

namespace StoreGate

/-! ## Normal form C -/

namespace Text

/-- A plain character that makes no other one with what follows it. -/
def JoinsNothing (c : Char) : Prop := c.toNat < 0xC0 ∧ ∀ d, composite? c d = none

variable {c d : Char} {cs : List Char}

theorem mem_insertMark : c ∈ insertMark d cs ↔ c = d ∨ c ∈ cs := by
  induction cs with
  | nil => simp [insertMark]
  | cons e cs ih =>
      unfold insertMark
      split
      · rw [List.mem_cons, ih, List.mem_cons]
        exact or_left_comm
      · simp

theorem mem_marksInOrder : c ∈ marksInOrder cs ↔ c ∈ cs := by
  induction cs with
  | nil => exact Iff.rfl
  | cons d cs ih =>
      have hcons : marksInOrder (d :: cs) = insertMark d (marksInOrder cs) := rfl
      rw [hcons, mem_insertMark, ih, List.mem_cons]

/-- It is no mark that a letter before it could take. -/
theorem JoinsNothing.composite?_right (h : JoinsNothing c) (letter : Char) :
    composite? letter c = none := by
  have hlow : c.toNat < 0x300 := Nat.lt_trans h.1 (by decide)
  rw [composite?, if_pos hlow]

theorem mem_joinMarks (h : JoinsNothing c) {letter : Char} {marks : List Char}
    (hmem : c = letter ∨ c ∈ marks ∨ c ∈ cs) : c ∈ joinMarks letter marks cs := by
  induction cs generalizing letter marks with
  | nil => simpa [joinMarks] using hmem
  | cons d cs ih =>
      have hjoins : ∀ {reaches : Bool} {x : Char},
          (if reaches = true then composite? letter d else none) = some x →
            composite? letter d = some x := by
        intro reaches x hjoined
        cases reaches with
        | false => cases hjoined
        | true => exact hjoined
      unfold joinMarks
      dsimp only
      split
      · -- a letter is joined with `d`, and neither of the two is `c`
        next x hjoined =>
        have hx := hjoins hjoined
        refine ih (.inr ?_)
        rcases hmem with rfl | hmem | hmem
        · rw [h.2] at hx
          cases hx
        · exact .inl hmem
        · rcases List.mem_cons.1 hmem with rfl | hmem
          · rw [h.composite?_right] at hx
            cases hx
          · exact .inr hmem
      · split
        · have hrest : c = d ∨ c ∈ cs → c ∈ joinMarks d [] cs := fun hc =>
            ih (hc.imp id .inr)
          simp only [List.mem_cons] at hmem
          simp only [List.cons_append, List.mem_cons, List.mem_append, List.mem_reverse]
          exact hmem.imp id (.imp id hrest)
        · refine ih ?_
          simp only [List.mem_cons] at hmem ⊢
          tauto

theorem mem_joinAll (h : JoinsNothing c) (hmem : c ∈ cs) : c ∈ joinAll cs := by
  induction cs with
  | nil => exact hmem
  | cons d cs ih =>
      rw [joinAll]
      split
      · exact mem_joinMarks h ((List.mem_cons.1 hmem).imp id .inr)
      · exact List.mem_cons.2 ((List.mem_cons.1 hmem).imp id ih)

/-- **What joins nothing stays** in normal form C. -/
theorem mem_composed (h : JoinsNothing c) (hmem : c ∈ cs) : c ∈ composed cs := by
  refine mem_joinAll h (mem_marksInOrder.2 (List.mem_flatMap.2 ⟨c, hmem, ?_⟩))
  rw [apart_of_lt h.1]
  exact List.mem_singleton_self c

end Text

/-! ## Marks that cut an address -/

namespace HostName

/-- A mark that cuts an address, or a character that is taken away before it is cut. -/
def cutsAddress (c : Char) : Bool :=
  decide (c.toNat ≤ 0x20) || ['#', '/', ':', '?', '@', '[', '\\', ']'].contains c

variable {c : Char}

theorem toNat_of_cutsAddress (h : cutsAddress c = true) : c.toNat < 0x80 := by
  rw [cutsAddress, Bool.or_eq_true, decide_eq_true_eq, List.contains_iff_mem] at h
  rcases h with h | h
  · omega
  · have hall : (['#', '/', ':', '?', '@', '[', '\\', ']'].all fun d => decide (d.toNat < 0x80)) =
        true := by decide
    exact of_decide_eq_true (List.all_eq_true.1 hall c h)

/-- Such a character is its own lower case, is no hexadecimal digit, and stands in no name. -/
theorem fixed_of_cutsAddress (h : cutsAddress c = true) :
    c.toLower = c ∧ Document.hexValue? c = none ∧ c ≠ '%' ∧ isForbidden c = true := by
  have hall : (!cutsAddress c || (c.toLower == c && Document.hexValue? c == none && c != '%' &&
      isForbidden c)) = true :=
    forall_ascii (p := fun c => !cutsAddress c || (c.toLower == c &&
      Document.hexValue? c == none && c != '%' && isForbidden c)) (by decide +kernel)
      (toNat_of_cutsAddress h)
  simpa [h, and_assoc] using hall

/-- A character of ASCII stands in a text as its own byte. -/
theorem byte_mem_toUTF8 {s : String} (hascii : c.toNat < 0x80) (h : c ∈ s.toList) :
    UInt8.ofNat c.toNat ∈ s.toUTF8.data.toList := by
  rw [Utf8.toList_toUTF8]
  refine List.mem_flatMap.2 ⟨c, h, ?_⟩
  unfold String.utf8EncodeChar
  rw [show c.val.toNat = c.toNat from rfl]
  dsimp only
  rw [if_pos (by omega)]
  exact List.mem_singleton_self _

/-- The number of a character that letters with marks are made of. -/
def isFirstNumber (n : Nat) : Bool :=
  decide (0x3A < n) && !([0x3F, 0x40, 0x5B, 0x5C, 0x5D].contains n)

/-- **They join nothing**: no letter with a mark is made of one. -/
theorem joinsNothing_of_cutsAddress (h : cutsAddress c = true) : Text.JoinsNothing c := by
  have hascii := toNat_of_cutsAddress h
  have hnumber : (!cutsAddress c || !isFirstNumber c.toNat) = true :=
    forall_ascii (p := fun c => !cutsAddress c || !isFirstNumber c.toNat) (by decide +kernel) hascii
  -- a table is looked through by its bytes, which is faster than by its characters
  have hbytes : (Text.compositionRows.all fun r =>
      r.firsts.toUTF8.data.toList.all fun b => isFirstNumber b.toNat) = true := by
    decide +kernel
  refine ⟨by omega, fun d => ?_⟩
  have hsyllable : Text.syllable? c.toNat d.toNat = none := by
    unfold Text.syllable?
    rw [if_neg (by omega), if_neg (by omega)]
  unfold Text.composite?
  split
  · rfl
  · rw [hsyllable]
    refine List.findSome?_eq_none_iff.2 fun r hr => ?_
    split
    · rw [Option.map_eq_none_iff, List.find?_eq_none]
      intro p hp heq
      obtain rfl : p.1 = c := by simpa using heq
      have hfirst := List.all_eq_true.1 (List.all_eq_true.1 hbytes r hr) _
        (byte_mem_toUTF8 hascii (List.of_mem_zip hp).1)
      rw [Utf8.toNat_ofNat (by omega)] at hfirst
      simp [h, hfirst] at hnumber
    · rfl

/-! ## Blanks -/

/-- The blanks beyond ASCII but for the wide one, by their numbers. -/
def blankNumbers : List Nat :=
  [0x85, 0xA0, 0x1680, 0x2028, 0x2029, 0x202F, 0x205F] ++ List.range' 0x2000 11

/-- The number of the wide blank. -/
def wideBlank : Nat := 0x3000

theorem blank_cases (h : Text.isBlank c = true) :
    cutsAddress c = true ∨ c.toNat ∈ blankNumbers ∨ c.toNat = wideBlank := by
  simp only [Text.isBlank, Bool.or_eq_true, Bool.and_eq_true, decide_eq_true_eq, beq_iff_eq] at h
  simp only [cutsAddress, blankNumbers, wideBlank, List.mem_append, List.mem_cons,
    List.not_mem_nil, or_false, List.mem_range'_1, Bool.or_eq_true, decide_eq_true_eq]
  omega

theorem replacement?_wideBlank : replacement? wideBlank = some [' '] := by
  -- the texts of the rows before are counted by their bytes, which is faster
  have hrow : letterReplacements.find? (fun r => decide (r.1 ≤ wideBlank) &&
      decide (wideBlank < r.1 + r.2.toUTF8.data.toList.countP Utf8.begins)) =
        some (wideBlank, " ") := by
    decide +kernel
  simp only [← Utf8.length_eq_countP] at hrow
  rw [replacement?, hrow]
  rfl

/-- **A blank beyond ASCII** stands in no name, or a plain blank stands in its place. -/
theorem plainForm?_of_blank (h : c.toNat ∈ blankNumbers ∨ c.toNat = wideBlank) :
    plainForm? c = none ∨ plainForm? c = some [' '] := by
  rcases h with h | h
  · have hall : (blankNumbers.all fun n => plainForm? (Char.ofNat n) == none ||
        plainForm? (Char.ofNat n) == some [' ']) = true := by
      decide +kernel
    have hc := List.all_eq_true.1 hall _ h
    rw [Char.ofNat_toNat] at hc
    simpa using hc
  · have hascii : isAscii c = false := by simp [isAscii, h, wideBlank]
    have hignored : Text.inRanges ignoredRanges wideBlank = false := by decide +kernel
    rw [plainForm?, hascii, h, hignored, replacement?_wideBlank]
    exact .inr rfl

/-! ## Names -/

/-- What stands in a name for a mark or a blank is one that joins nothing and is forbidden. -/
theorem plainForm?_of_cut (h : cutsAddress c = true ∨ Text.isBlank c = true) :
    plainForm? c = none ∨
      ∃ d, plainForm? c = some [d] ∧ isForbidden d = true ∧ Text.JoinsNothing d := by
  have hblank : cutsAddress ' ' = true := by decide
  have hkept : ∀ d, cutsAddress d = true → isForbidden d = true ∧ Text.JoinsNothing d := fun d hd =>
    ⟨(fixed_of_cutsAddress hd).2.2.2, joinsNothing_of_cutsAddress hd⟩
  have hcases : cutsAddress c = true ∨ c.toNat ∈ blankNumbers ∨ c.toNat = wideBlank :=
    h.elim .inl blank_cases
  rcases hcases with hcuts | hbeyond
  · have hascii : isAscii c = true := decide_eq_true (toNat_of_cutsAddress hcuts)
    refine .inr ⟨c, ?_, hkept c hcuts⟩
    rw [plainForm?, if_pos hascii, (fixed_of_cutsAddress hcuts).1]
  · exact (plainForm?_of_blank hbeyond).imp_right fun hform => ⟨' ', hform, hkept ' ' hblank⟩

/-- Every character of a name comes into its plain form, unless it is joined with others there. -/
theorem mem_of_plain? {cs name : List Char} (h : plain? cs = some name) (hc : c ∈ cs) {d : Char}
    (hform : plainForm? c = some [d]) (hd : Text.JoinsNothing d) : d ∈ name := by
  unfold plain? at h
  split at h
  · next hall =>
    obtain rfl := Option.some.inj h
    rw [plainForm?, if_pos (List.all_eq_true.1 hall c hc)] at hform
    exact List.mem_map.2 ⟨c, hc, List.head_eq_of_cons_eq (Option.some.inj hform)⟩
  · obtain ⟨forms, hforms, rfl⟩ := Option.map_eq_some_iff.1 h
    obtain ⟨form, hmem, hsame⟩ := exists_of_optionMapM_eq_some hforms hc
    rw [hform] at hsame
    obtain rfl := Option.some.inj hsame
    exact Text.mem_composed hd (List.mem_flatten.2 ⟨[d], hmem, List.mem_singleton_self d⟩)

theorem exists_plainForm? {cs name : List Char} (h : plain? cs = some name) (hc : c ∈ cs) :
    ∃ form, plainForm? c = some form := by
  unfold plain? at h
  split at h
  · next hall => exact ⟨_, if_pos (List.all_eq_true.1 hall c hc)⟩
  · obtain ⟨forms, hforms, -⟩ := Option.map_eq_some_iff.1 h
    obtain ⟨form, -, hform⟩ := exists_of_optionMapM_eq_some hforms hc
    exact ⟨form, hform⟩

/-- The written form of a name has no forbidden character. -/
theorem not_isForbidden_of_ofPlain? {name written : List Char} (h : ofPlain? name = some written) :
    ∀ d ∈ name, isForbidden d = false := by
  unfold ofPlain? at h
  split at h
  · cases h
  · split at h
    · next hgood =>
      simp only [Bool.and_eq_true, Bool.not_eq_true', List.any_eq_false] at hgood
      exact fun d hd => by simpa using hgood.2 d hd
    · cases h

/-- **A name has no mark that cuts an address and no blank.** -/
theorem notMem_of_ascii? {cs name : List Char} (h : ascii? cs = some name)
    (hc : cutsAddress c = true ∨ Text.isBlank c = true) : c ∉ cs := by
  intro hmem
  obtain ⟨plain, hplain, hwritten⟩ := Option.bind_eq_some_iff.1 h
  rcases plainForm?_of_cut hc with hnone | ⟨d, hform, hforbidden, hd⟩
  · obtain ⟨form, hform⟩ := exists_plainForm? hplain hmem
    rw [hnone] at hform
    cases hform
  · have hallowed := not_isForbidden_of_ofPlain? hwritten d (mem_of_plain? hplain hmem hform hd)
    rw [hforbidden] at hallowed
    cases hallowed

end HostName

/-! ## Pieces between brackets -/

namespace Host

/-- A character of eight pieces: a colon, a point or a hexadecimal digit. -/
def IsPieceChar (c : Char) : Prop := c = ':' ∨ c = '.' ∨ ∃ n, Document.hexValue? c = some n

variable {c : Char} {cs : List Char}

theorem hexValue?_of_isDigit (h : Decimal.isDigit c = true) :
    ∃ n, Document.hexValue? c = some n := by
  rw [Decimal.isDigit, Bool.and_eq_true, decide_eq_true_eq, decide_eq_true_eq] at h
  exact ⟨_, if_pos h⟩

theorem isPieceChar_of_piece? {n : Nat} (h : piece? cs = some n) (hc : c ∈ cs) :
    IsPieceChar c := by
  unfold piece? at h
  split at h
  · cases h
  · obtain ⟨digits, hdigits, -⟩ := Option.map_eq_some_iff.1 h
    obtain ⟨d, -, hd⟩ := exists_of_optionMapM_eq_some hdigits hc
    exact .inr (.inr ⟨d, hd⟩)

theorem isPieceChar_of_byte? {n : Nat} (h : byte? cs = some n) (hc : c ∈ cs) : IsPieceChar c := by
  unfold byte? at h
  split at h
  · cases h
  · have hread := (Option.filter_eq_some_iff.1 h).1
    unfold Decimal.readNat? at hread
    split at hread
    · cases hread
    · next hdigits =>
      simp only [Bool.or_eq_true, Bool.not_eq_true', not_or, Bool.not_eq_false] at hdigits
      exact .inr (.inr (hexValue?_of_isDigit (List.all_eq_true.1 hdigits.2 c hc)))

theorem isPieceChar_of_lastPieces? {ns : List Nat} (h : lastPieces? cs = some ns) (hc : c ∈ cs) :
    IsPieceChar c := by
  unfold lastPieces? at h
  split at h
  · next hbytes =>
    rcases Percent.mem_splitOn '.' hc with rfl | ⟨part, hpart, hc⟩
    · exact .inr (.inl rfl)
    · obtain ⟨n, -, hn⟩ := exists_of_optionMapM_eq_some hbytes hpart
      exact isPieceChar_of_byte? hn hc
  · cases h

theorem isPieceChar_of_pieces? {parts : List (List Char)} {ns : List Nat}
    (h : pieces? parts = some ns) : ∀ part ∈ parts, ∀ c ∈ part, IsPieceChar c := by
  induction parts using pieces?.induct generalizing ns with
  | case1 => exact List.forall_mem_nil _
  | case2 last hpoint =>
      rw [pieces?, if_pos hpoint] at h
      exact List.forall_mem_singleton.2 fun c hc => isPieceChar_of_lastPieces? h hc
  | case3 last hpoint =>
      rw [pieces?, if_neg hpoint] at h
      obtain ⟨n, hn, -⟩ := Option.map_eq_some_iff.1 h
      exact List.forall_mem_singleton.2 fun c hc => isPieceChar_of_piece? hn hc
  | case4 part rest hrest ih =>
      rw [pieces?] at h
      · obtain ⟨n, hn, h⟩ := Option.bind_eq_some_iff.1 h
        obtain ⟨ns, hns, -⟩ := Option.bind_eq_some_iff.1 h
        exact List.forall_mem_cons.2 ⟨fun c hc => isPieceChar_of_piece? hn hc, ih hns⟩
      · exact hrest

theorem isPieceChar_of_split {ns : List Nat} (h : pieces? (Percent.splitOn ':' cs) = some ns)
    (hc : c ∈ cs) : IsPieceChar c := by
  rcases Percent.mem_splitOn ':' hc with rfl | ⟨part, hpart, hc⟩
  · exact .inl rfl
  · exact isPieceChar_of_pieces? h part hpart c hc

theorem isPieceChar_of_side? {ns : List Nat} (h : side? cs = some ns) (hc : c ∈ cs) :
    IsPieceChar c := by
  unfold side? at h
  split at h
  · next hempty =>
    rw [List.isEmpty_iff.1 hempty] at hc
    cases hc
  · exact isPieceChar_of_split h hc

theorem splitGap?_eq_some {before after : List Char} (h : splitGap? cs = some (before, after)) :
    cs = before ++ ':' :: ':' :: after := by
  induction cs using splitGap?.induct generalizing before with
  | case1 => cases h
  | case2 rest =>
      cases h
      rfl
  | case3 c rest hrest ih =>
      rw [splitGap?] at h
      · obtain ⟨⟨before', after'⟩, hgap, heq⟩ := Option.map_eq_some_iff.1 h
        cases heq
        rw [ih hgap]
        rfl
      · exact hrest

/-- **Eight pieces** are written with digits, colons and points. -/
theorem isPieceChar_of_ipv6? {ns : List Nat} (h : ipv6? cs = some ns) (hc : c ∈ cs) :
    IsPieceChar c := by
  unfold ipv6? at h
  split at h
  · exact isPieceChar_of_split (Option.filter_eq_some_iff.1 h).1 hc
  · next before after hgap =>
    rw [splitGap?_eq_some hgap] at hc
    split at h
    · cases h
    · split at h
      · next hbefore hafter =>
        simp only [List.mem_append, List.mem_cons] at hc
        rcases hc with hc | rfl | rfl | hc
        · exact isPieceChar_of_side? hbefore hc
        · exact .inl rfl
        · exact .inl rfl
        · exact isPieceChar_of_side? hafter hc
      · cases h

/-- Eight pieces between brackets. -/
def Bracketed (cs : List Char) : Prop :=
  ∃ inner ns, cs = '[' :: (inner ++ [']']) ∧ ipv6? inner = some ns

/-- No mark that cuts an address stands in it, and no blank. -/
def Uncut (cs : List Char) : Prop :=
  ∀ c ∈ cs, HostName.cutsAddress c = false ∧ Text.isBlank c = false

/-- A character that no percent sign and no digit is made of. -/
theorem plain_of_cut (h : HostName.cutsAddress c = true ∨ Text.isBlank c = true) :
    c ≠ '%' ∧ Document.hexValue? c = none := by
  rcases h.elim .inl HostName.blank_cases with hcuts | hbeyond
  · obtain ⟨-, hhex, hpercent, -⟩ := HostName.fixed_of_cutsAddress hcuts
    exact ⟨hpercent, hhex⟩
  · have hhigh : 0x80 ≤ c.toNat := by
      simp only [HostName.blankNumbers, HostName.wideBlank, List.mem_append, List.mem_cons,
        List.not_mem_nil, or_false, List.mem_range'_1] at hbeyond
      omega
    have hgreater : ∀ d : Char, d.toNat < 0x80 → ¬ c ≤ d := by
      intro d hd hle
      have hle : c.toNat ≤ d.toNat := hle
      omega
    refine ⟨?_, ?_⟩
    · rintro rfl
      exact absurd hhigh (by decide)
    · simp [Document.hexValue?, hgreater]

/-- **A text that is read as a host** is eight pieces between brackets, or has no mark that cuts an
address and no blank. -/
theorem parse_eq_ok_cases {host : Host} (h : parse cs = .ok host) : Bracketed cs ∨ Uncut cs := by
  unfold parse at h
  split at h
  · next rest =>
    split at h
    · next hlast =>
      split at h
      · next ns hpieces =>
        refine .inl ⟨rest.dropLast, ns, ?_, hpieces⟩
        rw [List.dropLast_append_getLast? _ hlast]
      · cases h
    · cases h
  · split at h
    · cases h
    · next name hname =>
      obtain ⟨chars, hdecode, hascii⟩ := Option.bind_eq_some_iff.1 hname
      refine .inr fun c hc => ?_
      by_contra hcut
      have hcut : HostName.cutsAddress c = true ∨ Text.isBlank c = true := by
        rw [not_and_or, Bool.not_eq_false, Bool.not_eq_false] at hcut
        exact hcut
      obtain ⟨hpercent, hhex⟩ := plain_of_cut hcut
      obtain ⟨before, after, rfl⟩ := List.append_of_mem hc
      obtain ⟨front, back, hbytes⟩ := Percent.decode_split hpercent hhex before after
      rw [hbytes] at hdecode
      exact HostName.notMem_of_ascii? hascii hcut (Utf8.mem_of_decode? hdecode)

/-- A mark that cuts an address stands in no host, but for the colons and brackets of pieces. -/
theorem char_cases {host : Host} (h : parse cs = .ok host) (hc : c ∈ cs) :
    (c = ':' ∨ c = '[' ∨ c = ']') ∨
      HostName.cutsAddress c = false ∧ Text.isBlank c = false := by
  rcases parse_eq_ok_cases h with ⟨inner, ns, rfl, hpieces⟩ | huncut
  · simp only [List.mem_cons, List.mem_append, List.not_mem_nil, or_false] at hc
    rcases hc with rfl | hc | rfl
    · exact .inl (.inr (.inl rfl))
    · by_contra hcut
      rw [not_or, not_and_or, Bool.not_eq_false, Bool.not_eq_false] at hcut
      have hhex := (plain_of_cut hcut.2).2
      rcases isPieceChar_of_ipv6? hpieces hc with rfl | rfl | ⟨n, hn⟩
      · exact hcut.1 (.inl rfl)
      · exact absurd hcut.2 (by decide)
      · rw [hhex] at hn
        cases hn
    · exact .inl (.inr (.inr rfl))
  · exact .inr (huncut c hc)

theorem bracketed_of_mem {host : Host} (h : parse cs = .ok host)
    (hmem : ':' ∈ cs ∨ '[' ∈ cs ∨ ']' ∈ cs) : Bracketed cs := by
  refine (parse_eq_ok_cases h).resolve_right fun huncut => ?_
  rcases hmem with hmem | hmem | hmem
  · exact absurd (huncut _ hmem).1 (by decide)
  · exact absurd (huncut _ hmem).1 (by decide)
  · exact absurd (huncut _ hmem).1 (by decide)

end Host

/-! ## Addresses -/

namespace Url

variable {host : List Char} {h : Host} {n : Nat}

theorem splitHost_inside {inner : List Char} (hinner : ∀ c ∈ inner, c ≠ '[' ∧ c ≠ ']')
    (rest : List Char) :
    splitHost true (inner ++ ']' :: ':' :: rest) = (inner ++ [']'], ':' :: rest) := by
  induction inner with
  | nil => simp [splitHost]
  | cons c inner ih =>
      obtain ⟨⟨hopen, hclose⟩, hrest⟩ := List.forall_mem_cons.1 hinner
      rw [List.cons_append, splitHost]
      simp [hopen, hclose, ih hrest]

/-- **The host is cut off** where it ends, at the colon before the port. -/
theorem splitHost_of_host (hparse : Host.parse host = .ok h) (rest : List Char) :
    splitHost false (host ++ ':' :: rest) = (host, ':' :: rest) := by
  rcases Host.parse_eq_ok_cases hparse with ⟨inner, ns, rfl, hpieces⟩ | huncut
  · have hinner : ∀ c ∈ inner, c ≠ '[' ∧ c ≠ ']' := by
      intro c hc
      rcases Host.isPieceChar_of_ipv6? hpieces hc with rfl | rfl | ⟨n, hn⟩
      · decide
      · decide
      · constructor
        · rintro rfl
          cases hn
        · rintro rfl
          cases hn
    have hcut := splitHost_inside hinner rest
    rw [List.cons_append, List.append_assoc, splitHost]
    simp [hcut]
  · refine splitHost_append fun c hc => ?_
    have hne : ∀ d, HostName.cutsAddress d = true → c ≠ d := by
      rintro d hd rfl
      rw [(huncut c hc).1] at hd
      cases hd
    exact ⟨hne _ (by decide), hne _ (by decide), hne _ (by decide)⟩

/-- Nothing in a host ends the authority or is taken away before it is cut. -/
theorem uncut_of_host (hparse : Host.parse host = .ok h) {c : Char} (hc : c ∈ host) :
    0x20 < c.toNat ∧ c ≠ '@' ∧ endsAuthority c = false ∧ Text.isBlank c = false := by
  rcases Host.char_cases hparse hc with (rfl | rfl | rfl) | ⟨huncut, hblank⟩
  · decide
  · decide
  · decide
  · have hne : ∀ d, HostName.cutsAddress d = true → c ≠ d := by
      rintro d hd rfl
      rw [huncut] at hd
      cases hd
    have hhigh : 0x20 < c.toNat := by
      simp only [HostName.cutsAddress, Bool.or_eq_false_iff, decide_eq_false_iff_not] at huncut
      omega
    refine ⟨hhigh, hne _ (by decide), ?_, hblank⟩
    simp [endsAuthority, isSlash, hne '/' (by decide), hne '\\' (by decide), hne '?' (by decide),
      hne '#' (by decide)]

theorem ne_nil_of_host (hparse : Host.parse host = .ok h) : host ≠ [] := by
  rintro rfl
  cases hparse

/-- Nothing in a host and a port ends the authority or is taken away before it is cut. -/
theorem uncut_authority (hparse : Host.parse host = .ok h) :
    ∀ c ∈ host ++ ':' :: Decimal.natDigits n,
      0x20 < c.toNat ∧ c ≠ '@' ∧ endsAuthority c = false := by
  refine List.forall_mem_append.2
    ⟨fun c hc => ?host, List.forall_mem_cons.2 ⟨by decide, fun c hc => ?port⟩⟩
  case host =>
    obtain ⟨hhigh, huser, hends, -⟩ := uncut_of_host hparse hc
    exact ⟨hhigh, huser, hends⟩
  case port =>
    have hdigit := Decimal.isLetterOrDigit_of_mem_natDigits hc
    have hself := standsForItself_of_isLetterOrDigit hdigit
    refine ⟨(toNat_of_keptInPath (keptInPath_of_standsForItself hself)).1, ?_,
      endsAuthority_of_standsForItself hself⟩
    rintro rfl
    exact absurd hdigit (by decide)

theorem afterSlashes_origin (hparse : Host.parse host = .ok h) (hn : n ≤ 65535) :
    afterSlashes "http" (host ++ ':' :: Decimal.natDigits n) =
      .ok ⟨"http", "", "", some h, if n = 80 then none else some n, [""], none, none⟩ := by
  have hall := uncut_authority (n := n) hparse
  have htake : (host ++ ':' :: Decimal.natDigits n).takeWhile (fun c => !endsAuthority c) =
      host ++ ':' :: Decimal.natDigits n :=
    List.takeWhile_eq_self_iff.2 fun c hc => by rw [(hall c hc).2.2]; rfl
  have hdrop : (host ++ ':' :: Decimal.natDigits n).dropWhile (fun c => !endsAuthority c) = [] :=
    List.dropWhile_eq_nil_iff.2 fun c hc => by rw [(hall c hc).2.2]; rfl
  have huser : '@' ∉ host ++ ':' :: Decimal.natDigits n := fun hmem => (hall '@' hmem).2.1 rfl
  have hempty : ¬ host.isEmpty = true := by simpa using ne_nil_of_host hparse
  unfold afterSlashes
  rw [htake, hdrop]
  dsimp only
  rw [splitUser_of_notMem huser]
  dsimp only
  rw [splitHost_of_host hparse]
  dsimp only
  rw [if_neg hempty, hparse, readPort_of_le hn]
  rfl

/-- **A host and a port** are read as they were put together. -/
theorem parse_origin (hparse : Host.parse host = .ok h) (hn : n ≤ 65535) {s : String}
    (hs : s.toList = ['h', 't', 't', 'p', ':', '/', '/'] ++ (host ++ ':' :: Decimal.natDigits n)) :
    parse s = .ok ⟨"http", "", "", some h, if n = 80 then none else some n, [""], none, none⟩ := by
  have hall := uncut_authority (n := n) hparse
  have hclean : clean s.toList = s.toList := by
    refine clean_of_printed ?_
    rw [hs]
    exact List.forall_mem_append.2 ⟨by simp, fun c hc => (hall c hc).1⟩
  have hscheme : splitScheme? (['h', 't', 't', 'p', ':', '/', '/'] ++
      (host ++ ':' :: Decimal.natDigits n)) =
        some (['h', 't', 't', 'p'], ['/', '/'] ++ (host ++ ':' :: Decimal.natDigits n)) := rfl
  have hslashes : (['/', '/'] ++ (host ++ ':' :: Decimal.natDigits n)).dropWhile isSlash =
      host ++ ':' :: Decimal.natDigits n := by
    obtain ⟨c, rest, rfl⟩ := List.exists_cons_of_ne_nil (ne_nil_of_host hparse)
    have hslash := isSlash_of_endsAuthority (hall c List.mem_cons_self).2.2
    have hskip : ∀ cs, (['/', '/'] ++ cs).dropWhile isSlash = cs.dropWhile isSlash := fun _ => rfl
    rw [hskip, List.cons_append, List.dropWhile_cons_of_neg (by simp [hslash])]
  unfold parse parseChars
  rw [hclean, hs, hscheme]
  dsimp only
  unfold afterScheme
  rw [if_pos (by decide), hslashes]
  exact afterSlashes_origin hparse hn

end Url

end StoreGate
