import StoreGate.Proofs.Text.Trim
import StoreGate.Proofs.Url.Counterpart
import StoreGate.Proofs.Url.Path

/-!
# Addresses that a path is pasted to

A path is put behind the address of a server as it stands, and then the whole is read as an address.
Marks in the path cut it, tabs and line ends in it are passed over, and blanks behind it go. What is
left of it does not depend on the address of the server.

* `Url.settled`, `Url.leadsTo` — what is left of a path that is pasted to an address.
* `Url.IsRoot` — an address behind which paths begin at the root.
* `Url.IsRoot.exists_parse` — every path behind such an address.
* `Url.IsKept`, `Url.leadsTo_of_isKept` — the paths of which nothing is lost.
* `Url.sum_cost_leadsTo_le` — of every other path fewer characters are left.
* `Url.IsSegment`, `Url.isKept_iff` — what paths of which nothing is lost are put together from.
* `Url.isSegment_of_forall₂` — segments that come through come of such a path.
-/

namespace StoreGate

namespace Url

/-! ## Cleaning -/

/-- What is left of the end of an address. -/
def settled (cs : List Char) : List Char :=
  (cs.rdropWhile fun c => decide (c.toNat ≤ 0x20)).filter fun c =>
    !(c == '\t' || c == '\n' || c == '\r')

/-- The end of an address is cleaned by itself. -/
theorem clean_append_slash (front : List Char) :
    ∃ start, ∀ rest, clean (front ++ '/' :: rest) = start ++ '/' :: settled rest := by
  refine ⟨(front.dropWhile fun c => decide (c.toNat ≤ 0x20)).filter fun c =>
    !(c == '\t' || c == '\n' || c == '\r'), fun rest => ?_⟩
  have hstart := (cut_marked (p := fun c => decide (c.toNat ≤ 0x20)) (c := '/') (by decide) front
    rest).2
  have hend := Text.rdropWhile_append_cons (p := fun c => decide (c.toNat ≤ 0x20)) (d := '/')
    (by decide) (front.dropWhile fun c => decide (c.toNat ≤ 0x20)) rest
  rw [List.rdropWhile] at hend
  rw [clean, hstart, hend, List.filter_append, List.filter_cons_of_pos (by decide)]
  rfl

theorem settled_sublist (cs : List Char) : (settled cs).Sublist cs :=
  List.filter_sublist.trans (List.rdropWhile_prefix _ _).sublist

/-- Whether there is a scheme is told before the first slash. -/
theorem splitScheme?_append_slash (front : List Char) :
    (∀ rest, splitScheme? (front ++ '/' :: rest) = none) ∨
      ∃ scheme after, ∀ rest, splitScheme? (front ++ '/' :: rest) =
        some (scheme, after ++ '/' :: rest) := by
  have hcut := fun rest => cut_marked (p := isSchemeChar) (c := '/') (by decide) front rest
  unfold splitScheme?
  simp only [(hcut _).1, (hcut _).2]
  cases front.takeWhile isSchemeChar with
  | nil => exact .inl fun _ => rfl
  | cons c scheme =>
    cases front.dropWhile isSchemeChar with
    | nil => exact .inl fun _ => rfl
    | cons d after =>
      by_cases hd : d = ':'
      · subst hd
        by_cases hc : c.isAlpha = true
        · exact .inr ⟨_, after, fun _ => if_pos hc⟩
        · exact .inl fun _ => if_neg hc
      · refine .inl fun rest => ?_
        simp [hd]

/-! ## Marks -/

theorem splitMark_append_left {mark : Char} {front : List Char} (h : mark ∉ front)
    (rest : List Char) : splitMark mark (front ++ rest) =
      (front ++ (splitMark mark rest).1, (splitMark mark rest).2) := by
  have hne : ∀ c ∈ front, (c != mark) = true := fun c hc =>
    bne_iff_ne.2 fun heq => h (heq ▸ hc)
  unfold splitMark
  rw [List.dropWhile_append_of_pos hne, List.takeWhile_append_of_pos hne]
  split <;> rfl

/-- What stands before the first mark is all of a text exactly if there is none. -/
theorem splitMark_cases (mark : Char) (cs : List Char) :
    (mark ∉ cs ∧ splitMark mark cs = (cs, none)) ∨
      ∃ before after, cs = before ++ mark :: after ∧ splitMark mark cs = (before, some after) := by
  by_cases h : mark ∈ cs
  · obtain ⟨before, after, rfl, hbefore⟩ := List.eq_append_cons_of_mem h
    exact .inr ⟨before, after, rfl, splitMark_append hbefore⟩
  · exact .inl ⟨h, splitMark_of_notMem h⟩

/-- **A path is cut at its marks**, or there are none. -/
theorem splitTail_cases (cs : List Char) :
    ('?' ∉ cs ∧ '#' ∉ cs ∧ splitTail cs = ⟨cs, none, none⟩) ∨
      ((splitTail cs).path.length < cs.length ∧
        ((splitTail cs).query = none → (splitTail cs).fragment ≠ none)) := by
  unfold splitTail
  rcases splitMark_cases '#' cs with ⟨hnumber, h⟩ | ⟨before, after, rfl, h⟩
  · rw [h]
    dsimp only
    rcases splitMark_cases '?' cs with ⟨hquestion, h'⟩ | ⟨before', after', rfl, h'⟩
    · rw [h']
      exact .inl ⟨hquestion, hnumber, rfl⟩
    · rw [h']
      exact .inr ⟨by simp, fun hquery => by cases hquery⟩
  · rw [h]
    dsimp only
    rcases splitMark_cases '?' before with ⟨-, h'⟩ | ⟨before', after', rfl, h'⟩
    · rw [h']
      exact .inr ⟨by simp, fun _ hfragment => by cases hfragment⟩
    · rw [h']
      exact .inr ⟨by simp, fun hquery => by cases hquery⟩

/-- What stands before a path without marks is cut off with it. -/
theorem splitTail_append_left {front : List Char} (hquestion : '?' ∉ front) (hnumber : '#' ∉ front)
    (rest : List Char) : splitTail (front ++ rest) =
      { splitTail rest with path := front ++ (splitTail rest).path } := by
  unfold splitTail
  rw [splitMark_append_left hnumber]
  dsimp only
  rw [splitMark_append_left hquestion]

/-- Path and query are cut at the first mark, if the segments hold none. -/
theorem path_splitTail_slashed {segments : List String}
    (h : ∀ s ∈ segments, ∀ c ∈ s.toList, endsAuthority c = false) (query : Option String) :
    (splitTail (slashed segments ++ marked query)).path = slashed segments := by
  have hmark : ∀ mark, endsAuthority mark = true → mark ≠ '/' → mark ∉ slashed segments := by
    intro mark hends hslash hmem
    obtain ⟨s, hs, hc⟩ := List.mem_flatMap.1 hmem
    rcases List.mem_cons.1 hc with hc | hc
    · exact hslash hc
    · rw [h s hs mark hc] at hends
      cases hends
  have hempty : (splitTail (marked query)).path = [] := by
    cases query with
    | none => rfl
    | some q =>
      have hmarked : ∀ rest, splitMark '?' ('?' :: rest) = ([], some rest) := fun rest =>
        splitMark_append (List.not_mem_nil : '?' ∉ ([] : List Char))
      unfold splitTail
      rcases splitMark_cases '#' (marked (some q)) with ⟨-, hcut⟩ | ⟨before, after, heq, hcut⟩
      · rw [hcut, marked]
        dsimp only
        rw [hmarked]
      · rw [hcut]
        cases before with
        | nil => exact absurd (List.cons.inj heq).1 (by decide)
        | cons c before =>
          obtain ⟨rfl, -⟩ := List.cons.inj heq
          dsimp only
          rw [hmarked]
  rw [splitTail_append_left (hmark '?' (by decide) (by decide)) (hmark '#' (by decide) (by decide)),
    hempty, List.append_nil]

/-! ## Addresses -/

/-- Where a path leads from the root. -/
def leadsTo (cs : List Char) : List String := resolve [] (splitPath (splitTail (settled cs)).path)

/-- The address of a server: it is read as one of the web, and nothing follows its authority. -/
def IsRoot (front : String) : Prop :=
  ∃ u, parse (front ++ "/") = .ok u ∧ u.host.isSome = true ∧ u.path = [""] ∧ u.query = none ∧
    u.fragment = none

/-- The authority is read without regard to the path, if there is one. -/
theorem exists_site {front : List Char} {u : Url} (h : parseChars (front ++ ['/']) = .ok u)
    (hhost : u.host.isSome = true) :
    ∃ (site : Url) (after : List Char), site.host.isSome = true ∧
      (∀ c ∈ after.head?, endsAuthority c = true) ∧
      ∀ rest, parseChars (front ++ '/' :: rest) =
        .ok (site.withTail (splitTail (after ++ '/' :: settled rest))) := by
  obtain ⟨start, hclean⟩ := clean_append_slash front
  have hread : parseChars (front ++ '/' :: []) = .ok u := h
  unfold parseChars at hread ⊢
  rcases splitScheme?_append_slash start with hnone | ⟨scheme, after, hscheme⟩
  · rw [hclean, hnone] at hread
    cases hread
  simp only [hclean, hscheme, afterScheme] at hread ⊢
  split at hread
  case isFalse =>
    obtain rfl := Except.ok.inj hread
    cases hhost
  case isTrue hweb =>
  -- more than slashes stand behind the scheme: an authority
  have hsite : after.dropWhile isSlash ≠ [] := by
    intro hnil
    have hslash : isSlash '/' = true := by decide
    rw [List.dropWhile_append, hnil, settled] at hread
    simp [hslash, afterSlashes, splitUser, splitHost] at hread
  have hskip : ∀ rest, (after ++ '/' :: rest).dropWhile isSlash =
      after.dropWhile isSlash ++ '/' :: rest := by
    intro rest
    rw [List.dropWhile_append, if_neg (by simpa using hsite)]
  have hcut := fun rest => cut_marked (p := fun c => !endsAuthority c) (c := '/') (by decide)
    (after.dropWhile isSlash) rest
  rw [hskip, afterSlashes_eq_map, (hcut _).1, (hcut _).2] at hread
  obtain ⟨site, hauthority, rfl⟩ := exceptMap_eq_ok.1 hread
  refine ⟨site, (after.dropWhile isSlash).dropWhile fun c => !endsAuthority c, hhost, ?_, ?_⟩
  · intro c hc
    have hnot := List.head?_dropWhile_not (fun c => !endsAuthority c) (after.dropWhile isSlash)
    rw [Option.mem_def.1 hc] at hnot
    simpa using hnot
  · intro rest
    rw [if_pos hweb, hskip, afterSlashes_eq_map, (hcut _).1, (hcut _).2, hauthority]
    rfl

/-- What stands behind an authority and leads to the root makes no difference to a path. -/
theorem rootPath_append {after : List Char} (hslash : ∀ c ∈ after.head?, isSlash c = true)
    (hroot : rootPath (after ++ ['/']) = [""]) (rest : List Char) :
    rootPath (after ++ '/' :: rest) = resolve [] (splitPath rest) := by
  cases after with
  | nil => rfl
  | cons c after =>
    have hc : isSlash c = true := hslash c rfl
    have hpath : ∀ rest, rootPath (c :: after ++ '/' :: rest) =
        resolve ((splitPath after).foldl climb []) (splitPath rest) := by
      intro rest
      rw [List.cons_append, rootPath, if_pos hc, splitPath_append (by decide),
        resolve_append (splitPath_ne_nil rest)]
    have hlast : (splitPath after).foldl climb [] ++ [""] = [""] := (hpath []).symm.trans hroot
    have hnil : (splitPath after).foldl climb [] = [] :=
      List.append_cancel_right (hlast.trans (List.nil_append [""]).symm)
    rw [hpath, hnil]

/-- **Every path behind the address of a server** begins at the root. -/
theorem IsRoot.exists_parse {front : String} (h : IsRoot front) :
    ∃ site : Url, site.host.isSome = true ∧ ∀ (s : String) (rest : List Char),
      s.toList = front.toList ++ '/' :: rest → parse s = .ok { site with
        path := leadsTo rest
        query := (splitTail (settled rest)).query.map encodeQuery
        fragment := (splitTail (settled rest)).fragment.map encodeFragment } := by
  obtain ⟨u, hu, hhost, hpath, hquery, hfragment⟩ := h
  have hread : parseChars (front.toList ++ ['/']) = .ok u := by
    rw [← hu, parse, String.toList_append]
    rfl
  obtain ⟨site, after, hsite, hafter, hparse⟩ := exists_site hread hhost
  obtain rfl : site.withTail (splitTail (after ++ ['/'])) = u :=
    Except.ok.inj ((hparse []).symm.trans hread)
  rcases splitTail_cases (after ++ ['/']) with ⟨hquestion, hnumber, htail⟩ | ⟨-, hmarked⟩
  · have hroot : rootPath (after ++ ['/']) = [""] := by
      rw [htail] at hpath
      exact hpath
    have hslash : ∀ c ∈ after.head?, isSlash c = true := by
      intro c hc
      have hmem : c ∈ after ++ ['/'] := List.mem_append_left _ (List.mem_of_mem_head? hc)
      have hends := hafter c hc
      simp only [endsAuthority, Bool.or_eq_true, beq_iff_eq] at hends
      rcases hends with (hends | rfl) | rfl
      · exact hends
      · exact absurd hmem hquestion
      · exact absurd hmem hnumber
    refine ⟨site, hsite, fun s rest hs => ?_⟩
    rw [parse, hs, hparse, List.append_cons, splitTail_append_left hquestion hnumber, withTail,
      ← List.append_cons, rootPath_append hslash hroot]
    rfl
  · exact absurd (Option.map_eq_none_iff.1 hfragment) (hmarked (Option.map_eq_none_iff.1 hquery))

/-! ## What is left -/

/-- Nothing is lost of a path. -/
structure IsKept (cs : List Char) : Prop where
  settled : settled cs = cs
  question : '?' ∉ cs
  number : '#' ∉ cs
  whole : ∀ part ∈ splitPath cs, IsWhole part

theorem leadsTo_of_isKept {cs : List Char} (h : IsKept cs) :
    leadsTo cs = (splitPath cs).map encodeSegment := by
  have htail : splitTail cs = ⟨cs, none, none⟩ := by
    rw [splitTail, splitMark_of_notMem h.number]
    dsimp only
    rw [splitMark_of_notMem h.question]
  rw [leadsTo, h.settled, htail]
  exact resolve_of_not_dots (fun part hpart => (h.whole part hpart).not_dots) []

/-- **No more characters are left of a path than it has**, and as many only if nothing is lost. -/
theorem sum_cost_leadsTo_le (cs : List Char) :
    ((leadsTo cs).map cost).sum ≤ cs.length + 1 ∧
      (((leadsTo cs).map cost).sum = cs.length + 1 → IsKept cs) := by
  have hsettled := (settled_sublist cs).length_le
  obtain ⟨hle, hwhole⟩ := sum_cost_resolve_le [] (splitPath (splitTail (settled cs)).path)
  rw [(splitPath_parts _).2.1, List.map_nil, List.sum_nil, Nat.zero_add, ← leadsTo] at hle hwhole
  rcases splitTail_cases (settled cs) with ⟨hquestion, hnumber, htail⟩ | ⟨hshort, -⟩
  · rw [htail] at hle hwhole
    dsimp only at hle hwhole
    refine ⟨by omega, fun heq => ?_⟩
    have hall : settled cs = cs := (settled_sublist cs).eq_of_length (by omega)
    rw [hall] at hquestion hnumber hwhole
    exact ⟨hall, hquestion, hnumber, hwhole heq⟩
  · exact ⟨by omega, by omega⟩

/-! ## Marks of what is left -/

theorem leadsTo_ne_nil (cs : List Char) : leadsTo cs ≠ [] := resolve_ne_nil (splitPath_ne_nil _) []

/-- **What is left of a path holds no mark.** -/
theorem endsAuthority_of_mem_leadsTo {cs : List Char} :
    ∀ s ∈ leadsTo cs, ∀ c ∈ s.toList, endsAuthority c = false := by
  refine forall_mem_resolve (List.forall_mem_nil _) (by simp) fun part hpart c hc => ?_
  rw [encodeSegment, String.toList_ofList] at hc
  rcases Percent.mem_encode hc with ⟨hmem, hkept⟩ | rfl | ⟨n, hn, rfl⟩
  · have hslash := (splitPath_parts _).2.2 part hpart c hmem
    have hquestion : c ≠ '?' := by
      rintro rfl
      exact absurd hkept (by decide)
    have hnumber : c ≠ '#' := by
      rintro rfl
      exact absurd hkept (by decide)
    simp [endsAuthority, hslash, hquestion, hnumber]
  · decide
  · have hall : ∀ m < 16, endsAuthority (Percent.hexDigit m) = false := by decide
    exact hall n hn

/-! ## Segments -/

/-- What cuts a path, or is passed over in it. -/
def cutsPath (c : Char) : Bool := endsAuthority c || c == '\t' || c == '\n' || c == '\r'

/-- A segment that stays what it is wherever it is pasted: nothing in it cuts the path, it does not
lead elsewhere, and it is read as it is written. -/
structure IsSegment (s : String) : Prop where
  uncut : ∀ c ∈ s.toList, cutsPath c = false
  not_dots : s ≠ "." ∧ s ≠ ".."
  unescaped : Percent.IsUnescaped s.toList

theorem cutsPath_eq_false {c : Char} : cutsPath c = false ↔
    isSlash c = false ∧ (c ≠ '?' ∧ c ≠ '#') ∧ c ≠ '\t' ∧ c ≠ '\n' ∧ c ≠ '\r' := by
  simp [cutsPath, endsAuthority, and_assoc]

theorem settled_eq_iff {cs : List Char} : settled cs = cs ↔
    (∀ c ∈ cs, c ≠ '\t' ∧ c ≠ '\n' ∧ c ≠ '\r') ∧ ∀ c ∈ cs.getLast?, 0x20 < c.toNat := by
  have hpassed : ∀ c : Char, (!(c == '\t' || c == '\n' || c == '\r')) = true ↔
      c ≠ '\t' ∧ c ≠ '\n' ∧ c ≠ '\r' := by
    intro c
    simp [and_assoc]
  have hend : cs.rdropWhile (fun c => decide (c.toNat ≤ 0x20)) = cs ↔
      ∀ c ∈ cs.getLast?, 0x20 < c.toNat := by
    rw [Text.rdropWhile_eq_self_iff]
    simp
  constructor
  · intro h
    have hkept : (settled cs).Sublist (cs.rdropWhile fun c => decide (c.toNat ≤ 0x20)) :=
      List.filter_sublist
    have hwhole : cs.rdropWhile (fun c => decide (c.toNat ≤ 0x20)) = cs :=
      (List.rdropWhile_prefix _ cs).eq_of_length_le (h ▸ hkept).length_le
    rw [settled, hwhole, List.filter_eq_self] at h
    exact ⟨fun c hc => (hpassed c).1 (h c hc), hend.1 hwhole⟩
  · rintro ⟨hnone, hlast⟩
    rw [settled, hend.2 hlast, List.filter_eq_self]
    exact fun c hc => (hpassed c).2 (hnone c hc)

theorem toNat_of_wordy {cs : List Char} (h : Wordy cs) : ∀ c ∈ cs, 0x20 < c.toNat := fun c hc =>
  (toNat_of_keptInPath (keptInPath_of_standsForItself (h c hc))).1

/-- **A word is a segment.** -/
theorem isSegment_of_wordy {s : String} (h : Wordy s.toList) : IsSegment s where
  uncut c hc := by
    have hends := endsAuthority_of_standsForItself (h c hc)
    have hne : ∀ d, standsForItself d = false → c ≠ d := fun d hd =>
      ne_of_standsForItself (h c hc) hd
    simp [cutsPath, hends, hne '\t' (by decide), hne '\n' (by decide), hne '\r' (by decide)]
  not_dots := by
    constructor
    · rintro rfl
      exact absurd h (by decide)
    · rintro rfl
      exact absurd h (by decide)
  unescaped := Percent.isUnescaped_of_notMem fun hmem =>
    ne_of_standsForItself (h _ hmem) (by decide) rfl

theorem IsSegment.isWhole {s : String} (h : IsSegment s) : IsWhole s.toList where
  not_dots hdots := by
    rcases (isDots_iff h.unescaped).1 hdots with heq | heq
    · exact h.not_dots.1 (String.toList_inj.1 heq)
    · exact h.not_dots.2 (String.toList_inj.1 heq)
  unescaped := h.unescaped

section Pasted

variable {s : String} {rest : List String}

/-- A character of a path that is pasted is a slash before a segment, or it is in a segment. -/
theorem forall_mem_pasted {P : Char → Prop} (hslash : P '/') :
    (∀ c ∈ s.toList ++ slashed rest, P c) ↔ ∀ s' ∈ s :: rest, ∀ c ∈ s'.toList, P c := by
  rw [List.forall_mem_append, List.forall_mem_cons, slashed, List.forall_mem_flatMap]
  simp [hslash]

/-- **Nothing is lost of a path** exactly if it is put together from segments, and ends visibly. -/
theorem isKept_iff (hslash : ∀ s' ∈ s :: rest, ∀ c ∈ s'.toList, isSlash c = false) :
    IsKept (s.toList ++ slashed rest) ↔ (∀ s' ∈ s :: rest, IsSegment s') ∧
      ∀ c ∈ (s.toList ++ slashed rest).getLast?, 0x20 < c.toNat := by
  have hmarks := @forall_mem_pasted s rest
    (fun c => (c ≠ '?' ∧ c ≠ '#') ∧ c ≠ '\t' ∧ c ≠ '\n' ∧ c ≠ '\r') (by decide)
  have hparts := splitPath_slashed hslash
  constructor
  · intro h
    obtain ⟨hpassed, hlast⟩ := settled_eq_iff.1 h.settled
    have huncut := hmarks.1 fun c hc => ⟨⟨fun heq => h.question (heq ▸ hc),
      fun heq => h.number (heq ▸ hc)⟩, hpassed c hc⟩
    have hwhole : ∀ s' ∈ s :: rest, IsWhole s'.toList := fun s' hs' =>
      h.whole _ (hparts ▸ List.mem_map_of_mem hs')
    refine ⟨fun s' hs' => ⟨?_, ⟨?_, ?_⟩, (hwhole s' hs').unescaped⟩, hlast⟩
    · exact fun c hc => cutsPath_eq_false.2 ⟨hslash s' hs' c hc, huncut s' hs' c hc⟩
    · rintro rfl
      exact (hwhole _ hs').not_dots (.inl rfl)
    · rintro rfl
      exact (hwhole _ hs').not_dots (.inr rfl)
  · rintro ⟨hsegments, hlast⟩
    have huncut := hmarks.2 fun s' hs' c hc =>
      (cutsPath_eq_false.1 ((hsegments s' hs').uncut c hc)).2
    refine ⟨settled_eq_iff.2 ⟨fun c hc => (huncut c hc).2, hlast⟩,
      fun hmem => (huncut _ hmem).1.1 rfl, fun hmem => (huncut _ hmem).1.2 rfl, ?_⟩
    intro part hpart
    rw [hparts] at hpart
    obtain ⟨s', hs', rfl⟩ := List.mem_map.1 hpart
    exact (hsegments s' hs').isWhole

/-- Segments lead where they are pasted. -/
theorem leadsTo_of_isSegment (h : ∀ s' ∈ s :: rest, IsSegment s')
    (hlast : ∀ c ∈ (s.toList ++ slashed rest).getLast?, 0x20 < c.toNat) :
    leadsTo (s.toList ++ slashed rest) = (s :: rest).map fun s' => encodeSegment s'.toList := by
  have hslash : ∀ s' ∈ s :: rest, ∀ c ∈ s'.toList, isSlash c = false := fun s' hs' c hc =>
    (cutsPath_eq_false.1 ((h s' hs').uncut c hc)).1
  rw [leadsTo_of_isKept ((isKept_iff hslash).2 ⟨h, hlast⟩), splitPath_slashed hslash,
    List.map_map]
  rfl

/-- A path ends as its last segment does. -/
theorem getLast?_pasted (s : String) (rest : List String) {last : String} (h : last ≠ "") :
    (s.toList ++ slashed (rest ++ [last])).getLast? = last.toList.getLast? := by
  have hne : last.toList ≠ [] := fun hnil => h (String.toList_inj.1 hnil)
  have hend : s.toList ++ slashed (rest ++ [last]) =
      (s.toList ++ slashed rest ++ ['/']) ++ last.toList := by
    simp [slashed]
  rw [hend, List.getLast?_append_of_ne_nil _ hne]

theorem length_slashed (segments : List String) :
    (slashed segments).length = (segments.map fun s' => s'.toList.length + 1).sum := by
  rw [slashed, List.length_flatMap]
  rfl

theorem countP_slashed (segments : List String) : (slashed segments).countP isSlash =
    segments.length + (segments.map fun s' => s'.toList.countP isSlash).sum := by
  induction segments with
  | nil => rfl
  | cons s' segments ih =>
    have hcons : slashed (s' :: segments) = '/' :: (s'.toList ++ slashed segments) := rfl
    rw [hcons, List.countP_cons_of_pos (by decide), List.countP_append, ih, List.length_cons,
      List.map_cons, List.sum_cons]
    omega

/-- **A path that leaves as many characters as its segments have**, segment by segment, is one of
which nothing is lost: there are as many segments as slashes, so that no segment has one. -/
theorem isSegment_of_forall₂
    (h : List.Forall₂ (fun s' left => s'.toList.length + 1 ≤ cost left) (s :: rest)
      (leadsTo (s.toList ++ slashed rest))) :
    (∀ s' ∈ s :: rest, IsSegment s') ∧
      ∀ c ∈ (s.toList ++ slashed rest).getLast?, 0x20 < c.toNat := by
  have hsum : ((s :: rest).map fun s' => s'.toList.length + 1).sum ≤
      ((leadsTo (s.toList ++ slashed rest)).map cost).sum :=
    List.Forall₂.sum_le_sum (List.forall₂_map_left_iff.2 (List.forall₂_map_right_iff.2 h))
  obtain ⟨hle, hkept⟩ := sum_cost_leadsTo_le (s.toList ++ slashed rest)
  have hlength : ((s :: rest).map fun s' => s'.toList.length + 1).sum =
      (s.toList ++ slashed rest).length + 1 := by
    rw [List.map_cons, List.sum_cons, List.length_append, length_slashed]
    omega
  have hkept := hkept (Nat.le_antisymm hle (hlength ▸ hsum))
  have hparts := h.length_eq
  rw [leadsTo_of_isKept hkept, List.length_map, (splitPath_parts _).1, List.countP_append,
    countP_slashed, List.length_cons] at hparts
  have hnone : ∀ s' ∈ s :: rest, ∀ c ∈ s'.toList, isSlash c = false := by
    have hzero : ((s :: rest).map fun s' => s'.toList.countP isSlash).sum = 0 := by
      rw [List.map_cons, List.sum_cons]
      omega
    intro s' hs' c hc
    have hcount := List.sum_eq_zero_iff.1 hzero _ (List.mem_map_of_mem hs')
    simpa using List.countP_eq_zero.1 hcount c hc
  exact (isKept_iff hnone).1 hkept

end Pasted

end Url

end StoreGate
