import StoreGate.Proofs.Except
import StoreGate.Proofs.Json.Literal
import StoreGate.Proofs.Json.Record
import StoreGate.Proofs.SortedMap

/-!
# Values read back from their texts

A value is written without blanks, so that its text is read back token by token. Only doubles may be
lost: the digits of a double are the fewest that name it, but the reader is not exact for all of
them. What is told is therefore what the text of a value reads as in every case, and when that is
the value.

* `Document.parseText_writeText` — a written text is read back, whatever characters it holds.
* `Double.Kept`, `Json.DoublesKept` — doubles that are read back.
* `Document.reads_write` — what the text of a value reads as.
* `Document.value_document` — the document of a value holds the value, as far as it may be opened.
* `Json.parse_render_eq_ok_iff` — exactly which values are read back.
* `Json.Readable`, `Json.parse_render_of_readable` — objects whose members are read back.
-/

namespace StoreGate

/-! ## Texts -/

namespace Document

theorem hexValue?_hexDigit {n : Nat} (h : n < 16) : hexValue? (Json.hexDigit n) = some n := by
  have hall : ∀ m < 16, hexValue? (Json.hexDigit m) = some m := by decide
  exact hall n h

/-- How a character is written: after a backslash, by its number, or as it stands. -/
inductive Escaped (c : Char) : List Char → Prop
  | short (e : Char) : e ≠ 'u' → shortEscape? e = some c → Escaped c ['\\', e]
  | number : c.toNat < 0x20 →
    Escaped c ['\\', 'u', '0', '0', Json.hexDigit (c.toNat / 16), Json.hexDigit (c.toNat % 16)]
  | itself : c ≠ '"' → c ≠ '\\' → 0x20 ≤ c.toNat → Escaped c [c]

theorem escaped_escapeChar (c : Char) : Escaped c (Json.escapeChar c) := by
  unfold Json.escapeChar
  split
  · next h => exact h ▸ .short '"' (by decide) rfl
  · next hquote =>
    split
    · next h => exact h ▸ .short '\\' (by decide) rfl
    · next hslash =>
      split
      · next h => exact h ▸ .short 'n' (by decide) rfl
      · split
        · next h => exact h ▸ .short 'r' (by decide) rfl
        · split
          · next h => exact h ▸ .short 't' (by decide) rfl
          · split
            · next h => exact h ▸ .short 'b' (by decide) rfl
            · split
              · next h => exact h ▸ .short 'f' (by decide) rfl
              · split
                · next h => exact .number h
                · next h => exact .itself hquote hslash (Nat.not_lt.1 h)

/-- **One written character** is one piece. -/
theorem pieces_escapeChar (c : Char) (rest : List Char) :
    pieces (Json.escapeChar c ++ rest) =
      (pieces rest).map fun (ps, r) => (.char c :: ps, r) := by
  have hescaped := escaped_escapeChar c
  generalize Json.escapeChar c = written at hescaped ⊢
  cases hescaped with
  | short e hu he =>
      rw [List.cons_append, List.singleton_append, pieces.eq_def ('\\' :: e :: rest)]
      simp [hu, he]
  | number h =>
      have hunit : hexUnit? '0' '0' (Json.hexDigit (c.toNat / 16)) (Json.hexDigit (c.toNat % 16)) =
          some c.toNat := by
        rw [hexUnit?, hexValue?_hexDigit (by omega), hexValue?_hexDigit (by omega)]
        show some _ = some _
        congr 1
        show ((0 * 16 + 0) * 16 + c.toNat / 16) * 16 + c.toNat % 16 = c.toNat
        omega
      have hsurrogate : ¬ (0xD800 ≤ c.toNat ∧ c.toNat ≤ 0xDFFF) := by omega
      simp only [List.cons_append, List.nil_append, pieces, hunit, if_neg hsurrogate,
        Char.ofNat_toNat]
  | itself hquote hslash h =>
      rw [List.singleton_append, pieces.eq_def (c :: rest)]
      simp [hslash, Nat.not_lt.2 h]

theorem pieces_escaped (cs rest : List Char) :
    pieces (cs.flatMap Json.escapeChar ++ '"' :: rest) = .ok (cs.map .char, rest) := by
  induction cs with
  | nil => rfl
  | cons c cs ih =>
      rw [List.flatMap_cons, List.append_assoc, pieces_escapeChar, ih]
      rfl

theorem joinPieces_char (cs : List Char) : joinPieces (cs.map .char) = some cs := by
  induction cs with
  | nil => rfl
  | cons c cs ih =>
      rw [List.map_cons, joinPieces, ih]
      rfl

/-- **A written text is read back.** -/
theorem parseText_writeText (s : String) (rest : List Char) :
    parseText (s.toList.flatMap Json.escapeChar ++ '"' :: rest) = .ok (some s, rest) := by
  rw [parseText, pieces_escaped]
  show Except.ok ((joinPieces (s.toList.map .char)).map String.ofList, rest) = _
  rw [joinPieces_char, Option.map_some, String.ofList_toList]

end Document

/-! ## Numbers that survive -/

/-- The number that a text spells. -/
def Number.ofText? (text : String) : Option Number :=
  match Json.parse text with
  | .ok (.num n) => some n
  | _ => none

/-- A double is read back from its text. -/
def Double.Kept (x : Double) : Prop :=
  Number.ofText? (Json.render (.num (.double x))) = some (.double x)

instance (x : Double) : Decidable x.Kept := inferInstanceAs (Decidable (_ = _))

namespace Json

mutual

/-- The number of arrays and objects that are open at once. -/
def depth : Json → Nat
  | .arr items => depthItems items + 1
  | .obj members => depthMembers members + 1
  | _ => 0

def depthItems : List Json → Nat
  | [] => 0
  | v :: rest => max (depth v) (depthItems rest)

def depthMembers : List (String × Json) → Nat
  | [] => 0
  | (_, v) :: rest => max (depth v) (depthMembers rest)

end

mutual

/-- Every double of the value is read back from its text. -/
def DoublesKept : Json → Prop
  | .num (.double x) => x.Kept
  | .arr items => DoublesKeptItems items
  | .obj members => DoublesKeptMembers members
  | _ => True

def DoublesKeptItems : List Json → Prop
  | [] => True
  | v :: rest => DoublesKept v ∧ DoublesKeptItems rest

def DoublesKeptMembers : List (String × Json) → Prop
  | [] => True
  | (_, v) :: rest => DoublesKept v ∧ DoublesKeptMembers rest

end

end Json

/-! ## Values within a text -/

namespace Document

/-! ### What is read, as data -/

/-- The data of what was read as a value. -/
def Parsed.value (room : Nat) (p : Parsed Document) : Except DecodeError Json :=
  Document.value room p.doc

/-- The data of what was read as items. -/
def Parsed.values (room : Nat) (p : Parsed (List Document)) : Except DecodeError (List Json) :=
  Document.values room p.doc p.ending

/-- The data of what was read as members. -/
def Parsed.memberValues (room : Nat) (p : Parsed (List (Option String × Document))) :
    Except DecodeError (List (String × Json)) :=
  Document.memberValues room p.doc p.ending

section Data

variable {room : Nat} {d : Document} {ending : Ending}

theorem values_cons_eq_ok {ds : List Document} {ws : List Json} :
    values room (d :: ds) ending = .ok ws ↔
      ∃ w ws', value room d = .ok w ∧ values room ds ending = .ok ws' ∧ ws = w :: ws' := by
  rw [values]
  cases value room d with
  | error e => simp
  | ok w =>
      dsimp only
      rw [exceptMap_eq_ok]
      constructor
      · rintro ⟨ws', hws', rfl⟩
        exact ⟨w, ws', rfl, hws', rfl⟩
      · rintro ⟨w', ws', hw, hws', rfl⟩
        rw [Except.ok.inj hw]
        exact ⟨ws', hws', rfl⟩

theorem memberValues_cons_eq_ok {key : String} {ds : List (Option String × Document)}
    {ws : List (String × Json)} :
    memberValues room ((some key, d) :: ds) ending = .ok ws ↔
      ∃ w ws', value room d = .ok w ∧ memberValues room ds ending = .ok ws' ∧
        ws = (key, w) :: ws' := by
  rw [memberValues]
  cases value room d with
  | error e => simp
  | ok w =>
      dsimp only
      rw [exceptMap_eq_ok]
      constructor
      · rintro ⟨ws', hws', rfl⟩
        exact ⟨w, ws', rfl, hws', rfl⟩
      · rintro ⟨w', ws', hw, hws', rfl⟩
        rw [Except.ok.inj hw]
        exact ⟨ws', hws', rfl⟩

end Data

/-- What was read of a written value: up to its end or not at all. If its doubles are kept, it is
the value as a document; and of the data that it holds something is told. -/
structure Reads {α β : Type} (kept : Prop) (doc : α)
    (read : Nat → Parsed α → Except DecodeError β) (told : β → Prop) (rest : List Char)
    (p : Parsed α) : Prop where
  rest_or_error : p.rest = .ok rest ∨ ∃ e, p.rest = .error e
  of_kept : kept → p = ⟨doc, .ok rest⟩
  told_of_read : ∀ room b, read room p = .ok b → told b

/-- A value of which the same value is read has only doubles that are kept. -/
abbrev ReadsValue (v : Json) : List Char → Parsed Document → Prop :=
  Reads v.DoublesKept v.document Parsed.value fun w => w = v → v.DoublesKept

abbrev ReadsItems (items : List Json) : List Char → Parsed (List Document) → Prop :=
  Reads (Json.DoublesKeptItems items) (Json.documents items) Parsed.values
    fun ws => ws = items → Json.DoublesKeptItems items

/-- The keys of members are read as they are. -/
abbrev ReadsMembers (members : List (String × Json)) :
    List Char → Parsed (List (Option String × Document)) → Prop :=
  Reads (Json.DoublesKeptMembers members) (Json.memberDocuments members) Parsed.memberValues
    fun ws => ws.map (·.1) = members.map (·.1) ∧ (ws = members → Json.DoublesKeptMembers members)

theorem ReadsValue.of_eq {v : Json} {rest : List Char} {p : Parsed Document}
    (h : p = ⟨v.document, .ok rest⟩) (hkept : v.DoublesKept) : ReadsValue v rest p :=
  ⟨.inl (by rw [h]), fun _ => h, fun _ _ _ _ => hkept⟩

/-! ### Numbers -/

/-- What a text of a number alone spells. -/
theorem ofText?_render {n : Number} {l : NumberLiteral} (hl : l.IsDigits)
    (htext : Json.writeNumber n = Number.signText l.negative ++ l.text) :
    Number.ofText? (Json.render (.num n)) =
      if l.hasLeadingZero then none else Number.ofLiteral l := by
  have hstart : parseStart (Json.render (.num n)) = Parsed.scalar .number
      (if l.hasLeadingZero then .error (.malformed "number")
        else .ok (Number.ofLiteral l, [])) := by
    rw [parseStart, Json.render, String.toList_ofList]
    show parseValue _ (Json.writeNumber n) = _
    rw [← List.append_nil (Json.writeNumber n)]
    exact Number.parseValue_number hl htext endsNumber_nil _
  unfold Number.ofText? Json.parse decodeText parse
  rw [hstart]
  cases l.hasLeadingZero with
  | true => rfl
  | false =>
      cases Number.ofLiteral l with
      | none => rfl
      | some m => rfl

/-- **A finite double** is read up to its end or not at all. -/
theorem reads_double {x : Double} (hx : x.isFinite = true) {rest : List Char}
    (hrest : EndsNumber rest) (fuel : Nat) :
    ReadsValue (.num (.double x)) rest
      (parseValue (fuel + 1) (Json.writeNumber (.double x) ++ rest)) := by
  obtain ⟨l, hl, htext⟩ := Number.exists_literal (n := .double x) hx
  rw [Number.parseValue_number hl htext hrest]
  have hkept : x.Kept ↔ (if l.hasLeadingZero then none else Number.ofLiteral l) =
      some (.double x) := by
    rw [← ofText?_render hl htext]
    exact Iff.rfl
  cases hzero : l.hasLeadingZero with
  | true =>
      rw [hzero] at hkept
      exact ⟨.inr ⟨_, rfl⟩, fun h => absurd (hkept.1 h) (by simp), fun room b h => by cases h⟩
  | false =>
      have hkept : x.Kept ↔ Number.ofLiteral l = some (.double x) := by rwa [hzero] at hkept
      refine ⟨.inl rfl, fun h => ?_, fun room b h heq => ?_⟩
      · rw [hkept.1 h]
        rfl
      · refine hkept.2 ?_
        have hread : value room (.number (Number.ofLiteral l)) = .ok b := h
        cases hliteral : Number.ofLiteral l with
        | none =>
            rw [hliteral] at hread
            cases hread
        | some n =>
            rw [hliteral, heq] at hread
            cases hread
            rfl

/-- **An integer of 64 bits** is read as itself. -/
theorem reads_int {n : Int} (hmin : Json.minInt64 ≤ n) (hmax : n ≤ Json.maxNat64)
    {rest : List Char} (hrest : EndsNumber rest) (fuel : Nat) :
    parseValue (fuel + 1) (Json.writeNumber (.int n) ++ rest) =
      ⟨.number (some (.int n)), .ok rest⟩ := by
  have hzero : (Number.intLiteral n).hasLeadingZero = false := by
    unfold NumberLiteral.hasLeadingZero Number.intLiteral
    dsimp only
    rcases Decimal.natDigits_cases n.natAbs with hhead | hdigits
    · rw [beq_eq_false_iff_ne.2 hhead]
      rfl
    · rw [hdigits]
      rfl
  rw [Number.parseValue_number (Number.isDigits_intLiteral n) (Number.writeNumber_int n) hrest,
    hzero, Number.ofLiteral_intLiteral hmin hmax]
  rfl

/-! ## Items and members -/

section Steps

variable {fuel : Nat} {cs tail : List Char} {e : DecodeError}

theorem parseItems_error (h : (parseValue fuel cs).rest = .error e) :
    parseItems (fuel + 1) cs = ⟨[(parseValue fuel cs).doc], .error e⟩ := by
  rw [parseItems]
  dsimp only
  rw [h]

theorem parseItems_last (h : (parseValue fuel cs).rest = .ok (']' :: tail)) :
    parseItems (fuel + 1) cs = ⟨[(parseValue fuel cs).doc], .ok tail⟩ := by
  rw [parseItems]
  dsimp only
  rw [h]
  rfl

theorem parseItems_next (h : (parseValue fuel cs).rest = .ok (',' :: tail)) :
    parseItems (fuel + 1) cs =
      ⟨(parseValue fuel cs).doc :: (parseItems fuel tail).doc, (parseItems fuel tail).rest⟩ := by
  rw [parseItems]
  dsimp only
  rw [h]
  rfl

variable {key : String}

/-- A member up to the colon. -/
def keyed (key : String) (cs : List Char) : List Char := Json.writeText key ++ ':' :: cs

theorem parseText_keyed (key : String) (cs : List Char) :
    ∃ rest, skipBlanks (keyed key cs) = '"' :: rest ∧
      parseText rest = .ok (some key, ':' :: cs) := by
  refine ⟨key.toList.flatMap Json.escapeChar ++ '"' :: ':' :: cs, ?_, parseText_writeText key _⟩
  show '"' :: (key.toList.flatMap Json.escapeChar ++ ['"'] ++ ':' :: cs) = _
  rw [List.append_assoc]
  rfl

theorem keyed_append (key : String) (cs ds : List Char) :
    keyed key cs ++ ds = keyed key (cs ++ ds) := by
  simp [keyed]

/-- What opens an object and goes on with a key is read as members. -/
theorem parseValue_keyed (fuel : Nat) (key : String) (cs : List Char) :
    parseValue (fuel + 1) ('\x7b' :: keyed key cs) =
      ⟨.object (parseMembers fuel (keyed key cs)).doc (parseMembers fuel (keyed key cs)).ending,
        (parseMembers fuel (keyed key cs)).rest⟩ := rfl

theorem parseMembers_error (h : (parseValue fuel cs).rest = .error e) :
    parseMembers (fuel + 1) (keyed key cs) =
      ⟨[(some key, (parseValue fuel cs).doc)], .error e⟩ := by
  obtain ⟨rest, hskip, hkey⟩ := parseText_keyed key cs
  rw [parseMembers, hskip]
  simp [hkey, skipBlanks, isBlank, h]

theorem parseMembers_last (h : (parseValue fuel cs).rest = .ok ('\x7d' :: tail)) :
    parseMembers (fuel + 1) (keyed key cs) =
      ⟨[(some key, (parseValue fuel cs).doc)], .ok tail⟩ := by
  obtain ⟨rest, hskip, hkey⟩ := parseText_keyed key cs
  rw [parseMembers, hskip]
  simp [hkey, skipBlanks, isBlank, h]

theorem parseMembers_next (h : (parseValue fuel cs).rest = .ok (',' :: tail)) :
    parseMembers (fuel + 1) (keyed key cs) =
      ⟨(some key, (parseValue fuel cs).doc) :: (parseMembers fuel tail).doc,
        (parseMembers fuel tail).rest⟩ := by
  obtain ⟨rest, hskip, hkey⟩ := parseText_keyed key cs
  rw [parseMembers, hskip]
  simp [hkey, skipBlanks, isBlank, h]

end Steps

/-! ## Whole values -/

theorem endsNumber_cons {c : Char} (rest : List Char) (h : c = ',' ∨ c = ']' ∨ c = '\x7d') :
    EndsNumber (c :: rest) := by
  intro d hd
  obtain rfl : c = d := Option.some.inj hd
  rcases h with rfl | rfl | rfl <;> decide

/-- A text begins with neither a blank nor a bracket that closes an array. -/
def BeginsValue (cs : List Char) : Prop := ∃ c rest, cs = c :: rest ∧ isBlank c = false ∧ c ≠ ']'

theorem BeginsValue.append {cs : List Char} (h : BeginsValue cs) (ds : List Char) :
    BeginsValue (cs ++ ds) := by
  obtain ⟨c, rest, rfl, hc⟩ := h
  exact ⟨c, rest ++ ds, rfl, hc⟩

theorem BeginsValue.length_pos {cs : List Char} (h : BeginsValue cs) : 0 < cs.length := by
  obtain ⟨c, rest, rfl, -⟩ := h
  exact Nat.succ_pos _

theorem beginsValue_number {n : Number} (hn : n.IsFinite) :
    BeginsValue (Json.writeNumber n) := by
  obtain ⟨l, hl, htext⟩ := Number.exists_literal hn
  rw [htext]
  cases l.negative with
  | true => exact ⟨'-', l.text, rfl, by decide, by decide⟩
  | false =>
      obtain ⟨d, ds, hwhole⟩ := List.exists_cons_of_ne_nil hl.whole_ne_nil
      have hd : Decimal.isDigit d = true := hl.whole d (by rw [hwhole]; exact List.mem_cons_self)
      refine ⟨d, _, by rw [NumberLiteral.text, hwhole]; rfl, Number.isBlank_of_isDigit hd, ?_⟩
      rintro rfl
      exact absurd hd (by decide)

theorem isFinite_of_canonical {n : Number} (h : (Json.num n).Canonical) : n.IsFinite := by
  cases n with
  | int n => trivial
  | double x => exact h

/-- **A written value begins as a value does.** -/
theorem beginsValue_write {v : Json} (hv : v.Canonical) : BeginsValue (Json.write v) := by
  cases v with
  | null => exact ⟨'n', _, rfl, by decide, by decide⟩
  | bool b =>
      cases b with
      | true => exact ⟨'t', _, rfl, by decide, by decide⟩
      | false => exact ⟨'f', _, rfl, by decide, by decide⟩
  | num n => exact beginsValue_number (isFinite_of_canonical hv)
  | str s => exact ⟨'"', _, rfl, by decide, by decide⟩
  | arr items => exact ⟨'[', _, by rw [Json.write]; rfl, by decide, by decide⟩
  | obj members => exact ⟨'\x7b', _, by rw [Json.write]; rfl, by decide, by decide⟩

theorem writeItems_cons (v : Json) (items : List Json) :
    Json.writeItems (v :: items) =
      Json.write v ++ (if items = [] then [] else ',' :: Json.writeItems items) := by
  cases items with
  | nil => simp [Json.writeItems]
  | cons w items => simp [Json.writeItems]

theorem writeMembers_cons (key : String) (v : Json) (members : List (String × Json)) :
    Json.writeMembers ((key, v) :: members) =
      keyed key (Json.write v ++
        (if members = [] then [] else ',' :: Json.writeMembers members)) := by
  cases members with
  | nil => simp [Json.writeMembers, keyed]
  | cons w members => simp [Json.writeMembers, keyed]

theorem length_writeMembers_pos (key : String) (v : Json) (members : List (String × Json)) :
    0 < (Json.writeMembers ((key, v) :: members)).length := by
  rw [writeMembers_cons]
  exact Nat.succ_pos _

section Containers

variable {fuel : Nat} {text cs tail rest : List Char} {v : Json}

theorem reads_last_item (h : ReadsValue v (']' :: rest) (parseValue fuel cs)) :
    ReadsItems [v] rest (parseItems (fuel + 1) cs) := by
  rcases h.rest_or_error with hok | ⟨e, herror⟩
  · rw [parseItems_last hok]
    refine ⟨.inl rfl, fun hkept => by rw [h.of_kept hkept.1]; rfl, fun room ws hws heq => ?_⟩
    obtain ⟨w, ws', hw, -, rfl⟩ := values_cons_eq_ok.1 hws
    exact ⟨h.told_of_read room w hw (List.cons.inj heq).1, trivial⟩
  · rw [parseItems_error herror]
    refine ⟨.inr ⟨e, rfl⟩, fun hkept => ?_, fun room ws hws => ?_⟩
    · rw [h.of_kept hkept.1] at herror
      cases herror
    · obtain ⟨w, ws', -, hcut, -⟩ := values_cons_eq_ok.1 hws
      cases hcut

theorem reads_next_item {items : List Json} (h : ReadsValue v (',' :: tail) (parseValue fuel cs))
    (htail : ReadsItems items rest (parseItems fuel tail)) :
    ReadsItems (v :: items) rest (parseItems (fuel + 1) cs) := by
  rcases h.rest_or_error with hok | ⟨e, herror⟩
  · rw [parseItems_next hok]
    refine ⟨htail.rest_or_error,
      fun hkept => by rw [h.of_kept hkept.1, htail.of_kept hkept.2]; rfl,
      fun room ws hws heq => ?_⟩
    obtain ⟨w, ws', hw, hws', rfl⟩ := values_cons_eq_ok.1 hws
    obtain ⟨hhead, hrest⟩ := List.cons.inj heq
    exact ⟨h.told_of_read room w hw hhead, htail.told_of_read room ws' hws' hrest⟩
  · rw [parseItems_error herror]
    refine ⟨.inr ⟨e, rfl⟩, fun hkept => ?_, fun room ws hws => ?_⟩
    · rw [h.of_kept hkept.1] at herror
      cases herror
    · obtain ⟨w, ws', -, hcut, -⟩ := values_cons_eq_ok.1 hws
      cases hcut

variable {key : String}

theorem reads_last_member (h : ReadsValue v ('\x7d' :: rest) (parseValue fuel cs)) :
    ReadsMembers [(key, v)] rest (parseMembers (fuel + 1) (keyed key cs)) := by
  rcases h.rest_or_error with hok | ⟨e, herror⟩
  · rw [parseMembers_last hok]
    refine ⟨.inl rfl, fun hkept => by rw [h.of_kept hkept.1]; rfl, fun room ws hws => ?_⟩
    obtain ⟨w, ws', hw, hnil, rfl⟩ := memberValues_cons_eq_ok.1 hws
    cases hnil
    refine ⟨rfl, fun heq => ⟨h.told_of_read room w hw ?_, trivial⟩⟩
    exact (Prod.mk.inj (List.cons.inj heq).1).2
  · rw [parseMembers_error herror]
    refine ⟨.inr ⟨e, rfl⟩, fun hkept => ?_, fun room ws hws => ?_⟩
    · rw [h.of_kept hkept.1] at herror
      cases herror
    · obtain ⟨w, ws', -, hcut, -⟩ := memberValues_cons_eq_ok.1 hws
      cases hcut

theorem reads_next_member {members : List (String × Json)}
    (h : ReadsValue v (',' :: tail) (parseValue fuel cs))
    (htail : ReadsMembers members rest (parseMembers fuel tail)) :
    ReadsMembers ((key, v) :: members) rest (parseMembers (fuel + 1) (keyed key cs)) := by
  rcases h.rest_or_error with hok | ⟨e, herror⟩
  · rw [parseMembers_next hok]
    refine ⟨htail.rest_or_error,
      fun hkept => by rw [h.of_kept hkept.1, htail.of_kept hkept.2]; rfl,
      fun room ws hws => ?_⟩
    obtain ⟨w, ws', hw, hws', rfl⟩ := memberValues_cons_eq_ok.1 hws
    obtain ⟨hkeys, htold⟩ := htail.told_of_read room ws' hws'
    refine ⟨congrArg (key :: ·) hkeys, fun heq => ?_⟩
    obtain ⟨hhead, hrest⟩ := List.cons.inj heq
    exact ⟨h.told_of_read room w hw (Prod.mk.inj hhead).2, htold hrest⟩
  · rw [parseMembers_error herror]
    refine ⟨.inr ⟨e, rfl⟩, fun hkept => ?_, fun room ws hws => ?_⟩
    · rw [h.of_kept hkept.1] at herror
      cases herror
    · obtain ⟨w, ws', -, hcut, -⟩ := memberValues_cons_eq_ok.1 hws
      cases hcut

/-- An array is read as its items are. -/
theorem reads_array {items : List Json} (hbegins : BeginsValue text)
    (h : ReadsItems items rest (parseItems fuel (text ++ ']' :: rest))) :
    ReadsValue (.arr items) rest (parseValue (fuel + 1) ('[' :: (text ++ ']' :: rest))) := by
  obtain ⟨c, cs, hcons, hblank, hne⟩ := hbegins.append (']' :: rest)
  have hparse : parseValue (fuel + 1) ('[' :: (text ++ ']' :: rest)) =
      ⟨.array (parseItems fuel (text ++ ']' :: rest)).doc
        (parseItems fuel (text ++ ']' :: rest)).ending,
        (parseItems fuel (text ++ ']' :: rest)).rest⟩ := by
    have hopen : skipBlanks ('[' :: c :: cs) = '[' :: c :: cs := rfl
    have hskip : skipBlanks (c :: cs) = c :: cs := by
      rw [skipBlanks, hblank]
      rfl
    rw [hcons, parseValue, hopen]
    simp [hskip, hne]
  rw [hparse]
  refine ⟨h.rest_or_error, fun hkept => by rw [h.of_kept hkept]; rfl, fun room w hw heq => ?_⟩
  cases room with
  | zero => cases hw
  | succ room =>
      obtain ⟨ws, hws, rfl⟩ := exceptMap_eq_ok.1 hw
      exact h.told_of_read room ws hws (Json.arr.inj heq)

/-- An object is read as its members are, in whatever order they are written. -/
theorem parse_object {members : List (String × Json)} (hne : members ≠ []) (fuel : Nat)
    (rest : List Char) :
    parseValue (fuel + 1) (Json.write (.obj members) ++ rest) =
      ⟨.object (parseMembers fuel (Json.writeMembers members ++ '\x7d' :: rest)).doc
        (parseMembers fuel (Json.writeMembers members ++ '\x7d' :: rest)).ending,
        (parseMembers fuel (Json.writeMembers members ++ '\x7d' :: rest)).rest⟩ := by
  obtain ⟨⟨key, v⟩, members, rfl⟩ := List.exists_cons_of_ne_nil hne
  have hwrite : Json.write (.obj ((key, v) :: members)) ++ rest =
      '\x7b' :: (Json.writeMembers ((key, v) :: members) ++ '\x7d' :: rest) := by
    simp [Json.write]
  rw [hwrite, writeMembers_cons, keyed_append, parseValue_keyed]

theorem reads_object {members : List (String × Json)} (hmembers : SortedMap.Increasing members)
    (h : members ≠ [] → ReadsMembers members rest
      (parseMembers fuel (Json.writeMembers members ++ '\x7d' :: rest))) :
    ReadsValue (.obj members) rest
      (parseValue (fuel + 1) (Json.write (.obj members) ++ rest)) := by
  by_cases hne : members = []
  · subst hne
    exact .of_eq rfl trivial
  · have h := h hne
    rw [parse_object hne]
    refine ⟨h.rest_or_error, fun hkept => by rw [h.of_kept hkept]; rfl, fun room w hw heq => ?_⟩
    cases room with
    | zero => cases hw
    | succ room =>
        obtain ⟨ws, hws, rfl⟩ := exceptMap_eq_ok.1 hw
        obtain ⟨hkeys, htold⟩ := h.told_of_read room ws hws
        -- what was read has the keys of the members, and so it is in order as they are
        have hsorted : SortedMap.Increasing ws := by
          have hpairs : (members.map (·.1)).Pairwise fun a b => KeyOrder.before a b = true :=
            List.pairwise_map.2 hmembers
          rw [← hkeys] at hpairs
          exact List.pairwise_map.1 hpairs
        refine htold ?_
        rw [← SortedMap.sortEntries_of_increasing hsorted]
        exact Json.obj.inj heq

end Containers

mutual

/-- **A written value is read up to its end or not at all**, and if its doubles are kept, as it
is. -/
theorem reads_write : ∀ (v : Json) (_ : v.Canonical) (fuel : Nat) (rest : List Char),
    EndsNumber rest → 2 * (Json.write v).length ≤ fuel + 1 →
    ReadsValue v rest (parseValue fuel (Json.write v ++ rest))
  | v, hv, 0, rest, _, hfuel => by
      have hpos := (beginsValue_write hv).length_pos
      omega
  | .null, _, fuel + 1, rest, _, _ => .of_eq rfl trivial
  | .bool true, _, fuel + 1, rest, _, _ => .of_eq rfl trivial
  | .bool false, _, fuel + 1, rest, _, _ => .of_eq rfl trivial
  | .num (.int n), hv, fuel + 1, rest, hrest, _ =>
      .of_eq (reads_int hv.1 hv.2 hrest fuel) trivial
  | .num (.double x), hv, fuel + 1, rest, hrest, _ => reads_double hv hrest fuel
  | .str s, _, fuel + 1, rest, _, _ => by
      have hparse : parseValue (fuel + 1) (Json.write (.str s) ++ rest) =
          Parsed.scalar .text (parseText (s.toList.flatMap Json.escapeChar ++ '"' :: rest)) := by
        rw [Json.write, Json.writeText, List.append_assoc]
        rfl
      rw [hparse, parseText_writeText]
      exact .of_eq rfl trivial
  | .arr [], _, fuel + 1, rest, _, _ => .of_eq rfl trivial
  | .arr (v :: items), hv, fuel + 1, rest, _, hfuel => by
      have hlength : (Json.write (.arr (v :: items))).length =
          (Json.writeItems (v :: items)).length + 2 := by
        simp [Json.write]
      have hitems := reads_writeItems (v :: items) hv (by simp) fuel rest (by omega)
      have hbegins : BeginsValue (Json.writeItems (v :: items)) := by
        rw [writeItems_cons]
        exact (beginsValue_write hv.1).append _
      have hwrite : Json.write (.arr (v :: items)) ++ rest =
          '[' :: (Json.writeItems (v :: items) ++ ']' :: rest) := by
        simp [Json.write]
      rw [hwrite]
      exact reads_array hbegins hitems
  | .obj members, hv, fuel + 1, rest, _, hfuel => by
      have hlength : (Json.write (.obj members)).length =
          (Json.writeMembers members).length + 2 := by
        simp [Json.write]
      exact reads_object hv.1 fun hne =>
        reads_writeMembers members hv.2 hne fuel rest (by omega)

theorem reads_writeItems : ∀ (items : List Json) (_ : Json.CanonicalItems items),
    items ≠ [] → ∀ (fuel : Nat) (rest : List Char), 2 * (Json.writeItems items).length ≤ fuel →
    ReadsItems items rest (parseItems fuel (Json.writeItems items ++ ']' :: rest))
  | [], _, hne, _, _, _ => absurd rfl hne
  | v :: items, hv, _, 0, rest, hfuel => by
      have hpos := (beginsValue_write hv.1).length_pos
      rw [writeItems_cons, List.length_append] at hfuel
      omega
  | [v], hv, _, fuel + 1, rest, hfuel => by
      rw [Json.writeItems] at hfuel ⊢
      have hhead := reads_write v hv.1 fuel (']' :: rest)
        (endsNumber_cons rest (.inr (.inl rfl))) hfuel
      exact reads_last_item hhead
  | v :: w :: items, hv, _, fuel + 1, rest, hfuel => by
      have hlength : (Json.writeItems (v :: w :: items)).length =
          (Json.write v).length + ((Json.writeItems (w :: items)).length + 1) := by
        simp [Json.writeItems]
      have hwrite : Json.writeItems (v :: w :: items) ++ ']' :: rest =
          Json.write v ++ ',' :: (Json.writeItems (w :: items) ++ ']' :: rest) := by
        simp [Json.writeItems]
      rw [hwrite]
      exact reads_next_item
        (reads_write v hv.1 fuel _ (endsNumber_cons _ (.inl rfl)) (by omega))
        (reads_writeItems (w :: items) hv.2 (by simp) fuel rest (by omega))

theorem reads_writeMembers : ∀ (members : List (String × Json))
    (_ : Json.CanonicalMembers members), members ≠ [] → ∀ (fuel : Nat) (rest : List Char),
    2 * (Json.writeMembers members).length ≤ fuel →
    ReadsMembers members rest (parseMembers fuel (Json.writeMembers members ++ '\x7d' :: rest))
  | [], _, hne, _, _, _ => absurd rfl hne
  | (key, v) :: members, hv, _, 0, rest, hfuel => by
      have hpos := length_writeMembers_pos key v members
      omega
  | [(key, v)], hv, _, fuel + 1, rest, hfuel => by
      have hlength : (Json.write v).length < (Json.writeMembers [(key, v)]).length := by
        simp [Json.writeMembers]
        omega
      have hwrite : Json.writeMembers [(key, v)] ++ '\x7d' :: rest =
          keyed key (Json.write v ++ '\x7d' :: rest) := by
        simp [Json.writeMembers, keyed]
      rw [hwrite]
      have hhead := reads_write v hv.1 fuel ('\x7d' :: rest)
        (endsNumber_cons rest (.inr (.inr rfl))) (by omega)
      exact reads_last_member hhead
  | (key, v) :: m :: members, hv, _, fuel + 1, rest, hfuel => by
      have hlength : (Json.write v).length + (Json.writeMembers (m :: members)).length <
          (Json.writeMembers ((key, v) :: m :: members)).length := by
        simp [Json.writeMembers]
        omega
      have hwrite : Json.writeMembers ((key, v) :: m :: members) ++ '\x7d' :: rest =
          keyed key
            (Json.write v ++ ',' :: (Json.writeMembers (m :: members) ++ '\x7d' :: rest)) := by
        simp [Json.writeMembers, keyed]
      rw [hwrite]
      exact reads_next_member
        (reads_write v hv.1 fuel _ (endsNumber_cons _ (.inl rfl)) (by omega))
        (reads_writeMembers (m :: members) hv.2 (by simp) fuel rest (by omega))

end

/-! ## The data of a document -/

mutual

/-- **A value as a document holds the value**, as far as it may be opened. -/
theorem value_document : ∀ (v : Json) (_ : v.Canonical) (room : Nat),
    value room v.document = if v.depth ≤ room then .ok v else .error .tooDeep
  | .null, _, room => rfl
  | .bool _, _, room => rfl
  | .num _, _, room => rfl
  | .str _, _, room => rfl
  | .arr items, hv, 0 => rfl
  | .arr items, hv, room + 1 => by
      have hitems := values_documents items hv room
      rw [Json.document, value, hitems, Json.depth]
      by_cases h : Json.depthItems items ≤ room
      · rw [if_pos h, if_pos (Nat.succ_le_succ h)]
        rfl
      · rw [if_neg h, if_neg (by omega)]
        rfl
  | .obj members, hv, 0 => rfl
  | .obj members, hv, room + 1 => by
      have hmembers := memberValues_memberDocuments members hv.2 room
      rw [Json.document, value, hmembers, Json.depth]
      by_cases h : Json.depthMembers members ≤ room
      · rw [if_pos h, if_pos (Nat.succ_le_succ h), Except.map,
          SortedMap.sortEntries_of_increasing hv.1]
      · rw [if_neg h, if_neg (by omega)]
        rfl

theorem values_documents : ∀ (items : List Json) (_ : Json.CanonicalItems items) (room : Nat),
    values room (Json.documents items) .closed =
      if Json.depthItems items ≤ room then .ok items else .error .tooDeep
  | [], _, room => rfl
  | v :: items, hv, room => by
      have hhead := value_document v hv.1 room
      have htail := values_documents items hv.2 room
      rw [Json.documents, values, hhead, htail, Json.depthItems]
      by_cases h : v.depth ≤ room
      · by_cases h' : Json.depthItems items ≤ room
        · rw [if_pos h, if_pos h', if_pos (Nat.max_le.2 ⟨h, h'⟩)]
          rfl
        · rw [if_pos h, if_neg h', if_neg (by omega)]
          rfl
      · rw [if_neg h, if_neg fun hmax => h (Nat.max_le.1 hmax).1]

theorem memberValues_memberDocuments : ∀ (members : List (String × Json))
    (_ : Json.CanonicalMembers members) (room : Nat),
    memberValues room (Json.memberDocuments members) .closed =
      if Json.depthMembers members ≤ room then .ok members else .error .tooDeep
  | [], _, room => rfl
  | (key, v) :: members, hv, room => by
      have hhead := value_document v hv.1 room
      have htail := memberValues_memberDocuments members hv.2 room
      rw [Json.memberDocuments, memberValues, hhead, htail, Json.depthMembers]
      by_cases h : v.depth ≤ room
      · by_cases h' : Json.depthMembers members ≤ room
        · rw [if_pos h, if_pos h', if_pos (Nat.max_le.2 ⟨h, h'⟩)]
          rfl
        · rw [if_pos h, if_neg h', if_neg (by omega)]
          rfl
      · rw [if_neg h, if_neg fun hmax => h (Nat.max_le.1 hmax).1]

end

theorem fst_parse (text : String) : (parse text).1 = (parseStart text).doc := by
  unfold parse
  dsimp only
  split
  · rfl
  · rfl

/-- A text that spells one document is read from that document. -/
theorem decodeText_of_parseStart {α : Type} {read : Nat → Document → Except DecodeError α}
    {text : String} {d : Document}
    (h : parseStart text = ⟨d, .ok []⟩) : decodeText read text = read nestingLimit d := by
  have hparse : parse text = (d, .closed) := by
    rw [parse, h]
    rfl
  rw [decodeText, hparse]
  dsimp only
  cases read nestingLimit d with
  | error e => rfl
  | ok a => rfl

/-- **A written value whose doubles are kept** is read as it is, whatever reads it. -/
theorem parseStart_render {v : Json} (hv : v.Canonical) (hkept : v.DoublesKept) :
    parseStart (Json.render v) = ⟨v.document, .ok []⟩ := by
  have hreads := reads_write v hv (2 * (Json.write v).length + 1) [] endsNumber_nil (by omega)
  rw [List.append_nil] at hreads
  rw [parseStart, Json.render, String.toList_ofList]
  exact hreads.of_kept hkept

/-- The same for members in whatever order they are written. -/
theorem parseStart_members {members : List (String × Json)}
    (hv : Json.CanonicalMembers members) (hkept : Json.DoublesKeptMembers members) :
    parseStart (Json.render (.obj members)) =
      ⟨.object (Json.memberDocuments members) .closed, .ok []⟩ := by
  have hlength : (Json.write (.obj members)).length = (Json.writeMembers members).length + 2 := by
    simp [Json.write]
  rw [parseStart, Json.render, String.toList_ofList]
  by_cases hne : members = []
  · subst hne
    rfl
  · have hreads := reads_writeMembers members hv hne (2 * (Json.write (.obj members)).length) []
      (by omega)
    have hparse := parse_object hne (2 * (Json.write (.obj members)).length) []
    rw [List.append_nil] at hparse
    rw [hparse, hreads.of_kept hkept]
    rfl

end Document

namespace Json

/-- **A written value is read back** exactly if its doubles are, and not too many of its arrays and
objects are open at once. -/
theorem parse_render_eq_ok_iff {v : Json} (hv : v.Canonical) :
    Json.parse (render v) = .ok v ↔ v.DoublesKept ∧ v.depth ≤ nestingLimit := by
  have hkept : v.DoublesKept → Json.parse (render v) =
      if v.depth ≤ nestingLimit then .ok v else .error .tooDeep := fun h => by
    rw [Json.parse, Document.decodeText_of_parseStart (Document.parseStart_render hv h),
      Document.value_document v hv]
  constructor
  · intro h
    have hreads := Document.reads_write v hv (2 * (write v).length + 1) []
      Document.endsNumber_nil (by omega)
    have hread := Document.read_of_decodeText h
    rw [Document.fst_parse, Document.parseStart, render, String.toList_ofList] at hread
    rw [List.append_nil] at hreads
    have hdoubles := hreads.told_of_read _ _ hread rfl
    refine ⟨hdoubles, ?_⟩
    by_contra hdeep
    rw [hkept hdoubles, if_neg hdeep] at h
    cases h
  · rintro ⟨hdoubles, hdepth⟩
    rw [hkept hdoubles, if_pos hdepth]

theorem canonicalMembers_iff {members : List (String × Json)} :
    CanonicalMembers members ↔ ∀ m ∈ members, m.2.Canonical := by
  induction members with
  | nil => simp [CanonicalMembers]
  | cons m members ih => simp [CanonicalMembers, ih]

theorem doublesKeptMembers_iff {members : List (String × Json)} :
    DoublesKeptMembers members ↔ ∀ m ∈ members, m.2.DoublesKept := by
  induction members with
  | nil => simp [DoublesKeptMembers]
  | cons m members ih => simp [DoublesKeptMembers, ih]

theorem depthMembers_le_iff {members : List (String × Json)} {n : Nat} :
    depthMembers members ≤ n ↔ ∀ m ∈ members, m.2.depth ≤ n := by
  induction members with
  | nil => simp [depthMembers]
  | cons m members ih =>
      rw [depthMembers, Nat.max_le, ih]
      exact (List.forall_mem_cons (p := fun m : String × Json => m.2.depth ≤ n)).symm

/-- The value is data whose doubles are kept, with at most `n` arrays and objects open at once. -/
structure Readable (n : Nat) (v : Json) : Prop where
  canonical : v.Canonical
  doublesKept : v.DoublesKept
  depth_le : v.depth ≤ n

theorem readable_str (s : String) (n : Nat) : (str s).Readable n := ⟨trivial, trivial, n.zero_le⟩

theorem readable_bool (b : Bool) (n : Nat) : (bool b).Readable n := ⟨trivial, trivial, n.zero_le⟩

theorem readable_int {i : Int} (hmin : minInt64 ≤ i) (hmax : i ≤ maxNat64) (n : Nat) :
    (int i).Readable n := ⟨⟨hmin, hmax⟩, trivial, n.zero_le⟩

theorem readable_strings (texts : List String) : (ofStrings texts).Readable 1 where
  canonical := by
    show CanonicalItems (texts.map .str)
    induction texts with
    | nil => trivial
    | cons s texts ih => exact ⟨trivial, ih⟩
  doublesKept := by
    show DoublesKeptItems (texts.map .str)
    induction texts with
    | nil => trivial
    | cons s texts ih => exact ⟨trivial, ih⟩
  depth_le := by
    show depthItems (texts.map .str) + 1 ≤ 1
    have hzero : depthItems (texts.map .str) = 0 := by
      induction texts with
      | nil => rfl
      | cons s texts ih => rw [List.map_cons, depthItems, ih]; rfl
    rw [hzero]

/-- All members are of this kind. -/
def ReadableMembers (n : Nat) (members : List (String × Json)) : Prop :=
  ∀ m ∈ members, m.2.Readable n

section Members

variable {n : Nat} {members members' : List (String × Json)}

@[simp] theorem readableMembers_nil : ReadableMembers n [] := fun m hm => by cases hm

@[simp] theorem readableMembers_cons (m : String × Json) :
    ReadableMembers n (m :: members) ↔ m.2.Readable n ∧ ReadableMembers n members :=
  List.forall_mem_cons

@[simp] theorem readableMembers_append :
    ReadableMembers n (members ++ members') ↔
      ReadableMembers n members ∧ ReadableMembers n members' := List.forall_mem_append

@[simp] theorem readableMembers_optional (key : String) (value : Option Json) :
    ReadableMembers n (optionalMember key value) ↔ ∀ v ∈ value, v.Readable n := by
  cases value with
  | none => simp [optionalMember]
  | some v => simp [optionalMember]

/-- Members are put in order. -/
theorem readable_object (h : ReadableMembers n members) : (object members).Readable (n + 1) where
  canonical := ⟨SortedMap.increasing_sortEntries members, canonicalMembers_iff.2 fun m hm =>
    (h m (SortedMap.mem_sortEntries hm)).canonical⟩
  doublesKept := doublesKeptMembers_iff.2 fun m hm =>
    (h m (SortedMap.mem_sortEntries hm)).doublesKept
  depth_le := Nat.succ_le_succ (depthMembers_le_iff.2 fun m hm =>
    (h m (SortedMap.mem_sortEntries hm)).depth_le)

end Members

end Json

end StoreGate
