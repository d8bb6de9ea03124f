import StoreGate.Json.Parser
import StoreGate.Json.Printer
import StoreGate.Proofs.Decimal.Digits

/-!
# Number literals, written and read

Every number that is written has the text of a literal: digits, and after them perhaps a point with
more digits, and perhaps an exponent. Where such a text stands before anything that does not go on
with it, the reader takes exactly the text, and what it makes of it does not depend on what follows.

* `NumberLiteral.text` — the text of a literal.
* `Document.parseNumber_text` — what the reader makes of it.
* `Number.exists_literal` — the literal of a number.
* `Number.ofLiteral_nat`, `Number.ofLiteral_neg` — integers of 64 bits are read back.
-/

namespace StoreGate

open Document

/-! ## Literals -/

namespace NumberLiteral

/-- A point and the digits after it, if there are any. -/
def fractionText : List Char → List Char
  | [] => []
  | digits => '.' :: digits

/-- An exponent with its sign, if there is one. -/
def exponentText : Option (Bool × List Char) → List Char
  | none => []
  | some (below, digits) => 'e' :: (if below then '-' else '+') :: digits

/-- The text of a literal without its sign. -/
def text (l : NumberLiteral) : List Char :=
  l.whole ++ (fractionText l.fraction ++ exponentText l.exponent)

/-- The parts of a literal are digits, where there have to be some. -/
structure IsDigits (l : NumberLiteral) : Prop where
  whole_ne_nil : l.whole ≠ []
  whole : ∀ c ∈ l.whole, Decimal.isDigit c = true
  fraction : ∀ c ∈ l.fraction, Decimal.isDigit c = true
  exponent : ∀ below digits, l.exponent = some (below, digits) →
    digits ≠ [] ∧ ∀ c ∈ digits, Decimal.isDigit c = true

/-- A zero stands in front of other digits. -/
def hasLeadingZero (l : NumberLiteral) : Bool := l.whole.head? == some '0' && 1 < l.whole.length

end NumberLiteral

namespace Document

/-- A number does not go on with the text. -/
def EndsNumber (rest : List Char) : Prop :=
  ∀ c ∈ rest.head?, Decimal.isDigit c = false ∧ c ≠ '.' ∧ c ≠ 'e' ∧ c ≠ 'E'

theorem endsNumber_nil : EndsNumber [] := fun c hc => by cases hc

theorem EndsNumber.isDigit {rest : List Char} (h : EndsNumber rest) :
    ∀ c ∈ rest.head?, Decimal.isDigit c = false := fun c hc => (h c hc).1

/-- No digit begins what comes after the digits of a fraction. -/
theorem isDigit_head?_exponent (exponent : Option (Bool × List Char)) {rest : List Char}
    (hrest : EndsNumber rest) :
    ∀ c ∈ (NumberLiteral.exponentText exponent ++ rest).head?, Decimal.isDigit c = false := by
  intro c hc
  cases exponent with
  | none => exact hrest.isDigit c hc
  | some e =>
      obtain rfl : 'e' = c := Option.some.inj hc
      decide

/-- No digit begins what comes after the digits before the point. -/
theorem isDigit_head?_fraction (fraction : List Char) (exponent : Option (Bool × List Char))
    {rest : List Char} (hrest : EndsNumber rest) :
    ∀ c ∈ (NumberLiteral.fractionText fraction ++
      (NumberLiteral.exponentText exponent ++ rest)).head?, Decimal.isDigit c = false := by
  intro c hc
  cases fraction with
  | nil => exact isDigit_head?_exponent exponent hrest c hc
  | cons d ds =>
      obtain rfl : '.' = c := Option.some.inj hc
      decide

/-- **The reader takes the text of a literal**, unless a zero stands in front of other digits. -/
theorem parseNumber_text {l : NumberLiteral} (hl : l.IsDigits) {rest : List Char}
    (hrest : EndsNumber rest) :
    parseNumber l.negative (l.text ++ rest) =
      if l.hasLeadingZero then .error (.malformed "number")
      else .ok (Number.ofLiteral l, rest) := by
  obtain ⟨negative, whole, fraction, exponent⟩ := l
  obtain ⟨hne, hwhole, hfraction, hexponent⟩ := hl
  dsimp only at hne hwhole hfraction hexponent
  have htext : NumberLiteral.text ⟨negative, whole, fraction, exponent⟩ ++ rest =
      whole ++ (NumberLiteral.fractionText fraction ++
        (NumberLiteral.exponentText exponent ++ rest)) := by
    simp only [NumberLiteral.text, List.append_assoc]
  have hempty : whole.isEmpty = false := by simpa using hne
  obtain ⟨htake, hdrop⟩ := Decimal.takeWhile_dropWhile_digits hwhole
    (isDigit_head?_fraction fraction exponent hrest)
  unfold parseNumber NumberLiteral.hasLeadingZero
  dsimp only
  rw [htext, htake, hdrop, hempty, Bool.false_or]
  clear htext htake hdrop
  split
  · rfl
  · -- the texts of the parts are written out, and every digit is taken
    have hpoint := fun d ds (h : ∀ c ∈ d :: ds, Decimal.isDigit c = true) =>
      Decimal.takeWhile_dropWhile_digits h (isDigit_head?_exponent exponent hrest)
    cases exponent with
    | none =>
        simp only [NumberLiteral.exponentText, List.nil_append, List.cons_append] at hpoint ⊢
        cases fraction with
        | nil =>
            cases rest with
            | nil => simp [NumberLiteral.fractionText]
            | cons c cs =>
                obtain ⟨-, hc, he, hE⟩ := hrest c rfl
                simp [NumberLiteral.fractionText, hc, he, hE]
        | cons d ds =>
            obtain ⟨htake, hdrop⟩ := hpoint d ds hfraction
            cases rest with
            | nil =>
                rw [List.append_nil] at htake hdrop
                simp [NumberLiteral.fractionText, htake, hdrop]
            | cons c cs =>
                obtain ⟨-, -, he, hE⟩ := hrest c rfl
                simp [NumberLiteral.fractionText, htake, hdrop, he, hE]
    | some e =>
        obtain ⟨below, digits⟩ := e
        obtain ⟨hdigits, hall⟩ := hexponent below digits rfl
        obtain ⟨htakeE, hdropE⟩ := Decimal.takeWhile_dropWhile_digits hall hrest.isDigit
        simp only [NumberLiteral.exponentText, List.cons_append] at hpoint ⊢
        cases fraction with
        | nil => cases below <;> simp [NumberLiteral.fractionText, htakeE, hdropE, hdigits]
        | cons d ds =>
            obtain ⟨htake, hdrop⟩ := hpoint d ds hfraction
            cases below with
            | false =>
                rw [if_neg Bool.false_ne_true] at htake hdrop
                simp [NumberLiteral.fractionText, htake, hdrop, htakeE, hdropE, hdigits]
            | true =>
                rw [if_pos rfl] at htake hdrop
                simp [NumberLiteral.fractionText, htake, hdrop, htakeE, hdropE, hdigits]

end Document

/-! ## Written numbers -/

theorem isDigit_replicate_zero (n : Nat) :
    ∀ c ∈ List.replicate n '0', Decimal.isDigit c = true := by
  intro c hc
  rw [List.eq_of_mem_replicate hc]
  decide

namespace DecimalStyle

/-- The digits around a point are the text of a literal. -/
theorem exists_literal_positional (negative : Bool) {digits : List Char} (hne : digits ≠ [])
    (hdigits : ∀ c ∈ digits, Decimal.isDigit c = true) (exponent : Int) :
    ∃ l : NumberLiteral, l.negative = negative ∧ l.IsDigits ∧
      data.positionalDigits digits exponent = l.text := by
  unfold positionalDigits
  have hzeros : ∀ n, ∀ c ∈ List.replicate n '0' ++ digits, Decimal.isDigit c = true :=
    fun n => List.forall_mem_append.2 ⟨isDigit_replicate_zero n, hdigits⟩
  split
  · refine ⟨⟨negative, digits ++ List.replicate exponent.toNat '0', ['0'], none⟩, rfl,
      ⟨by simp [hne], List.forall_mem_append.2 ⟨hdigits, isDigit_replicate_zero _⟩,
        by simp; decide, by simp⟩, ?_⟩
    simp [NumberLiteral.text, NumberLiteral.fractionText, NumberLiteral.exponentText, data]
  · next hexponent =>
    dsimp only
    generalize hplaces : (-exponent).toNat = places
    split
    · obtain ⟨d, ds, hcons⟩ := List.exists_cons_of_ne_nil
        (show List.replicate (places - digits.length) '0' ++ digits ≠ [] by simp [hne])
      have hall := hzeros (places - digits.length)
      rw [hcons] at hall ⊢
      exact ⟨⟨negative, ['0'], d :: ds, none⟩, rfl, ⟨by simp, by simp; decide, hall, by simp⟩,
        by simp [NumberLiteral.text, NumberLiteral.fractionText, NumberLiteral.exponentText]⟩
    · next hlong =>
      obtain ⟨d, ds, hcons⟩ := List.exists_cons_of_ne_nil
        (show digits.drop (digits.length - places) ≠ [] by simp; omega)
      have hdrop : ∀ c ∈ digits.drop (digits.length - places), Decimal.isDigit c = true :=
        fun c hc => hdigits c (List.mem_of_mem_drop hc)
      have htake : digits.take (digits.length - places) ≠ [] := by
        simp [hne]
        omega
      rw [hcons] at hdrop ⊢
      exact ⟨⟨negative, digits.take (digits.length - places), d :: ds, none⟩, rfl,
        ⟨htake, fun c hc => hdigits c (List.mem_of_mem_take hc), hdrop, by simp⟩,
        by simp [NumberLiteral.text, NumberLiteral.fractionText, NumberLiteral.exponentText]⟩

/-- A written exponent has a sign and digits. -/
theorem exists_exponentText (leading : Int) :
    ∃ below digits, exponentDigits leading = NumberLiteral.exponentText (some (below, digits)) ∧
      digits ≠ [] ∧ ∀ c ∈ digits, Decimal.isDigit c = true := by
  cases leading with
  | ofNat n =>
      exact ⟨false, Decimal.natDigits n,
        by simp [exponentDigits, NumberLiteral.exponentText, Decimal.intDigits],
        Decimal.natDigits_ne_nil n, fun c hc => Decimal.isDigit_of_mem_natDigits hc⟩
  | negSucc n =>
      refine ⟨true, Decimal.natDigits (n + 1), ?_, Decimal.natDigits_ne_nil _,
        fun c hc => Decimal.isDigit_of_mem_natDigits hc⟩
      rw [exponentDigits, if_neg (by omega)]
      rfl

/-- The digits before an exponent are the text of a literal, too. -/
theorem exists_literal_scientific (negative : Bool) {digits : List Char} (hne : digits ≠ [])
    (hdigits : ∀ c ∈ digits, Decimal.isDigit c = true) (leading : Int) :
    ∃ l : NumberLiteral, l.negative = negative ∧ l.IsDigits ∧
      scientificDigits digits leading = l.text := by
  obtain ⟨below, power, htext, hpower, hall⟩ := exists_exponentText leading
  have hexponent : ∀ b ds, some (below, power) = some (b, ds) →
      ds ≠ [] ∧ ∀ c ∈ ds, Decimal.isDigit c = true := by
    rintro b ds heq
    cases heq
    exact ⟨hpower, hall⟩
  cases digits with
  | nil => exact absurd rfl hne
  | cons d ds =>
      obtain ⟨hd, hds⟩ := List.forall_mem_cons.1 hdigits
      refine ⟨⟨negative, [d], ds, some (below, power)⟩, rfl,
        ⟨by simp, by simpa using hd, hds, hexponent⟩, ?_⟩
      cases ds with
      | nil => simp [scientificDigits, NumberLiteral.text, NumberLiteral.fractionText, htext]
      | cons d' ds => simp [scientificDigits, NumberLiteral.text, NumberLiteral.fractionText, htext]

/-- **The text of a magnitude** is the text of a literal. -/
theorem exists_literal_magnitude (negative : Bool) (significand : Nat) (exponent : Int) :
    ∃ l : NumberLiteral, l.negative = negative ∧ l.IsDigits ∧
      data.magnitude significand exponent = l.text := by
  have hne := Decimal.natDigits_ne_nil (Double.shortest significand exponent).digits
  have hdigits : ∀ c ∈ Decimal.natDigits (Double.shortest significand exponent).digits,
      Decimal.isDigit c = true := fun c hc => Decimal.isDigit_of_mem_natDigits hc
  unfold magnitude
  rw [show data.positional = some (-5, 15) from rfl]
  dsimp only
  split
  · exact exists_literal_positional negative hne hdigits _
  · exact exists_literal_scientific negative hne hdigits _

end DecimalStyle

namespace Number

/-- The sign that stands before a literal. -/
def signText (negative : Bool) : List Char := if negative then ['-'] else []

/-- The number is an integer or a finite double. -/
def IsFinite : Number → Prop
  | .int _ => True
  | .double x => x.isFinite = true

/-- The literal of an integer. -/
def intLiteral (n : Int) : NumberLiteral :=
  ⟨decide (n < 0), Decimal.natDigits n.natAbs, [], none⟩

theorem isDigits_intLiteral (n : Int) : (intLiteral n).IsDigits :=
  ⟨Decimal.natDigits_ne_nil _, fun _ hc => Decimal.isDigit_of_mem_natDigits hc,
    fun _ hc => (by cases hc), fun _ _ h => (by cases h)⟩

theorem writeNumber_int (n : Int) :
    Json.writeNumber (.int n) = signText (intLiteral n).negative ++ (intLiteral n).text := by
  cases n with
  | ofNat n => simp [Json.writeNumber, Decimal.intDigits, signText, intLiteral, NumberLiteral.text,
      NumberLiteral.fractionText, NumberLiteral.exponentText]
  | negSucc n => simp [Json.writeNumber, Decimal.intDigits, signText, intLiteral,
      NumberLiteral.text, NumberLiteral.fractionText, NumberLiteral.exponentText]

/-- **Every number that is written has the text of a literal.** -/
theorem exists_literal {n : Number} (hn : n.IsFinite) :
    ∃ l : NumberLiteral, l.IsDigits ∧ Json.writeNumber n = signText l.negative ++ l.text := by
  cases n with
  | int n => exact ⟨intLiteral n, isDigits_intLiteral n, writeNumber_int n⟩
  | double x =>
      cases x with
      | finite negative significand exponent =>
          obtain ⟨l, rfl, hl, htext⟩ :=
            DecimalStyle.exists_literal_magnitude negative significand exponent
          exact ⟨l, hl, congrArg (signText l.negative ++ ·) htext⟩
      | infinite negative => cases hn
      | nan => cases hn

/-! ## Integers -/

/-- The number that digits spell after others. -/
def spelled (significand : Nat) (ds : List Char) : Nat :=
  ds.foldl (fun n c => 10 * n + Decimal.digitValue c) significand

theorem le_spelled (significand : Nat) (ds : List Char) : significand ≤ spelled significand ds := by
  induction ds generalizing significand with
  | nil => exact Nat.le_refl _
  | cons c ds ih =>
      have hrest := ih (10 * significand + Decimal.digitValue c)
      show significand ≤ spelled (10 * significand + Decimal.digitValue c) ds
      omega

/-- Digits are taken as long as their number fits 64 bits. -/
theorem absorb_of_lt {ds : List Char} {significand taken : Nat}
    (h : spelled significand ds < UInt64.size) :
    absorb significand taken ds = (spelled significand ds, taken + ds.length, []) := by
  induction ds generalizing significand taken with
  | nil => rfl
  | cons c ds ih =>
      have hspelled : spelled significand (c :: ds) =
          spelled (10 * significand + Decimal.digitValue c) ds := rfl
      rw [hspelled] at h ⊢
      have hnext : 10 * significand + Decimal.digitValue c < UInt64.size :=
        Nat.lt_of_le_of_lt (le_spelled _ ds) h
      rw [absorb, if_pos hnext, ih h, List.length_cons]
      simp only [Nat.add_assoc, Nat.add_comm 1]

/-- **An integer of 64 bits, signed or not, is read back.** -/
theorem ofLiteral_intLiteral {n : Int} (hmin : Json.minInt64 ≤ n) (hmax : n ≤ Json.maxNat64) :
    ofLiteral (intLiteral n) = some (.int n) := by
  unfold Json.minInt64 at hmin
  unfold Json.maxNat64 at hmax
  have hspelled : spelled 0 (Decimal.natDigits n.natAbs) = n.natAbs :=
    Decimal.ofDigits_natDigits n.natAbs
  have habsorb : absorb 0 0 (Decimal.natDigits n.natAbs) =
      (n.natAbs, 0 + (Decimal.natDigits n.natAbs).length, []) := by
    rw [absorb_of_lt, hspelled]
    rw [hspelled]
    show n.natAbs < 18446744073709551616
    omega
  unfold ofLiteral intLiteral
  dsimp only
  rw [habsorb]
  dsimp only [List.isEmpty_nil, Option.isNone_none, Bool.and_self, if_true]
  by_cases hneg : n < 0
  · have hbounds : (0 < n.natAbs && decide (Json.minInt64 ≤ -(n.natAbs : Int))) = true := by
      rw [Bool.and_eq_true, decide_eq_true_eq, decide_eq_true_eq, Json.minInt64]
      omega
    have hsign : (!decide (n < 0)) = false := by simp [hneg]
    have habs : -(n.natAbs : Int) = n := by omega
    rw [hbounds, hsign, habs]
    rfl
  · have hsign : (!decide (n < 0)) = true := by simp [hneg]
    have habs : (n.natAbs : Int) = n := by omega
    rw [hsign, habs]
    rfl

/-! ## Numbers at the start of a text -/

theorem parseValue_minus (fuel : Nat) (cs : List Char) :
    parseValue (fuel + 1) ('-' :: cs) = Parsed.scalar .number (parseNumber true cs) := rfl

theorem isBlank_of_isDigit {c : Char} (h : Decimal.isDigit c = true) : isBlank c = false := by
  simp only [Decimal.isDigit, Bool.and_eq_true, decide_eq_true_eq] at h
  have hne : ∀ d : Char, ¬ '0' ≤ d → (c == d) = false := by
    intro d hd
    refine beq_eq_false_iff_ne.2 ?_
    rintro rfl
    exact hd h.1
  simp [isBlank, hne ' ' (by decide), hne '\n' (by decide), hne '\t' (by decide),
    hne '\r' (by decide)]

/-- A digit begins nothing but a number. -/
theorem parseValue_digit {c : Char} (h : Decimal.isDigit c = true) (fuel : Nat) (cs : List Char) :
    parseValue (fuel + 1) (c :: cs) = Parsed.scalar .number (parseNumber false (c :: cs)) := by
  have hskip : skipBlanks (c :: cs) = c :: cs := by
    rw [skipBlanks, isBlank_of_isDigit h]
    rfl
  have hne : ∀ d : Char, Decimal.isDigit d = false → c ≠ d := by
    rintro d hd rfl
    rw [hd] at h
    cases h
  rw [parseValue, hskip]
  simp [hne 'n' (by decide), hne 't' (by decide), hne 'f' (by decide), hne '"' (by decide),
    hne '-' (by decide), hne '[' (by decide), hne '\x7b' (by decide), h]

/-- **A number at the start of a text** is read by its literal. -/
theorem parseValue_number {n : Number} {l : NumberLiteral} (hl : l.IsDigits)
    (htext : Json.writeNumber n = signText l.negative ++ l.text) {rest : List Char}
    (hrest : EndsNumber rest) (fuel : Nat) :
    parseValue (fuel + 1) (Json.writeNumber n ++ rest) =
      Parsed.scalar .number (if l.hasLeadingZero then .error (.malformed "number")
        else .ok (Number.ofLiteral l, rest)) := by
  rw [htext, List.append_assoc, ← parseNumber_text hl hrest]
  cases hnegative : l.negative with
  | true => exact parseValue_minus fuel _
  | false =>
      obtain ⟨d, ds, hwhole⟩ := List.exists_cons_of_ne_nil hl.whole_ne_nil
      have hcons : l.text ++ rest = d :: (ds ++ (NumberLiteral.fractionText l.fraction ++
          NumberLiteral.exponentText l.exponent) ++ rest) := by
        rw [NumberLiteral.text, hwhole]
        rfl
      rw [hcons]
      exact parseValue_digit (hl.whole d (by rw [hwhole]; exact List.mem_cons_self)) fuel _

end Number

end StoreGate
