import Mathlib.Logic.Basic
import Mathlib.Tactic.ByContra
import StoreGate.Proofs.Decimal.Saturation
import StoreGate.Query.Result

/-!
# Statistics and the names they go by

A statistic goes by several names. The first that is present is chosen, and then what stands under
it is read. So a statistic is missed if nothing that can be read stands under the first name,
whatever stands under the others.

* `QueryStats.carried`, `QueryStats.firstOf_of_carried` — what a name holds, and what is chosen.
* `QueryStats.integer?`, `QueryStats.count?_eq_some_iff` — the values that are integers.
* `QueryStats.Extracts` — nothing that the properties carry is missed.
* `statistics_extracted_iff` — the properties of which nothing is missed.
* `null_statistic_hides` — a statistic that is missed.
-/

namespace StoreGate

namespace QueryStats

/-! ## Names -/

/-- What is read under the first of the names under which anything can be read. -/
def carried {α : Type} (read : Json → Option α) (property : Property) (names : List String) :
    Option α :=
  names.findSome? fun name => (property.get? name).bind read

variable {property : Property}

section Read

variable {α : Type} {read : Json → Option α} {names : List String}

/-- **The name that is present first** holds the value that is carried first, or nothing that can be
read. -/
theorem firstOf_of_carried {v : α} (h : carried read property names = some v) :
    ∃ j, firstOf property names = some j ∧ (read j = some v ∨ read j = none) := by
  induction names with
  | nil => cases h
  | cons name names ih =>
    unfold carried firstOf at *
    rw [List.findSome?_cons] at h ⊢
    cases hname : property.get? name with
    | none =>
      rw [hname] at h
      exact ih h
    | some j =>
      refine ⟨j, rfl, ?_⟩
      rw [hname, Option.bind_some] at h
      cases hread : read j with
      | none => exact .inr rfl
      | some w =>
        rw [hread] at h
        exact .inl h

/-- What is chosen and read is carried. -/
theorem carried_isSome {j : Json} {v : α} (hj : firstOf property names = some j)
    (hread : read j = some v) : carried read property names = some v := by
  induction names with
  | nil => cases hj
  | cons name names ih =>
    unfold carried firstOf at *
    rw [List.findSome?_cons] at hj ⊢
    cases hname : property.get? name with
    | none =>
      rw [hname] at hj
      exact ih hj
    | some k =>
      rw [hname] at hj
      cases hj
      rw [Option.bind_some, hread]

end Read

/-! ## Values -/

/-- An integer, the nearest of 64 bits, or the text of one of 64 bits. -/
def integer? : Json → Option Int
  | .num (.int n) => some (Double.clamp Json.minInt64 Json.maxInt64 n)
  | .str s => Decimal.readIntIn? Json.minInt64 Json.maxInt64 (Text.trimChars s.toList)
  | _ => none

theorem integer?_of_mem {n : Int} (hlow : Json.minInt64 ≤ n) (hhigh : n ≤ Json.maxInt64) :
    integer? (.num (.int n)) = some n := by
  rw [integer?, Double.clamp, Int.min_eq_right hhigh, Int.max_eq_right hlow]

theorem count?_int (n : Int) :
    count? (.num (.int n)) = some (Double.clamp Json.minInt64 Json.maxInt64 n) := by
  have hbound : 2 ^ 63 = 2 ^ (10 + 53) := rfl
  have hmin : Json.minInt64 = -(2 ^ 63 : Nat) := rfl
  have hmax : Json.maxInt64 = (2 ^ 63 : Nat) - 1 := rfl
  have hcount : count? (.num (.int n)) =
      if Json.minInt64 ≤ n ∧ n ≤ Json.maxInt64 then some n
      else some ((Double.ofInt n).truncated Json.minInt64 Json.maxInt64) := rfl
  rw [hcount]
  split
  · next h => exact (integer?_of_mem h.1 h.2).symm
  · next h =>
    refine congrArg some ?_
    rcases Int.lt_or_le n Json.minInt64 with hlow | hlow
    · rw [Double.truncated_ofInt_of_le hbound (by omega) (by omega), Double.clamp]
      omega
    · rw [Double.truncated_ofInt_of_ge hbound (by omega) (by omega) (by omega), Double.clamp]
      omega

/-- **What counts** is an integer, or a number with a fraction or an exponent. -/
theorem count?_eq_some_iff {j : Json} {n : Int} : count? j = some n ↔
    integer? j = some n ∨
      ∃ x, j = .num (.double x) ∧ x.truncated Json.minInt64 Json.maxInt64 = n := by
  cases j with
  | num number =>
    cases number with
    | int m => rw [count?_int]; simp [integer?]
    | double x => simp [count?, integer?]
  | str s => simp [count?, integer?]
  | null | bool | arr | obj => simp [count?, integer?]

/-! ## Statistics -/

/-- The statistics that are integers. -/
inductive Count where
  | scanRows
  | scanBytes
  | peakMemory
  | affectedRows
deriving DecidableEq

namespace Count

/-- The names of a statistic. -/
def names : Count → List String
  | scanRows => ["ScanRows", "scanRows", "scan_rows"]
  | scanBytes => ["ScanBytes", "scanBytes", "scan_bytes"]
  | peakMemory => ["PeakMemoryBytes", "peakMemoryBytes", "MemCostBytes"]
  | affectedRows => ["Affected Rows", "AffectedRows"]

def field (s : QueryStats) : Count → Option Int
  | scanRows => s.scanRows
  | scanBytes => s.scanBytes
  | peakMemory => s.peakMemoryBytes
  | affectedRows => s.affectedRows

end Count

def durationNames : List String := ["Time", "time", "Duration"]

theorem field_ofProperty (property : Property) (c : Count) :
    c.field (ofProperty property) = (firstOf property c.names).bind count? := by
  cases c <;> rfl

theorem durationMs_ofProperty (property : Property) :
    (ofProperty property).durationMs = (firstOf property durationNames).bind duration? :=
  rfl

theorem ofProperty?_eq_none : ofProperty? property = none ↔ ofProperty property = {} := by
  unfold ofProperty?
  dsimp only
  split
  · next h => simp [h]
  · next h => simp [h]

/-- Every integer that is carried is extracted, and if there are no statistics, then none are
carried. -/
structure Extracts (property : Property) : Prop where
  integers : ∀ (c : Count) (n : Int), carried integer? property c.names = some n →
    c.field (ofProperty property) = some n
  integers_none : ofProperty? property = none → ∀ c : Count,
    carried integer? property c.names = none
  duration_none : ofProperty? property = none → carried duration? property durationNames = none
  message_none : ofProperty? property = none → (property.get? "Time").bind Json.str? = none

/-- No integer stands under the name that is present first, and the number there, if there is one,
is not the integer that is carried. -/
def Overlooked (property : Property) (c : Count) : Prop :=
  ∃ j n, firstOf property c.names = some j ∧ integer? j = none ∧
    carried integer? property c.names = some n ∧ count? j ≠ some n

/-- No duration stands under the name that is present first, and one under another. -/
def DurationOverlooked (property : Property) : Prop :=
  ∃ j, firstOf property durationNames = some j ∧ duration? j = none ∧
    carried duration? property durationNames ≠ none

theorem field_of_carried {c : Count} {n : Int} (hnot : ¬ Overlooked property c)
    (h : carried integer? property c.names = some n) : c.field (ofProperty property) = some n := by
  obtain ⟨j, hj, hread⟩ := firstOf_of_carried h
  rw [field_ofProperty, hj, Option.bind_some]
  rcases hread with hread | hread
  · exact count?_eq_some_iff.2 (.inl hread)
  · by_contra hcount
    exact hnot ⟨j, n, hj, hread, h, hcount⟩

theorem durationMs_of_carried {n : Nat} (hnot : ¬ DurationOverlooked property)
    (h : carried duration? property durationNames = some n) :
    (ofProperty property).durationMs = some n := by
  obtain ⟨j, hj, hread⟩ := firstOf_of_carried h
  rw [durationMs_ofProperty, hj, Option.bind_some]
  rcases hread with hread | hread
  · exact hread
  · exact absurd ⟨j, hj, hread, by simp [h]⟩ hnot

end QueryStats

open QueryStats

/-- **Statistics and what is carried.** What is extracted as an integer is carried under one of its
names. Nothing that is carried is missed exactly if no integer is overlooked for what stands under a
name before its own, and no duration, if there is nothing else. -/
theorem statistics_extracted_iff (property : Property) :
    (∀ (c : Count) (n : Int), c.field (ofProperty property) = some n →
      carried count? property c.names = some n) ∧
    (Extracts property ↔ (∀ c, ¬ Overlooked property c) ∧
      (ofProperty? property = none → ¬ DurationOverlooked property)) := by
  refine ⟨fun c n h => ?_, fun h => ⟨?_, ?_⟩, fun ⟨hcounts, hduration⟩ => ⟨?_, ?_, ?_, ?_⟩⟩
  · rw [field_ofProperty] at h
    obtain ⟨j, hj, hread⟩ := Option.bind_eq_some_iff.1 h
    exact carried_isSome hj hread
  · rintro c ⟨j, n, hj, -, hcarried, hcount⟩
    have hfield := h.integers c n hcarried
    rw [field_ofProperty, hj] at hfield
    exact hcount hfield
  · rintro hnone ⟨j, -, -, hcarried⟩
    exact hcarried (h.duration_none hnone)
  · exact fun c n => field_of_carried (hcounts c)
  · intro hnone c
    rw [ofProperty?_eq_none] at hnone
    by_contra hcarried
    obtain ⟨n, hn⟩ := Option.ne_none_iff_exists'.1 hcarried
    have hfield := field_of_carried (hcounts c) hn
    rw [hnone] at hfield
    cases c <;> cases hfield
  · intro hnone
    by_contra hcarried
    obtain ⟨n, hn⟩ := Option.ne_none_iff_exists'.1 hcarried
    have hfield := durationMs_of_carried (hduration hnone) hn
    rw [ofProperty?_eq_none.1 hnone] at hfield
    cases hfield
  · intro hnone
    have hmessage : (ofProperty property).message = none := by rw [ofProperty?_eq_none.1 hnone]
    exact Option.map_eq_none_iff.1 hmessage

/-- Nothing under one name, and an integer under the next. -/
theorem null_statistic_hides :
    carried integer? (SortedMap.ofList [("ScanRows", .null), ("scanRows", .int 7)])
        Count.scanRows.names = some 7 ∧
      ofProperty? (SortedMap.ofList [("ScanRows", .null), ("scanRows", .int 7)]) = none := by
  decide

end StoreGate
