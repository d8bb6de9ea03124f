import Mathlib
import StoreGate.Http.Header
import StoreGate.Proofs.SortedMap
import StoreGate.Text.Blank

/-!
# Fields under a name

A name of a field means the same in every case. Fields are kept by lowered names, so that a request
has one field of a name at most, however the name is written.

* `Headers.under` — every value that is sent under a name, in whatever case.
* `Headers.Lowered.under_eq` — fields that are kept by lowered names have one value of a name at
  most.
* `Headers.get?_setAll`, `Headers.get?_overlay` — a field that is set again replaces the one before.
-/

namespace StoreGate

namespace Text

@[simp] theorem lowerAscii_lowerAscii (s : String) :
    lowerAscii (lowerAscii s) = lowerAscii s := by
  simp [lowerAscii, Function.comp_def]

end Text

/-- A name is kept in lower case. -/
theorem HeaderName.ofText?_eq_some {s name : String} (h : ofText? s = some name) :
    name = Text.lowerAscii s := by
  unfold ofText? at h
  dsimp only at h
  split at h
  · cases h
  · exact (Option.some.inj h).symm

namespace Headers

/-! ## Names in lower case -/

/-- All the names are in lower case. -/
def Lowered (headers : Headers) : Prop := ∀ f ∈ headers.entries, Text.lowerAscii f.1 = f.1

/-- Every value that is sent under a name, in whatever case the name is written. -/
def under (headers : Headers) (name : String) : List String :=
  (headers.entries.filter fun f => decide (Text.lowerAscii f.1 = Text.lowerAscii name)).map (·.2)

namespace Lowered

theorem empty : Lowered (.empty : Headers) := by
  intro f hf
  cases hf

theorem insert {headers : Headers} (h : headers.Lowered) {name : String} (value : String)
    (hname : Text.lowerAscii name = name) : Lowered (headers.insert name value) := by
  intro f hf
  rcases SortedMap.mem_insertEntry hf with rfl | hf
  · exact hname
  · exact h f hf

theorem setAll {headers : Headers} {fields : List (String × String)} (h : headers.Lowered)
    (hfields : ∀ f ∈ fields, Text.lowerAscii f.1 = f.1) : Lowered (headers.setAll fields) := by
  induction fields generalizing headers with
  | nil => exact h
  | cons f rest ih =>
      obtain ⟨hf, hrest⟩ := List.forall_mem_cons.1 hfields
      exact ih (h.insert f.2 hf) hrest

theorem overlay {upper lower : Headers} (hupper : upper.Lowered) (hlower : lower.Lowered) :
    Lowered (upper.overlay lower) :=
  hlower.setAll hupper

/-- **One value of a name at most**: what the fields hold at its lowered form. -/
theorem under_eq {headers : Headers} (h : headers.Lowered) (name : String) :
    headers.under name = (headers.get? (Text.lowerAscii name)).toList := by
  have hfilter : (headers.entries.filter fun f =>
      decide (Text.lowerAscii f.1 = Text.lowerAscii name)) =
      headers.entries.filter fun f => decide (f.1 = Text.lowerAscii name) :=
    List.filter_congr fun f hf => by rw [h f hf]
  rw [← SortedMap.valuesOf_entries, under, SortedMap.valuesOf, hfilter]

end Lowered

/-! ## Fields that are set again -/

/-- Of the fields that are set under a name the last one stays. -/
theorem get?_setAll (headers : Headers) (fields : List (String × String)) (name : String) :
    (headers.setAll fields).get? name =
      (SortedMap.lastOf fields name).or (headers.get? name) :=
  SortedMap.get?_foldl_insert fields headers name

/-- Of two fields with one name the upper one stays. -/
theorem get?_overlay (upper lower : Headers) (name : String) :
    (upper.overlay lower).get? name = (upper.get? name).or (lower.get? name) := by
  rw [overlay, get?_setAll, SortedMap.lastOf_entries]

end Headers

end StoreGate
