import Mathlib.Data.List.Basic
import StoreGate.Page

/-!
# What is on a page

A page holds the items with an index from where it begins to where the next one begins. So the pages
of one size, one after another, give the list back from its beginning, and no item is on two pages.

* `PageRequest.number`, `PageRequest.capacity` — the number of a page and the most items on it.
* `PageRequest.Covers` — the indices of a page.
* `PageRequest.offset_eq`, `PageRequest.toNat_wordOffset` — a page begins where it should, and words
  of 64 bits have room for that.
* `PageRequest.cut_eq_filter` — a page is made of the items whose indices it covers.
* `PageRequest.flatMap_cut`, `PageRequest.existsUnique_covers` — the first pages, together and one by
  one.
-/

namespace StoreGate

namespace PageRequest

variable (r : PageRequest) {α : Type}

/-! ## Numbers of a page -/

/-- The number of the page, counted from one. -/
def number : Nat := if r.page = 0 then 1 else r.page.toNat

/-- The most items on the page. -/
def capacity : Nat := if r.size = 0 then 10 else r.size.toNat

/-- The page covers the indices from the end of the page before it to its own end. -/
def Covers (index : Nat) : Prop :=
  (r.number - 1) * r.capacity ≤ index ∧ index < r.number * r.capacity

instance : DecidablePred r.Covers := fun _ => inferInstanceAs (Decidable (_ ∧ _))

/-- Where the page begins, computed on words of 64 bits, which wrap around. -/
def wordOffset : UInt64 := (r.normalized.page.toUInt64 - 1) * r.normalized.size.toUInt64

/-- The pages of the same size with the numbers from one to `count`. -/
def firstPages (count : Nat) : List PageRequest :=
  (List.range count).map fun before => { r with page := UInt32.ofNat (before + 1) }

theorem toNat_page_normalized : r.normalized.page.toNat = r.number := by
  unfold normalized number
  dsimp only
  split
  · rfl
  · rfl

theorem toNat_size_normalized : r.normalized.size.toNat = r.capacity := by
  unfold normalized capacity
  dsimp only
  split
  · rfl
  · rfl

theorem number_pos : 0 < r.number := r.toNat_page_normalized ▸ r.page_normalized_pos

theorem capacity_pos : 0 < r.capacity := r.toNat_size_normalized ▸ r.size_normalized_pos

theorem number_lt : r.number < UInt32.size := r.toNat_page_normalized ▸ UInt32.toNat_lt_size _

theorem capacity_lt : r.capacity < UInt32.size := r.toNat_size_normalized ▸ UInt32.toNat_lt_size _

theorem normalized_normalized : r.normalized.normalized = r.normalized := by
  have hpage : r.normalized.page ≠ 0 := by
    intro hzero
    have hpos := r.page_normalized_pos
    rw [hzero] at hpos
    cases hpos
  have hsize : r.normalized.size ≠ 0 := by
    intro hzero
    have hpos := r.size_normalized_pos
    rw [hzero] at hpos
    cases hpos
  rw [normalized, if_neg hpage, if_neg hsize]

theorem number_normalized : r.normalized.number = r.number := by
  rw [← toNat_page_normalized, normalized_normalized, toNat_page_normalized]

theorem capacity_normalized : r.normalized.capacity = r.capacity := by
  rw [← toNat_size_normalized, normalized_normalized, toNat_size_normalized]

/-! ## Where a page begins -/

/-- **Before a page** there are never more items than 64 bits can count. -/
theorem before_lt : (r.number - 1) * r.capacity < UInt64.size := by
  have hnumber : r.number - 1 ≤ 4294967294 := by
    have hlt : r.number < 4294967296 := r.number_lt
    omega
  have hcapacity : r.capacity ≤ 4294967295 := Nat.le_of_lt_succ r.capacity_lt
  calc (r.number - 1) * r.capacity
      ≤ 4294967294 * 4294967295 := Nat.mul_le_mul hnumber hcapacity
    _ < UInt64.size := by decide

theorem offset_eq : r.offset = (r.number - 1) * r.capacity := by
  have hle : (r.number - 1) * r.capacity ≤ greatestIndex := Nat.le_pred_of_lt r.before_lt
  rw [offset, toNat_page_normalized, toNat_size_normalized, Nat.min_eq_right hle]

theorem toNat_wordOffset : r.wordOffset.toNat = (r.number - 1) * r.capacity := by
  have hone : (1 : UInt64) ≤ r.normalized.page.toUInt64 := by
    rw [UInt64.le_iff_toNat_le, UInt32.toNat_toUInt64, toNat_page_normalized]
    exact r.number_pos
  rw [wordOffset, UInt64.toNat_mul, UInt64.toNat_sub_of_le _ _ hone, UInt32.toNat_toUInt64,
    UInt32.toNat_toUInt64, toNat_page_normalized, toNat_size_normalized]
  exact Nat.mod_eq_of_lt r.before_lt

/-! ## One page -/

theorem cut_eq (items : List α) :
    r.cut items = (items.drop ((r.number - 1) * r.capacity)).take r.capacity := by
  rw [cut, offset_eq, toNat_size_normalized]

theorem cut_normalized (items : List α) : r.normalized.cut items = r.cut items := by
  rw [cut_eq, cut_eq, number_normalized, capacity_normalized]

/-- Items by index, of a list that begins at any index. -/
theorem map_filter_zipIdx (first last : Nat) (items : List α) (start : Nat) :
    ((items.zipIdx start).filter fun e => decide (first ≤ e.2 ∧ e.2 < last)).map Prod.fst =
      (items.drop (first - start)).take (last - max first start) := by
  induction items generalizing start with
  | nil => simp
  | cons item items ih =>
      rw [List.zipIdx_cons, List.filter_cons]
      by_cases hbefore : start < first
      · -- not there yet
        have hdrop : first - start = first - (start + 1) + 1 := by omega
        rw [if_neg (by simp; omega), ih, hdrop, List.drop_succ_cons]
        congr 1
        omega
      · have hdrop : first - start = 0 := by omega
        rw [hdrop, List.drop_zero]
        by_cases hlast : start < last
        · have htake : last - max first start = last - max first (start + 1) + 1 := by omega
          have hrest : first - (start + 1) = 0 := by omega
          rw [if_pos (by simp; omega), List.map_cons, ih, htake, List.take_succ_cons, hrest,
            List.drop_zero]
        · -- past the end
          have htake : last - max first start = 0 := by omega
          have hrest : last - max first (start + 1) = 0 := by omega
          rw [if_neg (by simp; omega), ih, htake, hrest, List.take_zero, List.take_zero]

/-- **A page** is made of the items whose indices it covers. -/
theorem cut_eq_filter (items : List α) :
    r.cut items = (items.zipIdx.filter fun e => decide (r.Covers e.2)).map Prod.fst := by
  have hend : r.number * r.capacity - (r.number - 1) * r.capacity = r.capacity := by
    rw [← Nat.sub_mul, Nat.sub_sub_self r.number_pos, Nat.one_mul]
  have hfilter := map_filter_zipIdx ((r.number - 1) * r.capacity) (r.number * r.capacity) items 0
  rw [Nat.max_zero, Nat.sub_zero, hend] at hfilter
  rw [cut_eq, ← hfilter]
  rfl

theorem cut_eq_nil_iff (items : List α) :
    r.cut items = [] ↔ items.length ≤ (r.number - 1) * r.capacity := by
  rw [cut_eq, List.take_eq_nil_iff, List.drop_eq_nil_iff]
  exact or_iff_right (Nat.ne_of_gt r.capacity_pos)

/-! ## The first pages -/

variable {count : Nat}

theorem number_ofNat {before : Nat} (h : before + 1 < UInt32.size) :
    ({ r with page := UInt32.ofNat (before + 1) } : PageRequest).number = before + 1 := by
  have hpage : (UInt32.ofNat (before + 1)).toNat = before + 1 := UInt32.toNat_ofNat_of_lt h
  have hne : UInt32.ofNat (before + 1) ≠ 0 := by
    intro hzero
    rw [hzero] at hpage
    cases hpage
  rw [number, if_neg hne, hpage]

theorem mem_firstPages {p : PageRequest} : p ∈ r.firstPages count ↔
    ∃ before < count, p = { r with page := UInt32.ofNat (before + 1) } := by
  simp only [firstPages, List.mem_map, List.mem_range, eq_comm]

/-- **The first pages**, one after another, are the list from its beginning. -/
theorem flatMap_cut (items : List α) (h : count < UInt32.size) :
    (r.firstPages count).flatMap (fun p => p.cut items) = items.take (count * r.capacity) := by
  induction count with
  | zero => simp [firstPages]
  | succ before ih =>
      have hpage : ({ r with page := UInt32.ofNat (before + 1) } : PageRequest).cut items =
          (items.drop (before * r.capacity)).take r.capacity := by
        rw [cut_eq, number_ofNat r h]
        rfl
      have hsplit : r.firstPages (before + 1) =
          r.firstPages before ++ [{ r with page := UInt32.ofNat (before + 1) }] := by
        rw [firstPages, List.range_succ, List.map_append]
        rfl
      rw [hsplit, List.flatMap_append, List.flatMap_singleton, ih (Nat.lt_of_succ_lt h), hpage,
        Nat.succ_mul, List.take_add]

/-- **Every index** of the first pages is on one of them, and on one only. -/
theorem existsUnique_covers (h : count < UInt32.size) {index : Nat}
    (hindex : index < count * r.capacity) : ∃! p, p ∈ r.firstPages count ∧ p.Covers index := by
  have hcovers : ∀ before < count,
      ({ r with page := UInt32.ofNat (before + 1) } : PageRequest).Covers index ↔
        before = index / r.capacity := by
    intro before hbefore
    unfold Covers
    rw [number_ofNat r (by omega), Nat.add_sub_cancel, eq_comm, Nat.div_eq_iff r.capacity_pos]
    constructor
    · rintro ⟨hfirst, hlast⟩
      exact ⟨hfirst, by rw [Nat.succ_mul] at hlast; exact Nat.le_pred_of_lt hlast⟩
    · rintro ⟨hfirst, hlast⟩
      have hpos := r.capacity_pos
      refine ⟨hfirst, ?_⟩
      show index < (before + 1) * r.capacity
      rw [Nat.succ_mul]
      omega
  have hless : index / r.capacity < count := Nat.div_lt_of_lt_mul (by rwa [Nat.mul_comm])
  refine ⟨{ r with page := UInt32.ofNat (index / r.capacity + 1) }, ⟨?_, ?_⟩, ?_⟩
  · exact r.mem_firstPages.2 ⟨_, hless, rfl⟩
  · exact (hcovers _ hless).2 rfl
  · rintro p ⟨hmem, hp⟩
    obtain ⟨before, hbefore, rfl⟩ := r.mem_firstPages.1 hmem
    rw [(hcovers before hbefore).1 hp]

end PageRequest

end StoreGate
