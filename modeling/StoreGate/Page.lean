import StoreGate.Json.Decode

/-!
# Pages of a list

A page request names a page, counted from one, and a page size. Zero stands for the first page and
for the default size.

* `PageRequest.normalized` — the request with its zeros filled in.
* `PageRequest.cut` — the items of the page: those with an index from `offset` to
  `offset + size`, as far as the list reaches.
-/

namespace StoreGate

structure PageRequest where
  page : UInt32
  size : UInt32
deriving DecidableEq, Repr

namespace PageRequest

def defaultSize : UInt32 := 10

instance : Inhabited PageRequest := ⟨1, defaultSize⟩

/-- Zero stands for the first page and for the default size. -/
def normalized (r : PageRequest) : PageRequest :=
  ⟨if r.page = 0 then 1 else r.page, if r.size = 0 then defaultSize else r.size⟩

/-- A request in normal form. -/
def new (page size : UInt32) : PageRequest := normalized ⟨page, size⟩

/-- The greatest index of a list. -/
def greatestIndex : Nat := UInt64.size - 1

/-- The index of the first item on the page. -/
def offset (r : PageRequest) : Nat :=
  let r := r.normalized
  min greatestIndex ((r.page.toNat - 1) * r.size.toNat)

/-- The items of the page; a page past the end is empty. -/
def cut {α : Type} (r : PageRequest) (items : List α) : List α :=
  (items.drop r.offset).take r.normalized.size.toNat

theorem page_normalized_pos (r : PageRequest) : 0 < r.normalized.page.toNat := by
  obtain ⟨page, size⟩ := r
  simp only [normalized]
  split
  · decide
  · rename_i h
    have : page.toNat ≠ 0 := fun h' => h (UInt32.toNat_inj.1 h')
    omega

theorem size_normalized_pos (r : PageRequest) : 0 < r.normalized.size.toNat := by
  obtain ⟨page, size⟩ := r
  simp only [normalized]
  split
  · decide
  · rename_i h
    have : size.toNat ≠ 0 := fun h' => h (UInt32.toNat_inj.1 h')
    omega

/-! ## As data -/

def json (r : PageRequest) : Json :=
  Json.object [("page", Json.nat r.page.toNat), ("page_size", Json.nat r.size.toNat)]

def word32 : Decoder UInt32 := fun room d =>
  (Decode.natUpTo (UInt32.size - 1) room d).map UInt32.ofNat

/-- How a page request is read. -/
def layout : List (Decode.Field PageRequest) := [
  Decode.field ["page"] .defaulted word32 fun v r => { r with page := v },
  Decode.field ["page_size"] .defaulted word32 fun v r => { r with size := v }]

def decode : Decoder PageRequest := Decode.record default layout

end PageRequest

/-- The page that a result shows, and the number of items it was cut from. -/
structure PageEcho where
  page : UInt32
  size : UInt32
  total : Nat
deriving DecidableEq, Repr

namespace PageEcho

def json (e : PageEcho) : Json :=
  Json.object [("page", Json.nat e.page.toNat), ("page_size", Json.nat e.size.toNat),
    ("total", Json.nat e.total)]

end PageEcho

end StoreGate
