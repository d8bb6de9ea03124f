/-!
# Maps kept in key order

A `SortedMap` is an association list whose keys strictly increase, so that two maps with the same
entries are equal and the listing order is the order of the keys.

* `SortedMap.get?_insert_self`, `SortedMap.get?_insert_of_ne` — what a written key and every other
  key hold afterwards.
* `SortedMap.mem_entries_iff` — the listing and the look-up agree.
-/

namespace StoreGate

/-- A strict total order on keys. -/
class KeyOrder (κ : Type) where
  before : κ → κ → Bool
  irrefl : ∀ a, before a a = false
  trans : ∀ a b c, before a b = true → before b c = true → before a c = true
  total : ∀ a b, before a b = true ∨ a = b ∨ before b a = true

instance : KeyOrder String where
  before a b := decide (a < b)
  irrefl a := by simp
  trans a b c hab hbc := by
    simp only [decide_eq_true_eq] at *
    exact String.lt_trans hab hbc
  total a b := by
    simp only [decide_eq_true_eq]
    by_cases h : a < b
    · exact .inl h
    · by_cases h' : b < a
      · exact .inr (.inr h')
      · exact .inr (.inl (String.le_antisymm (String.not_lt.1 h') (String.not_lt.1 h)))

instance : KeyOrder Int where
  before a b := decide (a < b)
  irrefl a := by simp
  trans a b c hab hbc := by
    simp only [decide_eq_true_eq] at *
    omega
  total a b := by
    simp only [decide_eq_true_eq]
    omega

namespace SortedMap

/-! ## Entry lists -/

section Entries

variable {κ α : Type} [KeyOrder κ]

/-- The keys strictly increase. -/
def Increasing (entries : List (κ × α)) : Prop :=
  entries.Pairwise fun a b => KeyOrder.before a.1 b.1 = true

/-- Puts `value` at `key`, in place of what the key held. -/
def insertEntry (key : κ) (value : α) : List (κ × α) → List (κ × α)
  | [] => [(key, value)]
  | (k, v) :: rest =>
    if KeyOrder.before key k then (key, value) :: (k, v) :: rest
    else if KeyOrder.before k key then (k, v) :: insertEntry key value rest
    else (key, value) :: rest

/-- Reads a list of entries from left to right; the last value of a key stays. -/
def sortEntries (entries : List (κ × α)) : List (κ × α) :=
  entries.foldl (fun acc e => insertEntry e.1 e.2 acc) []

theorem mem_insertEntry {key : κ} {value : α} {e : κ × α} :
    ∀ {entries : List (κ × α)}, e ∈ insertEntry key value entries →
      e = (key, value) ∨ e ∈ entries
  | [], h => by simpa [insertEntry] using h
  | (k, v) :: rest, h => by
    unfold insertEntry at h
    split at h
    · simpa using h
    · split at h
      · rcases List.mem_cons.1 h with h | h
        · exact .inr (by simp [h])
        · rcases mem_insertEntry h with h | h
          · exact .inl h
          · exact .inr (List.mem_cons_of_mem _ h)
      · rcases List.mem_cons.1 h with h | h
        · exact .inl h
        · exact .inr (List.mem_cons_of_mem _ h)

theorem increasing_insertEntry {key : κ} {value : α} :
    ∀ {entries : List (κ × α)}, Increasing entries → Increasing (insertEntry key value entries)
  | [], _ => by simp [insertEntry, Increasing]
  | (k, v) :: rest, h => by
    have hrest := List.pairwise_cons.1 h
    unfold insertEntry
    split
    case isTrue hk =>
      refine List.pairwise_cons.2 ⟨fun e he => ?_, h⟩
      rcases List.mem_cons.1 he with he | he
      · simpa [he] using hk
      · exact KeyOrder.trans _ _ _ hk (hrest.1 e he)
    case isFalse hk =>
      split
      case isTrue hk' =>
        refine List.pairwise_cons.2 ⟨fun e he => ?_, increasing_insertEntry hrest.2⟩
        rcases mem_insertEntry he with he | he
        · simpa [he] using hk'
        · exact hrest.1 e he
      case isFalse hk' =>
        have hkey : key = k := by
          rcases KeyOrder.total key k with h | h | h
          · exact absurd h hk
          · exact h
          · exact absurd h hk'
        exact List.pairwise_cons.2 ⟨fun e he => hkey ▸ hrest.1 e he, hrest.2⟩

theorem increasing_sortEntries (entries : List (κ × α)) : Increasing (sortEntries entries) := by
  suffices h : ∀ acc : List (κ × α), Increasing acc →
      Increasing (entries.foldl (fun acc e => insertEntry e.1 e.2 acc) acc) from
    h [] List.Pairwise.nil
  induction entries with
  | nil => exact fun _ h => h
  | cons e rest ih => exact fun acc h => ih _ (increasing_insertEntry h)

end Entries

end SortedMap

/-! ## Maps -/

/-- A finite map, listed in the order of its keys. -/
structure SortedMap (κ : Type) (α : Type) [KeyOrder κ] where
  entries : List (κ × α)
  increasing : SortedMap.Increasing entries

/-- A map whose keys are texts, ordered by code point. -/
abbrev Dict (α : Type) := SortedMap String α

namespace SortedMap

variable {κ α : Type} [KeyOrder κ]

theorem ext_entries {m m' : SortedMap κ α} (h : m.entries = m'.entries) : m = m' := by
  cases m
  cases m'
  simp_all

def empty : SortedMap κ α := ⟨[], List.Pairwise.nil⟩

instance : Inhabited (SortedMap κ α) := ⟨empty⟩

instance : EmptyCollection (SortedMap κ α) := ⟨empty⟩

def insert (m : SortedMap κ α) (key : κ) (value : α) : SortedMap κ α :=
  ⟨insertEntry key value m.entries, increasing_insertEntry m.increasing⟩

/-- The map of a list of entries; of two values for one key the later stays. -/
def ofList (entries : List (κ × α)) : SortedMap κ α :=
  ⟨sortEntries entries, increasing_sortEntries entries⟩

def get? [DecidableEq κ] (m : SortedMap κ α) (key : κ) : Option α :=
  (m.entries.find? fun e => decide (e.1 = key)).map (·.2)

def keys (m : SortedMap κ α) : List κ := m.entries.map (·.1)

def values (m : SortedMap κ α) : List α := m.entries.map (·.2)

def size (m : SortedMap κ α) : Nat := m.entries.length

theorem increasing_map {β : Type} (f : κ → α → β) {entries : List (κ × α)}
    (h : Increasing entries) : Increasing (entries.map fun e => (e.1, f e.1 e.2)) :=
  List.pairwise_map.2 h

/-- Changes every value and no key. -/
def mapValues {β : Type} (f : κ → α → β) (m : SortedMap κ α) : SortedMap κ β :=
  ⟨m.entries.map fun e => (e.1, f e.1 e.2), increasing_map f m.increasing⟩

/-- Keeps the entries that satisfy `p`. -/
def filter (p : κ → α → Bool) (m : SortedMap κ α) : SortedMap κ α :=
  ⟨m.entries.filter fun e => p e.1 e.2, List.Pairwise.filter _ m.increasing⟩

/-- Changes the value at `key`, if there is one. -/
def modify [DecidableEq κ] (m : SortedMap κ α) (key : κ) (f : α → α) : SortedMap κ α :=
  m.mapValues fun k v => if k = key then f v else v

/-! ## Reading and writing -/

@[simp] theorem get?_empty [DecidableEq κ] (key : κ) : (empty : SortedMap κ α).get? key = none :=
  rfl

theorem find?_insertEntry [DecidableEq κ] (key : κ) (value : α) (k : κ)
    (entries : List (κ × α)) :
    ((insertEntry key value entries).find? fun e => decide (e.1 = k)).map (·.2) =
      if key = k then some value else (entries.find? fun e => decide (e.1 = k)).map (·.2) := by
  induction entries with
  | nil => by_cases h : key = k <;> simp [insertEntry, h]
  | cons e rest ih =>
    obtain ⟨k', v'⟩ := e
    unfold insertEntry
    split
    · by_cases h : key = k <;> simp [List.find?_cons, h]
    · next hk =>
      split
      · next hk' =>
        by_cases h : k' = k
        · have hne : key ≠ k := by
            rintro rfl
            subst h
            rw [KeyOrder.irrefl] at hk'
            cases hk'
          simp [h, hne]
        · simp only [List.find?_cons, h, decide_false]
          exact ih
      · next hk' =>
        have hkey : key = k' := by
          rcases KeyOrder.total key k' with h | h | h
          · exact absurd h hk
          · exact h
          · exact absurd h hk'
        subst hkey
        by_cases h : key = k <;> simp [h]

theorem get?_insert [DecidableEq κ] (m : SortedMap κ α) (key : κ) (value : α) (k : κ) :
    (m.insert key value).get? k = if key = k then some value else m.get? k :=
  find?_insertEntry key value k m.entries

@[simp] theorem get?_insert_self [DecidableEq κ] (m : SortedMap κ α) (key : κ) (value : α) :
    (m.insert key value).get? key = some value := by
  simp [get?_insert]

theorem get?_insert_of_ne [DecidableEq κ] (m : SortedMap κ α) {key k : κ} (value : α)
    (h : key ≠ k) : (m.insert key value).get? k = m.get? k := by
  simp [get?_insert, h]

theorem get?_mapValues [DecidableEq κ] {β : Type} (f : κ → α → β) (m : SortedMap κ α) (key : κ) :
    (m.mapValues f).get? key = (m.get? key).map (f key) := by
  obtain ⟨entries, h⟩ := m
  simp only [get?, mapValues]
  clear h
  induction entries with
  | nil => rfl
  | cons e rest ih =>
    by_cases hk : e.1 = key
    · simp [hk]
    · simp only [List.map_cons, List.find?_cons, hk, decide_false]
      exact ih

theorem get?_modify [DecidableEq κ] (m : SortedMap κ α) (key : κ) (f : α → α) (k : κ) :
    (m.modify key f).get? k = if k = key then (m.get? k).map f else m.get? k := by
  rw [modify, get?_mapValues]
  by_cases h : k = key
  · simp [h]
  · simp [h]

theorem keys_modify [DecidableEq κ] (m : SortedMap κ α) (key : κ) (f : α → α) :
    (m.modify key f).keys = m.keys := by
  simp [keys, modify, mapValues]

/-- Changes at two keys may change places. -/
theorem modify_comm [DecidableEq κ] (m : SortedMap κ α) {key key' : κ} (f g : α → α)
    (h : key ≠ key') : (m.modify key f).modify key' g = (m.modify key' g).modify key f := by
  apply ext_entries
  simp only [modify, mapValues, List.map_map]
  refine List.map_congr_left fun e _ => ?_
  by_cases hk : e.1 = key
  · simp [hk, h]
  · simp [hk]

theorem values_filter (p : α → Bool) (m : SortedMap κ α) :
    (m.filter fun _ v => p v).values = m.values.filter p :=
  List.filter_map.symm

theorem mem_entries_iff [DecidableEq κ] (m : SortedMap κ α) (key : κ) (value : α) :
    (key, value) ∈ m.entries ↔ m.get? key = some value := by
  obtain ⟨entries, h⟩ := m
  unfold get?
  simp only
  induction entries with
  | nil => simp
  | cons e rest ih =>
    obtain ⟨k, v⟩ := e
    have hrest := List.pairwise_cons.1 h
    by_cases hk : k = key
    · subst hk
      simp only [List.mem_cons, Prod.mk.injEq, true_and, List.find?_cons, decide_true,
        Option.map_some, Option.some.injEq]
      constructor
      · rintro (rfl | hmem)
        · rfl
        · have := hrest.1 _ hmem
          rw [KeyOrder.irrefl] at this
          cases this
      · rintro rfl
        exact .inl rfl
    · have hk' : key ≠ k := fun h => hk h.symm
      simp only [List.mem_cons, Prod.mk.injEq, hk', false_and, false_or, List.find?_cons, hk,
        decide_false]
      exact ih hrest.2

theorem get?_filter [DecidableEq κ] (p : κ → α → Bool) (m : SortedMap κ α) (key : κ) :
    (m.filter p).get? key = (m.get? key).filter (p key) := by
  apply Option.ext
  intro value
  rw [← mem_entries_iff, Option.filter_eq_some_iff, ← mem_entries_iff]
  exact List.mem_filter

theorem mem_values_iff [DecidableEq κ] (m : SortedMap κ α) (value : α) :
    value ∈ m.values ↔ ∃ key, m.get? key = some value := by
  constructor
  · intro h
    obtain ⟨⟨key, _⟩, hmem, rfl⟩ := List.mem_map.1 h
    exact ⟨key, (mem_entries_iff m key _).1 hmem⟩
  · rintro ⟨key, h⟩
    exact List.mem_map.2 ⟨(key, value), (mem_entries_iff m key value).2 h, rfl⟩

end SortedMap

end StoreGate
