import StoreGate.SortedMap

/-!
# Maps written entry by entry

When entries are written into a map one after another, a key holds in the end what the last entry of
the key says, or what it held before if no entry is its own.

* `SortedMap.lastOf` — what a list of entries says last of a key.
* `SortedMap.get?_foldl_insert`, `SortedMap.get?_ofList` — what a map holds after the writing.
* `SortedMap.valuesOf_entries` — a map says one thing of a key at most.
* `SortedMap.sortEntries_of_increasing` — entries in order stay as they are.
* `SortedMap.sortEntries_perm` — entries of different keys all stay when they are put in order.
-/

namespace StoreGate

namespace SortedMap

variable {κ α : Type} [DecidableEq κ]

/-- What a list of entries says of a key, in order. -/
def valuesOf (entries : List (κ × α)) (key : κ) : List α :=
  (entries.filter fun e => decide (e.1 = key)).map (·.2)

/-- What a list of entries says last of a key. -/
def lastOf (entries : List (κ × α)) (key : κ) : Option α := (valuesOf entries key).getLast?

@[simp] theorem lastOf_nil (key : κ) : lastOf ([] : List (κ × α)) key = none := rfl

theorem lastOf_append (xs ys : List (κ × α)) (key : κ) :
    lastOf (xs ++ ys) key = (lastOf ys key).or (lastOf xs key) := by
  rw [lastOf, valuesOf, List.filter_append, List.map_append, List.getLast?_append]
  rfl

@[simp] theorem lastOf_cons (e : κ × α) (rest : List (κ × α)) (key : κ) :
    lastOf (e :: rest) key = (lastOf rest key).or (if e.1 = key then some e.2 else none) := by
  have hfirst : lastOf [e] key = if e.1 = key then some e.2 else none := by
    by_cases h : e.1 = key
    · simp [lastOf, valuesOf, h]
    · simp [lastOf, valuesOf, h]
  rw [← List.singleton_append, lastOf_append, hfirst]

/-- Entries of other keys say nothing of a key. -/
theorem lastOf_eq_none {entries : List (κ × α)} {key : κ} (h : ∀ e ∈ entries, e.1 ≠ key) :
    lastOf entries key = none := by
  have hfilter : (entries.filter fun e => decide (e.1 = key)) = [] :=
    List.filter_eq_nil_iff.2 fun e he => by simpa using h e he
  rw [lastOf, valuesOf, hfilter]
  rfl

/-- Where no key is listed twice, the last value of a key is the only one. -/
theorem valuesOf_of_nodup {entries : List (κ × α)} (h : (entries.map Prod.fst).Nodup) (key : κ) :
    valuesOf entries key = (lastOf entries key).toList := by
  have hlength : (valuesOf entries key).length ≤ 1 := by
    induction entries with
    | nil => exact Nat.zero_le _
    | cons e rest ih =>
        obtain ⟨hnew, hrest⟩ := List.nodup_cons.1 h
        by_cases hkey : e.1 = key
        · have hnone : rest.filter (fun e => decide (e.1 = key)) = [] := by
            refine List.filter_eq_nil_iff.2 fun e' he' => ?_
            have hne : e'.1 ≠ key := fun heq =>
              hnew (hkey.trans heq.symm ▸ List.mem_map_of_mem he')
            simpa using hne
          simp [valuesOf, hkey, hnone]
        · simpa [valuesOf, hkey] using ih hrest
  rw [lastOf]
  generalize valuesOf entries key = values at hlength
  cases values with
  | nil => rfl
  | cons v vs =>
      have hrest : vs = [] := List.length_eq_zero_iff.1 (Nat.le_zero.1 (Nat.lt_succ_iff.1 hlength))
      rw [hrest]
      rfl

variable [KeyOrder κ]

/-- **A map after the writing** holds what was written last, or what it held before. -/
theorem get?_foldl_insert (entries : List (κ × α)) (m : SortedMap κ α) (key : κ) :
    (entries.foldl (fun m e => m.insert e.1 e.2) m).get? key =
      (lastOf entries key).or (m.get? key) := by
  induction entries generalizing m with
  | nil => rfl
  | cons e rest ih =>
      rw [List.foldl_cons, ih, lastOf_cons, get?_insert, Option.or_assoc]
      by_cases h : e.1 = key
      · simp [h]
      · simp [h]

omit [DecidableEq κ] in
theorem ofList_eq_foldl (entries : List (κ × α)) :
    ofList entries = entries.foldl (fun m e => m.insert e.1 e.2) empty := by
  have hentries : ∀ (rest : List (κ × α)) (m : SortedMap κ α),
      (rest.foldl (fun m e => m.insert e.1 e.2) m).entries =
        rest.foldl (fun acc e => insertEntry e.1 e.2 acc) m.entries := by
    intro rest
    induction rest with
    | nil => exact fun m => rfl
    | cons e rest ih => exact fun m => ih (m.insert e.1 e.2)
  exact ext_entries (hentries entries empty).symm

/-- **The map of a list** holds what the list says last. -/
theorem get?_ofList (entries : List (κ × α)) (key : κ) :
    (ofList entries).get? key = lastOf entries key := by
  rw [ofList_eq_foldl, get?_foldl_insert, get?_empty, Option.or_none]

/-- **A map says of a key what it holds there**, and nothing else. -/
theorem valuesOf_entries (m : SortedMap κ α) (key : κ) :
    valuesOf m.entries key = (m.get? key).toList := by
  obtain ⟨entries, h⟩ := m
  unfold get?
  dsimp only
  induction entries with
  | nil => rfl
  | cons e rest ih =>
      obtain ⟨hbefore, hrest⟩ := List.pairwise_cons.1 h
      by_cases hkey : e.1 = key
      · -- every later key comes after this one
        have hnone : (rest.filter fun e' => decide (e'.1 = key)) = [] := by
          refine List.filter_eq_nil_iff.2 ?_
          intro e' he' heq
          have hafter := hbefore e' he'
          rw [hkey, ← of_decide_eq_true heq, KeyOrder.irrefl] at hafter
          cases hafter
        simp [valuesOf, hkey, hnone]
      · simpa [valuesOf, hkey] using ih hrest

theorem lastOf_entries (m : SortedMap κ α) (key : κ) : lastOf m.entries key = m.get? key := by
  rw [lastOf, valuesOf_entries]
  cases m.get? key with
  | none => rfl
  | some value => rfl

/-! ## Lists in order -/

omit [DecidableEq κ] in
theorem insertEntry_of_last {key : κ} {value : α} {entries : List (κ × α)}
    (h : ∀ e ∈ entries, KeyOrder.before e.1 key = true) :
    insertEntry key value entries = entries ++ [(key, value)] := by
  induction entries with
  | nil => rfl
  | cons e rest ih =>
      obtain ⟨hfirst, hrest⟩ := List.forall_mem_cons.1 h
      have hafter : ¬ KeyOrder.before key e.1 = true := by
        intro hbefore
        have hself := KeyOrder.trans _ _ _ hbefore hfirst
        rw [KeyOrder.irrefl] at hself
        cases hself
      rw [insertEntry, if_neg hafter, if_pos hfirst, ih hrest]
      rfl

omit [DecidableEq κ] in
/-- **Entries in order stay as they are.** -/
theorem sortEntries_of_increasing {entries : List (κ × α)} (h : Increasing entries) :
    sortEntries entries = entries := by
  have hall : ∀ rest sorted : List (κ × α), Increasing (sorted ++ rest) →
      rest.foldl (fun acc e => insertEntry e.1 e.2 acc) sorted = sorted ++ rest := by
    intro rest
    induction rest with
    | nil => exact fun sorted _ => (List.append_nil sorted).symm
    | cons e rest ih =>
        intro sorted hsorted
        have hlast : ∀ e' ∈ sorted, KeyOrder.before e'.1 e.1 = true := fun e' he' =>
          (List.pairwise_append.1 hsorted).2.2 e' he' e List.mem_cons_self
        rw [List.foldl_cons, insertEntry_of_last hlast, ih _ (by rwa [List.append_assoc]),
          List.append_assoc]
        rfl
  exact hall entries [] h

omit [DecidableEq κ] in
theorem mem_sortEntries {entries : List (κ × α)} {e : κ × α} (h : e ∈ sortEntries entries) :
    e ∈ entries := by
  have hall : ∀ rest sorted : List (κ × α),
      e ∈ rest.foldl (fun acc e => insertEntry e.1 e.2 acc) sorted → e ∈ sorted ∨ e ∈ rest := by
    intro rest
    induction rest with
    | nil => exact fun sorted h => .inl h
    | cons e' rest ih =>
        intro sorted h
        rcases ih _ h with h | h
        · rcases mem_insertEntry h with rfl | h
          · exact .inr List.mem_cons_self
          · exact .inl h
        · exact .inr (List.mem_cons_of_mem _ h)
  rcases hall entries [] h with h | h
  · cases h
  · exact h

omit [DecidableEq κ] in
theorem insertEntry_perm {key : κ} {value : α} {entries : List (κ × α)}
    (h : ∀ e ∈ entries, e.1 ≠ key) :
    (insertEntry key value entries).Perm ((key, value) :: entries) := by
  induction entries with
  | nil => exact .refl _
  | cons e rest ih =>
      obtain ⟨hfirst, hrest⟩ := List.forall_mem_cons.1 h
      unfold insertEntry
      split
      · exact .refl _
      · split
        · exact ((ih hrest).cons e).trans (.swap (key, value) e rest)
        · next hbefore hafter =>
          exact (KeyOrder.total key e.1).elim (absurd · hbefore)
            (·.elim (fun heq => absurd heq.symm hfirst) (absurd · hafter))

omit [DecidableEq κ] in
/-- **Entries of different keys** all stay when they are put in order. -/
theorem sortEntries_perm {entries : List (κ × α)} (h : (entries.map Prod.fst).Nodup) :
    (sortEntries entries).Perm entries := by
  have hall : ∀ rest sorted : List (κ × α), ((sorted ++ rest).map Prod.fst).Nodup →
      (rest.foldl (fun acc e => insertEntry e.1 e.2 acc) sorted).Perm (sorted ++ rest) := by
    intro rest
    induction rest with
    | nil => exact fun sorted _ => by rw [List.foldl_nil, List.append_nil]
    | cons e rest ih =>
        intro sorted hsorted
        have hmiddle : (e :: (sorted ++ rest)).Perm (sorted ++ e :: rest) :=
          List.perm_middle.symm
        have hkeys : ((e :: (sorted ++ rest)).map Prod.fst).Nodup :=
          (hmiddle.map Prod.fst).nodup_iff.2 hsorted
        have hnew : ∀ e' ∈ sorted, e'.1 ≠ e.1 := fun e' he' heq =>
          (List.nodup_cons.1 hkeys).1 (heq ▸ List.mem_map_of_mem (List.mem_append_left rest he'))
        have hinsert := (@insertEntry_perm κ α _ e.1 e.2 sorted hnew).append_right rest
        rw [List.foldl_cons]
        exact ((ih _ ((hinsert.map Prod.fst).nodup_iff.2 hkeys)).trans hinsert).trans hmiddle
  exact hall entries [] h

omit [DecidableEq κ] in
/-- A map is the map of its entries. -/
theorem ofList_entries (m : SortedMap κ α) : ofList m.entries = m :=
  ext_entries (sortEntries_of_increasing m.increasing)

end SortedMap

end StoreGate
