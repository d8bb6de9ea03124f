import Mathlib.Data.List.Induction
import StoreGate.Search.Hit
import StoreGate.Proofs.SortedMap
import StoreGate.Proofs.Text.LowerCase

/-!
# What a hit keeps of its row

A row is read cell by cell. The first id is kept, of several cells in one column the last, and of
several snippets of one field the last as well. Cells that only the names or only the values have
are not read.

* `IsFirst`, `IsLast` — the first and the last item of a list that meets a condition.
* `SearchHit.document_ofRow` — the document is the row by column name, as the result gives it.
* `SearchHit.Reflects.withCell` — reading one more cell keeps a hit true to the cells.
* `hit_reflects_row` — every hit is true to its row.
-/

namespace StoreGate

/-! ## First and last -/

section FirstAndLast

variable {α : Type} {p : α → Prop} {items : List α} {item x : α}

/-- The first item of a list that meets a condition. -/
def IsFirst (p : α → Prop) (items : List α) (item : α) : Prop :=
  ∃ front rest, items = front ++ item :: rest ∧ p item ∧ ∀ i ∈ front, ¬ p i

/-- The last item of a list that meets a condition. -/
def IsLast (p : α → Prop) (items : List α) (item : α) : Prop :=
  ∃ front rest, items = front ++ item :: rest ∧ p item ∧ ∀ i ∈ rest, ¬ p i

theorem IsFirst.meets (h : IsFirst p items item) : p item := by
  obtain ⟨-, -, -, hp, -⟩ := h
  exact hp

theorem IsFirst.mem (h : IsFirst p items item) : item ∈ items := by
  obtain ⟨front, rest, rfl, -⟩ := h
  exact List.mem_append_right _ List.mem_cons_self

theorem IsLast.meets (h : IsLast p items item) : p item := by
  obtain ⟨-, -, -, hp, -⟩ := h
  exact hp

theorem IsLast.mem (h : IsLast p items item) : item ∈ items := by
  obtain ⟨front, rest, rfl, -⟩ := h
  exact List.mem_append_right _ List.mem_cons_self

theorem not_isFirst_nil : ¬ IsFirst p [] item := by
  rintro ⟨front, rest, h, -⟩
  simp at h

theorem not_isLast_nil : ¬ IsLast p [] item := by
  rintro ⟨front, rest, h, -⟩
  simp at h

/-- A list with one more item is cut at that item or before it. -/
theorem concat_eq_append_cons_iff {front rest : List α} :
    items ++ [x] = front ++ item :: rest ↔
      (items = front ∧ x = item ∧ rest = []) ∨
        ∃ rest', rest = rest' ++ [x] ∧ items = front ++ item :: rest' := by
  constructor
  · intro h
    rcases List.eq_nil_or_concat rest with rfl | ⟨rest', y, rfl⟩
    · obtain ⟨hfront, hlast⟩ := List.append_inj' h rfl
      exact .inl ⟨hfront, List.cons.inj hlast |>.1, rfl⟩
    · rw [List.concat_eq_append, ← List.cons_append, ← List.append_assoc] at h
      obtain ⟨hfront, hlast⟩ := List.append_inj' h rfl
      obtain rfl := (List.cons.inj hlast).1
      exact .inr ⟨rest', List.concat_eq_append, hfront⟩
  · rintro (⟨rfl, rfl, rfl⟩ | ⟨rest', rfl, rfl⟩)
    · rfl
    · rw [List.append_assoc, List.cons_append]

theorem isFirst_concat :
    IsFirst p (items ++ [x]) item ↔
      IsFirst p items item ∨ ((∀ i ∈ items, ¬ p i) ∧ p x ∧ item = x) := by
  constructor
  · rintro ⟨front, rest, hitems, hp, hfront⟩
    rcases concat_eq_append_cons_iff.1 hitems with ⟨rfl, rfl, rfl⟩ | ⟨rest', rfl, hcut⟩
    · exact .inr ⟨hfront, hp, rfl⟩
    · exact .inl ⟨front, rest', hcut, hp, hfront⟩
  · rintro (⟨front, rest, rfl, hp, hfront⟩ | ⟨hnone, hp, rfl⟩)
    · exact ⟨front, rest ++ [x], by rw [List.append_assoc, List.cons_append], hp, hfront⟩
    · exact ⟨items, [], rfl, hp, hnone⟩

theorem isLast_concat :
    IsLast p (items ++ [x]) item ↔ (p x ∧ item = x) ∨ (¬ p x ∧ IsLast p items item) := by
  constructor
  · rintro ⟨front, rest, hitems, hp, hrest⟩
    rcases concat_eq_append_cons_iff.1 hitems with ⟨rfl, rfl, rfl⟩ | ⟨rest', rfl, hcut⟩
    · exact .inl ⟨hp, rfl⟩
    · have hx : ¬ p x := hrest x List.mem_concat_self
      exact .inr ⟨hx, front, rest', hcut, hp, fun i hi => hrest i (List.mem_append_left _ hi)⟩
  · rintro (⟨hp, rfl⟩ | ⟨hx, front, rest, rfl, hp, hrest⟩)
    · exact ⟨items, [], rfl, hp, fun i hi => absurd hi List.not_mem_nil⟩
    · refine ⟨front, rest ++ [x], by rw [List.append_assoc, List.cons_append], hp, ?_⟩
      intro i hi
      rcases List.mem_append.1 hi with hi | hi
      · exact hrest i hi
      · rwa [List.mem_singleton.1 hi]

theorem exists_isFirst : (∃ item, IsFirst p items item) ↔ ∃ item ∈ items, p item := by
  constructor
  · rintro ⟨item, h⟩
    exact ⟨item, h.mem, h.meets⟩
  · induction items using List.reverseRecOn with
    | nil => rintro ⟨item, h, -⟩; cases h
    | append_singleton items x ih =>
        rintro ⟨item, hmem, hp⟩
        by_cases hitems : ∃ i ∈ items, p i
        · obtain ⟨first, hfirst⟩ := ih hitems
          exact ⟨first, isFirst_concat.2 (.inl hfirst)⟩
        · have hnone : ∀ i ∈ items, ¬ p i := fun i hi hpi => hitems ⟨i, hi, hpi⟩
          rcases List.mem_append.1 hmem with hmem | hmem
          · exact absurd hp (hnone item hmem)
          · obtain rfl := List.mem_singleton.1 hmem
            exact ⟨item, isFirst_concat.2 (.inr ⟨hnone, hp, rfl⟩)⟩

theorem exists_isLast : (∃ item, IsLast p items item) ↔ ∃ item ∈ items, p item := by
  constructor
  · rintro ⟨item, h⟩
    exact ⟨item, h.mem, h.meets⟩
  · induction items using List.reverseRecOn with
    | nil => rintro ⟨item, h, -⟩; cases h
    | append_singleton items x ih =>
        rintro ⟨item, hmem, hp⟩
        by_cases hx : p x
        · exact ⟨x, isLast_concat.2 (.inl ⟨hx, rfl⟩)⟩
        · rcases List.mem_append.1 hmem with hmem | hmem
          · obtain ⟨last, hlast⟩ := ih ⟨item, hmem, hp⟩
            exact ⟨last, isLast_concat.2 (.inr ⟨hx, hlast⟩)⟩
          · exact absurd (List.mem_singleton.1 hmem ▸ hp) hx

end FirstAndLast

namespace SearchHit

/-! ## What cells hold -/

/-- A column of ids: `id`, or whatever ends in `_id`, in any case of ASCII letters. -/
def IsIdName (name : String) : Prop :=
  name.toList.map Char.toLower = "id".toList ∨ "_id".toList <:+ name.toList.map Char.toLower

/-- A value that can be an id, and its text. -/
inductive HoldsId : Json → String → Prop
  | text (s : String) : HoldsId (.str s) s
  | integer (n : Int) : HoldsId (.num (.int n)) (Decimal.intText n)

/-- A cell in a column of ids that holds one. -/
def IsIdCell (cell : String × Json) : Prop := IsIdName cell.1 ∧ ∃ text, HoldsId cell.2 text

/-- The words stand in a text, both in lower case. -/
def ShowsWords (keywords : String) (value : Json) : Prop :=
  keywords ≠ "" ∧ ∃ text, value = .str text ∧
    (Text.lower keywords).toList <:+: (Text.lower text).toList

/-- A text that is not too long, or its first characters and three points. -/
def IsSnippet (limit : Nat) (text snippet : String) : Prop :=
  (text.length ≤ limit ∧ snippet = text) ∨
    ∃ front rest : String, text = front ++ rest ∧ front.length = limit ∧ rest ≠ "" ∧
      snippet = front ++ "..."

theorem isIdColumn_iff {name : String} : isIdColumn name = true ↔ IsIdName name := by
  unfold isIdColumn IsIdName
  rw [Bool.or_eq_true, beq_iff_eq, List.isSuffixOf_iff_suffix]
  rfl

theorem idText?_eq_some_iff {value : Json} {text : String} :
    idText? value = some text ↔ HoldsId value text := by
  constructor
  · intro h
    unfold idText? at h
    split at h
    · exact Option.some.inj h ▸ .text _
    · exact Option.some.inj h ▸ .integer _
    · cases h
  · rintro (_ | _)
    · rfl
    · rfl

theorem clip_eq_iff_isSnippet {limit : Nat} {text snippet : String} :
    Text.clip limit text = snippet ↔ IsSnippet limit text snippet := by
  constructor
  · rintro rfl
    by_cases hfits : text.toList.length ≤ limit
    · exact .inl ⟨String.length_toList ▸ hfits, Text.clip_of_le hfits⟩
    · have hlong : limit < text.toList.length := Nat.lt_of_not_le hfits
      refine .inr ⟨.ofList (text.toList.take limit), .ofList (text.toList.drop limit), ?_, ?_, ?_,
        Text.clip_of_lt hlong⟩
      · rw [← String.ofList_append, List.take_append_drop, String.ofList_toList]
      · rw [String.length_ofList, List.length_take_of_le (Nat.le_of_lt hlong)]
      · intro hrest
        have hnil : text.toList.drop limit = [] := by
          rw [← String.toList_ofList (l := text.toList.drop limit), hrest]
          rfl
        exact hfits (List.drop_eq_nil_iff.1 hnil)
  · rintro (⟨hfits, rfl⟩ | ⟨front, rest, rfl, rfl, hrest, rfl⟩)
    · exact Text.clip_of_le (String.length_toList ▸ hfits)
    · have hlong : front.length < (front ++ rest).toList.length := by
        have hpos : 0 < rest.toList.length :=
          List.length_pos_iff.2 fun h => hrest (String.toList_inj.1 h)
        rw [String.toList_append, List.length_append, String.length_toList]
        omega
      rw [Text.clip_of_lt hlong, String.toList_append, ← String.length_toList, List.take_left,
        String.ofList_toList]

theorem snippet?_eq_some_iff {fields : List String} {keywords column name snippet : String}
    {limit : Nat} {value : Json} :
    snippet? fields (Text.lower keywords) limit column value = some (name, snippet) ↔
      column = name ∧ name ∈ fields ∧ ShowsWords keywords value ∧
        ∃ text, value = .str text ∧ IsSnippet limit text snippet := by
  cases value with
  | str text =>
      have hshows : (fields.contains column && !(Text.lower keywords).isEmpty &&
          Text.contains (Text.lower text) (Text.lower keywords)) = true ↔
          column ∈ fields ∧ ShowsWords keywords (.str text) := by
        rw [Bool.and_eq_true, Bool.and_eq_true, List.contains_iff_mem, Text.lower_isEmpty,
          Text.contains, Text.containsChars_iff]
        simp [ShowsWords, and_assoc]
      rw [snippet?, Option.ite_none_right_eq_some, hshows]
      constructor
      · rintro ⟨⟨hfield, hwords⟩, heq⟩
        obtain ⟨rfl, rfl⟩ := Prod.mk.inj (Option.some.inj heq)
        exact ⟨rfl, hfield, hwords, text, rfl, clip_eq_iff_isSnippet.1 rfl⟩
      · rintro ⟨rfl, hfield, hwords, text', heq, hsnippet⟩
        obtain rfl := Json.str.inj heq
        exact ⟨⟨hfield, hwords⟩, by rw [clip_eq_iff_isSnippet.2 hsnippet]⟩
  | _ => simp [snippet?, ShowsWords]

theorem ne_none_of_showsWords {fields : List String} {keywords column : String} {limit : Nat}
    {value : Json} (hfield : column ∈ fields) (hwords : ShowsWords keywords value) :
    snippet? fields (Text.lower keywords) limit column value ≠ none := by
  have ⟨_, text, hvalue, _⟩ := hwords
  have hsome : snippet? fields (Text.lower keywords) limit column value =
      some (column, Text.clip limit text) :=
    snippet?_eq_some_iff.2 ⟨rfl, hfield, hwords, text, hvalue, clip_eq_iff_isSnippet.1 rfl⟩
  rw [hsome]
  exact Option.some_ne_none _

/-! ## Cell by cell -/

/-- A hit is true to cells: it holds the last cell of every column, the first id, and of every
searched field the snippet of the last cell that shows the words. -/
structure Reflects (fields : List String) (keywords : String) (limit : Nat)
    (cells : List (String × Json)) (h : SearchHit) : Prop where
  document : ∀ name value, h.document.get? name = some value ↔
    IsLast (fun cell => cell.1 = name) cells (name, value)
  id : ∀ text, h.id = some text ↔ ∃ cell, IsFirst IsIdCell cells cell ∧ HoldsId cell.2 text
  snippets : ∀ name snippet, h.snippets.get? name = some snippet ↔ name ∈ fields ∧ ∃ text,
    IsLast (fun cell => cell.1 = name ∧ ShowsWords keywords cell.2) cells (name, .str text) ∧
      IsSnippet limit text snippet

section Reading

variable {fields : List String} {keywords : String} {limit : Nat} {cells : List (String × Json)}
  {h : SearchHit}

/-- An id is kept; without one, the cell's own counts. -/
theorem id_withCell {cell : String × Json} {text : String} :
    (h.withCell fields (Text.lower keywords) limit cell).id = some text ↔
      h.id = some text ∨ (h.id = none ∧ IsIdName cell.1 ∧ HoldsId cell.2 text) := by
  rw [withCell, ← isIdColumn_iff, ← idText?_eq_some_iff]
  dsimp only
  cases h.id with
  | some kept => simp
  | none => simp

/-- The snippet of a cell replaces an earlier one of its field; all others stay. -/
theorem get?_snippets_withCell {cell : String × Json} {name snippet : String} :
    (h.withCell fields (Text.lower keywords) limit cell).snippets.get? name = some snippet ↔
      (cell.1 = name ∧ name ∈ fields ∧ ShowsWords keywords cell.2 ∧
        ∃ text, cell.2 = .str text ∧ IsSnippet limit text snippet) ∨
      (¬ (cell.1 = name ∧ name ∈ fields ∧ ShowsWords keywords cell.2) ∧
        h.snippets.get? name = some snippet) := by
  rw [← snippet?_eq_some_iff, withCell]
  cases hown : snippet? fields (Text.lower keywords) limit cell.1 cell.2 with
  | none =>
      -- no cell of a searched field, or the words are not in it
      have hother : ¬ (cell.1 = name ∧ name ∈ fields ∧ ShowsWords keywords cell.2) := by
        rintro ⟨rfl, hfield, hwords⟩
        exact ne_none_of_showsWords hfield hwords hown
      simp [hother]
  | some entry =>
      obtain ⟨field, own⟩ := entry
      obtain ⟨hcolumn, hfield, hwords, -⟩ := snippet?_eq_some_iff.1 hown
      dsimp only
      rw [SortedMap.get?_insert]
      by_cases hname : field = name
      · subst hname
        simp [hcolumn, hfield, hwords]
      · have hother : cell.1 ≠ name := hcolumn ▸ hname
        simp [hname, hother]

theorem reflects_unread (table : String) :
    (unread table).Reflects fields keywords limit [] where
  document name value := by simp [unread, not_isLast_nil]
  id text := by simp [unread, not_isFirst_nil]
  snippets name snippet := by simp [unread, not_isLast_nil]

/-- **There is no id** exactly if no cell in a column of ids holds one. -/
theorem Reflects.id_eq_none (hcells : h.Reflects fields keywords limit cells) :
    h.id = none ↔ ∀ cell ∈ cells, ¬ IsIdCell cell := by
  constructor
  · intro hnone cell hmem hcell
    obtain ⟨first, hfirst⟩ := exists_isFirst.2 ⟨cell, hmem, hcell⟩
    obtain ⟨-, text, hholds⟩ := hfirst.meets
    rw [(hcells.id text).2 ⟨first, hfirst, hholds⟩] at hnone
    cases hnone
  · intro hnone
    refine Option.eq_none_iff_forall_ne_some.2 fun text hid => ?_
    obtain ⟨cell, hfirst, -⟩ := (hcells.id text).1 hid
    exact hnone cell hfirst.mem hfirst.meets

/-- **A searched field has a snippet** exactly if a cell of it shows the words. -/
theorem Reflects.isSome_snippet (hcells : h.Reflects fields keywords limit cells) (name : String) :
    (h.snippets.get? name).isSome = true ↔
      name ∈ fields ∧ ∃ value, (name, value) ∈ cells ∧ ShowsWords keywords value := by
  rw [Option.isSome_iff_exists]
  constructor
  · rintro ⟨snippet, hsnippet⟩
    obtain ⟨hfield, text, hlast, -⟩ := (hcells.snippets name snippet).1 hsnippet
    exact ⟨hfield, .str text, hlast.mem, hlast.meets.2⟩
  · rintro ⟨hfield, value, hmem, hwords⟩
    have hsome : ∃ cell ∈ cells, cell.1 = name ∧ ShowsWords keywords cell.2 :=
      ⟨(name, value), hmem, rfl, hwords⟩
    obtain ⟨⟨column, last⟩, hlast⟩ := exists_isLast.2 hsome
    obtain ⟨rfl, -, text, rfl, -⟩ := hlast.meets
    exact ⟨Text.clip limit text, (hcells.snippets _ _).2
      ⟨hfield, text, hlast, clip_eq_iff_isSnippet.1 rfl⟩⟩

/-- **Reading one more cell** keeps a hit true to the cells. -/
theorem Reflects.withCell (hcells : h.Reflects fields keywords limit cells)
    (cell : String × Json) :
    (h.withCell fields (Text.lower keywords) limit cell).Reflects fields keywords limit (cells ++ [cell]) := by
  constructor
  case document =>
    intro name value
    rw [SearchHit.withCell, SortedMap.get?_insert, isLast_concat, ← hcells.document]
    by_cases hname : cell.1 = name
    · simp [hname, Prod.ext_iff, eq_comm]
    · simp [hname]
  case id =>
    intro text
    rw [id_withCell, hcells.id, hcells.id_eq_none]
    simp only [isFirst_concat]
    constructor
    · rintro (⟨first, hfirst, hholds⟩ | ⟨hnone, hname, hholds⟩)
      · exact ⟨first, .inl hfirst, hholds⟩
      · exact ⟨cell, .inr ⟨hnone, ⟨hname, text, hholds⟩, rfl⟩, hholds⟩
    · rintro ⟨first, hfirst | ⟨hnone, hcell, rfl⟩, hholds⟩
      · exact .inl ⟨first, hfirst, hholds⟩
      · exact .inr ⟨hnone, hcell.1, hholds⟩
  case snippets =>
    intro name snippet
    rw [get?_snippets_withCell, hcells.snippets]
    simp only [isLast_concat]
    constructor
    · rintro (⟨hname, hfield, hwords, text, htext, hsnippet⟩ |
        ⟨hother, hfield, text, hlast, hsnippet⟩)
      · exact ⟨hfield, text, .inl ⟨⟨hname, hwords⟩, Prod.ext hname.symm htext.symm⟩, hsnippet⟩
      · exact ⟨hfield, text, .inr ⟨fun h => hother ⟨h.1, hfield, h.2⟩, hlast⟩, hsnippet⟩
    · rintro ⟨hfield, text, ⟨⟨hname, hwords⟩, rfl⟩ | ⟨hother, hlast⟩, hsnippet⟩
      · exact .inl ⟨hname, hfield, hwords, text, rfl, hsnippet⟩
      · exact .inr ⟨fun h => hother ⟨h.1, h.2.2⟩, hfield, text, hlast, hsnippet⟩

theorem Reflects.foldl (hcells : h.Reflects fields keywords limit cells)
    (rest : List (String × Json)) :
    (rest.foldl (SearchHit.withCell fields (Text.lower keywords) limit) h).Reflects fields keywords
      limit (cells ++ rest) := by
  induction rest generalizing h cells with
  | nil => rwa [List.append_nil]
  | cons cell rest ih => simpa using ih (hcells.withCell cell)

end Reading

theorem reflects_ofRow (table : String) (columns : List String) (row : List Json)
    (fields : List String) (keywords : String) (limit : Nat) :
    (ofRow table columns row fields keywords limit).Reflects fields keywords limit
      (columns.zip row) :=
  (reflects_unread table).foldl (columns.zip row)

/-- **The document of a hit** is the row by column name, as the result itself gives it. -/
theorem document_ofRow (table : String) (columns : List String) (row : List Json)
    (fields : List String) (keywords : String) (limit : Nat) :
    (ofRow table columns row fields keywords limit).document = QueryResult.rowMap columns row := by
  have hcells : ∀ (cells : List (String × Json)) (h : SearchHit),
      (cells.foldl (withCell fields (Text.lower keywords) limit) h).document =
        cells.foldl (fun m cell => m.insert cell.1 cell.2) h.document := by
    intro cells
    induction cells with
    | nil => exact fun h => rfl
    | cons cell cells ih => exact fun h => ih (h.withCell fields (Text.lower keywords) limit cell)
  rw [QueryResult.rowMap, SortedMap.ofList_eq_foldl]
  exact hcells (columns.zip row) (unread table)

end SearchHit

/-- **Every hit is true to its row.** Its document is the row by column name, as the result itself
gives it: the last value of every name, of the columns and values that stand side by side. Its id is
the text of the first cell in a column of ids that holds a text or an integer, and there is none
exactly if no cell does. A field has a snippet exactly if it is searched, there are words to search,
and they stand in a text of the field, both in lower case; the snippet is the last such text, or the
first characters of it and three points. -/
theorem hit_reflects_row (table : String) (fields : List String) (keywords : String)
    (limit : Nat) :
    (∀ result : QueryResult, result.rowMaps = result.rows.map fun row =>
      (SearchHit.ofRow table result.columns row fields keywords limit).document) ∧
    ∀ (columns : List String) (row : List Json),
      (SearchHit.ofRow table columns row fields keywords limit).Reflects fields keywords limit
        (columns.zip row) ∧
      ((SearchHit.ofRow table columns row fields keywords limit).id = none ↔
        ¬ ∃ cell ∈ columns.zip row, SearchHit.IsIdCell cell) ∧
      ∀ name,
        ((SearchHit.ofRow table columns row fields keywords limit).snippets.get? name).isSome = true
          ↔ name ∈ fields ∧ ∃ value, (name, value) ∈ columns.zip row ∧
            SearchHit.ShowsWords keywords value := by
  refine ⟨fun result => ?_, fun columns row => ?_⟩
  · simp only [QueryResult.rowMaps, SearchHit.document_ofRow]
  have hreflects := SearchHit.reflects_ofRow table columns row fields keywords limit
  refine ⟨hreflects, ?_, hreflects.isSome_snippet⟩
  rw [hreflects.id_eq_none]
  simp

/-- A second cell of a column, a null in a column of ids, and a column without a value. -/
example :
    let hit := SearchHit.ofRow "logs" ["id", "msg", "Task_ID", "msg", "more"]
      [.null, .str "Disk FULL", .num (.int 7), .str "disk fullness"] ["msg", "more"] "disk full" 9
    hit.id = some "7" ∧ hit.document.keys = ["Task_ID", "id", "msg"] ∧
      hit.snippets.entries = [("msg", "disk full...")] := by
  decide +kernel

end StoreGate
