import StoreGate.Proofs.Json.ReadBack

/-!
# Records read from their members

A record that is written as an object is read back, in whatever order its members stand and under
whichever of their names, if every member is read into the field that it was written from. And an
object that gives a field twice, under one name or under two, is never read.

* `Decode.ReadsBack` — a value is read from what it is written as, with as much room as that opens.
* `Decode.Fits`, `Decode.readsBack_record` — members that come to a record.
* `Decode.decodeText_members` — the same for the text that the members are written as.
* `Decode.once_of_members` — two keys of one field.
-/

namespace StoreGate

/-! ## Members that may be missing -/

theorem Json.keys_optional_sublist (key : String) (value : Option Json) :
    ((optionalMember key value).map Prod.fst).Sublist [key] := by
  cases value with
  | none => exact List.nil_sublist _
  | some v => exact .refl _

theorem Json.forall_mem_optional {key : String} {value : Option Json} {p : String × Json → Prop} :
    (∀ m ∈ optionalMember key value, p m) ↔ ∀ v ∈ value, p (key, v) := by
  cases value with
  | none => simp [optionalMember]
  | some v => simp [optionalMember]

/-! ## Other names -/

/-- A value with the keys of its members changed. -/
def Json.renamed (rename : String → String) : Json → Json
  | .obj members => Json.object (members.map fun m => (rename m.1, m.2))
  | v => v

theorem Json.renamed_object_id (members : List (String × Json)) :
    (object members).renamed id = object members := by
  show Json.object ((SortedMap.sortEntries members).map id) = _
  rw [List.map_id, object, SortedMap.sortEntries_of_increasing
    (SortedMap.increasing_sortEntries members)]
  rfl

namespace Decode

variable {α ρ : Type}

/-! ## Values -/

/-- A value is read from the document of what it is written as, if there is room for it. -/
def ReadsBack (read : Decoder α) (a : α) (v : Json) : Prop :=
  ∀ room, v.depth ≤ room → read room v.document = .ok a

theorem readsBack_text (s : String) : ReadsBack text s (.str s) := fun _ _ => rfl

theorem readsBack_bool (b : Bool) : ReadsBack bool b (.bool b) := by
  cases b with
  | false => exact fun _ _ => rfl
  | true => exact fun _ _ => rfl

theorem readsBack_natUpTo {hi : Int} {n : Nat} (h : (n : Int) ≤ hi) :
    ReadsBack (natUpTo hi) n (Json.nat n) := by
  intro room _
  have hrange : (0 : Int) ≤ n ∧ (n : Int) ≤ hi := ⟨Int.natCast_nonneg n, h⟩
  show Except.map Int.toNat (if (0 : Int) ≤ n ∧ (n : Int) ≤ hi then _ else _) = _
  rw [if_pos hrange]
  rfl

theorem readsBack_int64 {n : Int} (h : Json.minInt64 ≤ n ∧ n ≤ Json.maxInt64) :
    ReadsBack int64 n (Json.int n) := fun _ _ => if_pos h

theorem readsBack_data {v : Json} (h : v.Canonical) : ReadsBack data v v := by
  intro room hroom
  rw [data, Document.value_document v h, if_pos hroom]

theorem readsBack_word {what : String} {read? : String → Option α} {s : String} {a : α}
    (h : read? s = some a) : ReadsBack (word what read?) a (.str s) := by
  intro room _
  simp only [Json.document, word, text, h]

/-- What is not written as nothing is read as something. -/
theorem readsBack_optional {read : Decoder α} {a : α} {v : Json} (h : ReadsBack read a v)
    (hnull : v ≠ .null) : ReadsBack (optional read) (some a) v := by
  intro room hroom
  have hread := h room hroom
  unfold optional
  cases v with
  | null => exact absurd rfl hnull
  | _ => exact congrArg (Except.map some) hread

/-! ## Lists and maps -/

theorem readsBack_list {read : Decoder α} {write : α → Json} {as : List α}
    (h : ∀ a ∈ as, ReadsBack read a (write a)) :
    ReadsBack (list read) as (.arr (as.map write)) := by
  have hitems : ∀ as : List α, (∀ a ∈ as, ReadsBack read a (write a)) → ∀ room,
      Json.depthItems (as.map write) ≤ room →
      items (read room) (Json.documents (as.map write)) .closed = .ok as := by
    intro as
    induction as with
    | nil => exact fun _ _ _ => rfl
    | cons a as ih =>
        intro h room hroom
        obtain ⟨ha, has⟩ := List.forall_mem_cons.1 h
        obtain ⟨hfirst, hrest⟩ := Nat.max_le.1 hroom
        rw [List.map_cons, Json.documents, items, ha room hfirst]
        exact congrArg (Except.map (a :: ·)) (ih has room hrest)
  intro room hroom
  cases room with
  | zero => exact absurd hroom (Nat.not_succ_le_zero _)
  | succ room => exact hitems as h room (Nat.le_of_succ_le_succ hroom)

theorem readsBack_texts (texts : List String) :
    ReadsBack (list text) texts (Json.ofStrings texts) :=
  readsBack_list fun s _ => readsBack_text s

theorem readsBack_dict {read : Decoder α} {write : α → Json} {m : Dict α}
    (h : ∀ e ∈ m.entries, ReadsBack read e.2 (write e.2)) :
    ReadsBack (dict read) m (Json.ofDict write m) := by
  have hentries : ∀ es : List (String × α), (∀ e ∈ es, ReadsBack read e.2 (write e.2)) → ∀ room,
      Json.depthMembers (es.map fun e => (e.1, write e.2)) ≤ room →
      entries (read room) (Json.memberDocuments (es.map fun e => (e.1, write e.2))) .closed =
        .ok es := by
    intro es
    induction es with
    | nil => exact fun _ _ _ => rfl
    | cons e es ih =>
        intro h room hroom
        obtain ⟨he, hes⟩ := List.forall_mem_cons.1 h
        obtain ⟨hfirst, hrest⟩ := Nat.max_le.1 hroom
        rw [List.map_cons, Json.memberDocuments, entries, he room hfirst]
        exact congrArg (Except.map (e :: ·)) (ih hes room hrest)
  intro room hroom
  cases room with
  | zero => exact absurd hroom (Nat.not_succ_le_zero _)
  | succ room =>
      show (entries (read room) _ .closed).map SortedMap.ofList = _
      rw [hentries m.entries h room (Nat.le_of_succ_le_succ hroom)]
      exact congrArg Except.ok (SortedMap.ofList_entries m)

/-! ## Members of a record -/

/-- The field that a key stands for. -/
def fieldOf? (layout : List (Field ρ)) (key : String) : Option (Field ρ) :=
  layout.find? fun f => f.names.contains key

/-- A member is read into the field of this name. `mix` is the record as far as it has been read:
what the fields of the given names come to, the others as at the start. -/
def Fits (layout : List (Field ρ)) (mix : List String → ρ) (name : String) (m : String × Json) :
    Prop :=
  ∃ f update, fieldOf? layout m.1 = some f ∧ f.name = name ∧
    (∀ room, m.2.depth ≤ room → f.read room m.2.document = .ok update) ∧
    ∀ seen, update (mix seen) = mix (name :: seen)

variable {layout : List (Field ρ)} {mix : List String → ρ}

theorem fits_field {names : List String} {presence : Presence} {read : Decoder α}
    {set : α → ρ → ρ} {name key : String} {a : α} {v : Json}
    (hfield : fieldOf? layout key = some (field names presence read set))
    (hname : names.headD "" = name) (hread : ReadsBack read a v)
    (hset : ∀ seen, set a (mix seen) = mix (name :: seen)) : Fits layout mix name (key, v) :=
  ⟨_, set a, hfield, hname, fun room hroom => congrArg (Except.map set) (hread room hroom), hset⟩

theorem fits_optional (rename : String → String) {names : List String} {presence : Presence}
    {read : Decoder α} {set : Option α → ρ → ρ} {key : String} {value : Option α} {write : α → Json}
    (hfield : fieldOf? layout (rename key) = some (field names presence (optional read) set))
    (hname : names.headD "" = key) (hread : ∀ a ∈ value, ReadsBack read a (write a))
    (hnull : ∀ a, write a ≠ .null)
    (hset : ∀ a ∈ value, ∀ seen, set (some a) (mix seen) = mix (key :: seen)) :
    ∀ m ∈ Json.optionalMember key (value.map write), Fits layout mix m.1 (rename m.1, m.2) := by
  intro m hm
  cases value with
  | none => cases hm
  | some a =>
      obtain rfl := List.mem_singleton.1 hm
      exact fits_field hfield hname (readsBack_optional (hread a rfl) (hnull a)) (hset a rfl)

/-- **Members are read one by one**, each into a field of its own. -/
theorem members_of_fits (hdefaulted : ∀ f ∈ layout, f.presence = .defaulted)
    {nameOf : String → String} {room : Nat} {ms : List (String × Json)} (seen : List String)
    (hfits : ∀ m ∈ ms, Fits layout mix (nameOf m.1) m)
    (hnames : (ms.map fun m => nameOf m.1).Nodup) (hseen : ∀ m ∈ ms, nameOf m.1 ∉ seen)
    (hroom : Json.depthMembers ms ≤ room) :
    members layout room (Json.memberDocuments ms) .closed seen (mix seen) =
      .ok (mix ((ms.map fun m => nameOf m.1).reverse ++ seen)) := by
  induction ms generalizing seen with
  | nil =>
      have hmissing : (layout.find? fun f => f.presence == .required && !seen.contains f.name) =
          none := List.find?_eq_none.2 fun f hf => by rw [hdefaulted f hf]; simp
      show checkMissing layout seen (mix seen) = .ok (mix seen)
      rw [checkMissing, hmissing]
  | cons m ms ih =>
      obtain ⟨⟨f, update, hfield, hname, hread, hupdate⟩, hfits⟩ := List.forall_mem_cons.1 hfits
      obtain ⟨hfirst, hseen⟩ := List.forall_mem_cons.1 hseen
      obtain ⟨hnew, hnames⟩ := List.nodup_cons.1 hnames
      obtain ⟨hdepth, hroom⟩ := Nat.max_le.1 hroom
      have hnot : seen.contains (nameOf m.1) = false := by simpa using hfirst
      have hlater : ∀ m' ∈ ms, nameOf m'.1 ∉ nameOf m.1 :: seen := by
        intro m' hm' hmem
        rcases List.mem_cons.1 hmem with heq | hmem
        · have hmem' := List.mem_map_of_mem (f := fun m => nameOf m.1) hm'
          rw [heq] at hmem'
          exact hnew hmem'
        · exact hseen m' hm' hmem
      have hrest := ih (nameOf m.1 :: seen) hfits hnames hlater hroom
      have hread := hread room hdepth
      unfold fieldOf? at hfield
      rw [Json.memberDocuments, members]
      simp only [hfield, hread, hname, hupdate, hnot, Bool.false_eq_true, if_false]
      rw [hrest]
      simp

/-- The name of the field that a key stands for. -/
def fieldName (layout : List (Field ρ)) (key : String) : String :=
  ((fieldOf? layout key).map Field.name).getD key

theorem Fits.fieldName_eq {name : String} {m : String × Json} (h : Fits layout mix name m) :
    fieldName layout m.1 = name := by
  obtain ⟨f, update, hfield, hname, -⟩ := h
  rw [fieldName, hfield]
  exact hname

/-- **A record is read back from its members**, under whichever of their names, if they are of
different fields and the fields that are left out are as at the start. -/
theorem readsBack_record (hdefaulted : ∀ f ∈ layout, f.presence = .defaulted)
    {rename : String → String} {ms : List (String × Json)} {r : ρ}
    (hfits : ∀ m ∈ ms, Fits layout mix m.1 (rename m.1, m.2))
    (hkeys : (ms.map Prod.fst).Nodup)
    (hwhole : ∀ seen, (∀ m ∈ ms, m.1 ∈ seen) → mix seen = r) :
    ReadsBack (record (mix []) layout) r ((Json.object ms).renamed rename) := by
  obtain ⟨sorted, hsorted⟩ : ∃ sorted, sorted = SortedMap.sortEntries ms := ⟨_, rfl⟩
  have hperm : sorted.Perm ms := hsorted ▸ SortedMap.sortEntries_perm hkeys
  obtain ⟨renamed, hrenamed⟩ : ∃ renamed, renamed = sorted.map fun m => (rename m.1, m.2) :=
    ⟨_, rfl⟩
  have hname : ∀ m ∈ sorted, fieldName layout (rename m.1) = m.1 := fun m hm =>
    (hfits m (hperm.mem_iff.1 hm)).fieldName_eq
  have hnames : renamed.map (fun m => fieldName layout m.1) = sorted.map Prod.fst := by
    rw [hrenamed, List.map_map]
    exact List.map_congr_left hname
  have hnodup : (renamed.map fun m => fieldName layout m.1).Nodup := by
    rw [hnames]
    exact (hperm.map Prod.fst).nodup_iff.2 hkeys
  have hagain : (SortedMap.sortEntries renamed).Perm renamed :=
    SortedMap.sortEntries_perm (List.Nodup.of_map (fieldName layout) (by rwa [List.map_map]))
  have hfits' : ∀ m ∈ renamed, Fits layout mix (fieldName layout m.1) m := by
    intro m hm
    rw [hrenamed] at hm
    obtain ⟨m', hm', rfl⟩ := List.mem_map.1 hm
    rw [hname m' hm']
    exact hfits m' (hperm.mem_iff.1 hm')
  have hvalue : (Json.object ms).renamed rename = Json.object renamed := by
    rw [hrenamed, hsorted]
    rfl
  intro room hroom
  rw [hvalue] at hroom ⊢
  cases room with
  | zero => exact absurd hroom (Nat.not_succ_le_zero _)
  | succ room =>
      have hread := members_of_fits hdefaulted [] (fun m hm => hfits' m (hagain.mem_iff.1 hm))
        ((hagain.map fun m => fieldName layout m.1).nodup_iff.2 hnodup)
        (fun m _ => List.not_mem_nil) (Nat.le_of_succ_le_succ hroom)
      refine hread.trans (congrArg Except.ok (hwhole _ fun m hm => ?_))
      rw [List.append_nil, List.mem_reverse, (hagain.map fun m => fieldName layout m.1).mem_iff,
        hnames]
      exact List.mem_map_of_mem (hperm.mem_iff.2 hm)

/-- The same under the names that the members are written with. -/
theorem readsBack_object (hdefaulted : ∀ f ∈ layout, f.presence = .defaulted)
    {ms : List (String × Json)} {r : ρ} (hfits : ∀ m ∈ ms, Fits layout mix m.1 m)
    (hkeys : (ms.map Prod.fst).Nodup)
    (hwhole : ∀ seen, (∀ m ∈ ms, m.1 ∈ seen) → mix seen = r) :
    ReadsBack (record (mix []) layout) r (Json.object ms) := by
  have hread := @readsBack_record ρ layout mix hdefaulted id ms r hfits hkeys hwhole
  rwa [Json.renamed_object_id] at hread

/-- **The text of a record is read back**, in whatever order its members are written. -/
theorem decodeText_members (hdefaulted : ∀ f ∈ layout, f.presence = .defaulted)
    {ms : List (String × Json)} {r : ρ} (hfits : ∀ m ∈ ms, Fits layout mix m.1 m)
    (hkeys : (ms.map Prod.fst).Nodup) (hwhole : ∀ seen, (∀ m ∈ ms, m.1 ∈ seen) → mix seen = r)
    {n : Nat} (hreadable : Json.ReadableMembers n ms) (hn : n < nestingLimit) :
    Document.decodeText (record (mix []) layout) (Json.render (.obj ms)) = .ok r := by
  have hdepth : Json.depthMembers ms ≤ 126 :=
    Nat.le_trans (Json.depthMembers_le_iff.2 fun m hm => (hreadable m hm).depth_le)
      (Nat.le_of_lt_succ hn)
  rw [Document.decodeText_of_parseStart (Document.parseStart_members
    (Json.canonicalMembers_iff.2 fun m hm => (hreadable m hm).canonical)
    (Json.doublesKeptMembers_iff.2 fun m hm => (hreadable m hm).doublesKept))]
  refine (@members_of_fits ρ layout mix hdefaulted id 126 ms [] hfits hkeys
    (fun m _ => List.not_mem_nil) hdepth).trans (congrArg Except.ok (hwhole _ fun m hm => ?_))
  rw [List.append_nil, List.mem_reverse]
  exact List.mem_map_of_mem hm

/-! ## Members of one field -/

section Twice

variable {room : Nat} {ms : List (Option String × Document)} {ending : Ending} {r r' : ρ}

/-- One member, and what is left to be read after it. -/
theorem members_cons_of_field {key : String} {d : Document} {seen : List String} {f : Field ρ}
    (h : members layout room ((some key, d) :: ms) ending seen r = .ok r')
    (hfield : fieldOf? layout key = some f) :
    f.name ∉ seen ∧ ∃ update : ρ → ρ,
      members layout room ms ending (f.name :: seen) (update r) = .ok r' := by
  unfold fieldOf? at hfield
  unfold members at h
  simp only [hfield] at h
  split at h
  · cases h
  · next hseen =>
    split at h
    · cases h
    · next update hread => exact ⟨by simpa using hseen, update, h⟩

/-- A field that was read before is not read again. -/
theorem notMem_seen_of_members {seen : List String}
    (h : members layout room ms ending seen r = .ok r') {key : String} {d : Document}
    (hmem : (some key, d) ∈ ms) {f : Field ρ} (hfield : fieldOf? layout key = some f) :
    f.name ∉ seen := by
  induction ms generalizing seen r with
  | nil => cases hmem
  | cons m ms ih =>
      obtain ⟨key', d'⟩ := m
      rcases List.mem_cons.1 hmem with heq | hlater
      · obtain ⟨rfl, rfl⟩ := Prod.mk.inj heq
        exact (members_cons_of_field h hfield).1
      · obtain ⟨-, -, ⟨-, hrest⟩ | ⟨g, update, -, -, -, hrest⟩⟩ := members_cons_eq_ok h
        · exact ih hrest hlater
        · exact fun hseen => ih hrest hlater (List.mem_cons_of_mem _ hseen)

/-- **Two keys of an object that is read** are not of one field. -/
theorem once_of_members {seen : List String}
    (h : members layout room ms ending seen r = .ok r') {key key' : String} {d d' : Document}
    (hmem : (some key, d) ∈ ms) (hmem' : (some key', d') ∈ ms) (hne : key ≠ key') {f f' : Field ρ}
    (hfield : fieldOf? layout key = some f) (hfield' : fieldOf? layout key' = some f') :
    f.name ≠ f'.name := by
  induction ms generalizing seen r with
  | nil => cases hmem
  | cons m ms ih =>
      obtain ⟨key'', d''⟩ := m
      rcases List.mem_cons.1 hmem with heq | hlater
      · obtain ⟨rfl, rfl⟩ := Prod.mk.inj heq
        rcases List.mem_cons.1 hmem' with heq | hlater'
        · exact absurd (Option.some.inj (Prod.mk.inj heq).1).symm hne
        · obtain ⟨-, update, hrest⟩ := members_cons_of_field h hfield
          have hnot := notMem_seen_of_members hrest hlater' hfield'
          exact fun heq => hnot (heq ▸ List.mem_cons_self)
      · rcases List.mem_cons.1 hmem' with heq | hlater'
        · obtain ⟨rfl, rfl⟩ := Prod.mk.inj heq
          obtain ⟨-, update, hrest⟩ := members_cons_of_field h hfield'
          have hnot := notMem_seen_of_members hrest hlater hfield
          exact fun heq => hnot (heq ▸ List.mem_cons_self)
        · obtain ⟨-, -, ⟨-, hrest⟩ | ⟨g, update, -, -, -, hrest⟩⟩ := members_cons_eq_ok h
          · exact ih hrest hlater hlater'
          · exact ih hrest hlater hlater'

end Twice

end Decode

end StoreGate
