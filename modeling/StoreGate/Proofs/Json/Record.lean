import Mathlib.Tactic.FinCases
import StoreGate.Json.Decode
import StoreGate.Proofs.Except

/-!
# What a record takes from its document

A record is read field by field, and a field that the document leaves out keeps what it was before.
Told here, for any one field of any record, is where its value comes from: it is the initial one,
and then the document gives none, or it was read from a value that the document gives.

* `Document.Gives` — an object gives a field's value under the field's name, a list of fields gives
  it at the field's place.
* `Decode.Slot` — one field of a record, with the laws by which it is told from the others.
* `Decode.Slot.of_record` — where the value of a field comes from.
* `Decode.keeps_record` — what every field keeps holds of the record that is read.
-/

namespace StoreGate

/-- The document of a record gives the value `v` to the field of this name at this place. -/
def Document.Gives (d : Document) (place : Nat) (name : String) (v : Document) : Prop :=
  match d with
  | .object members _ => (some name, v) ∈ members
  | .array items _ => items[place]? = some v
  | _ => False

/-- What is read from a text is read from the document that it spells. -/
theorem Document.read_of_decodeText {α : Type} {read : Decoder α} {body : String} {a : α}
    (h : decodeText read body = .ok a) : read nestingLimit (parse body).1 = .ok a := by
  unfold decodeText close at h
  dsimp only at h
  split at h
  · cases h
  · next b hread =>
    split at h
    · rw [hread, Except.ok.inj h]
    · rw [hread, Except.ok.inj h]
    · cases h

namespace Decode

variable {ρ α β : Type}

/-! ## Fields that leave another alone -/

/-- The field goes by other names, and storing it does not change what `get` sees. -/
def Field.Apart (name : String) (get : ρ → α) (f : Field ρ) : Prop :=
  name ∉ f.names ∧ ∀ room d update, f.read room d = .ok update → ∀ r, get (update r) = get r

theorem field_read_eq_ok {names : List String} {presence : Presence} {reader : Decoder β}
    {set : β → ρ → ρ} {room : Nat} {d : Document} {update : ρ → ρ} :
    (field names presence reader set).read room d = .ok update ↔
      ∃ b, reader room d = .ok b ∧ set b = update :=
  exceptMap_eq_ok

theorem Field.apart_field {name : String} {get : ρ → α} {names : List String} {presence : Presence}
    {reader : Decoder β} {set : β → ρ → ρ} (hname : name ∉ names)
    (hget : ∀ b r, get (set b r) = get r) :
    Field.Apart name get (field names presence reader set) := by
  refine ⟨hname, ?_⟩
  intro room d update hread r
  obtain ⟨b, -, rfl⟩ := field_read_eq_ok.1 hread
  exact hget b r

/-! ## One member, one item -/

section Steps

variable {fields : List (Field ρ)} {room : Nat} {ending : Ending} {r r' : ρ}

theorem members_nil_eq_ok {seen : List String}
    (h : members fields room [] ending seen r = .ok r') : r' = r := by
  unfold members checkMissing at h
  split at h
  · cases h
  · split at h
    · cases h
    · exact (Except.ok.inj h).symm
  · split at h
    · cases h
    · exact (Except.ok.inj h).symm

/-- **One member** is passed over, or it is read into the field that goes by its key. -/
theorem members_cons_eq_ok {key : Option String} {d : Document}
    {ms : List (Option String × Document)} {seen : List String}
    (h : members fields room ((key, d) :: ms) ending seen r = .ok r') :
    ∃ k, key = some k ∧
      (((∀ f ∈ fields, k ∉ f.names) ∧ members fields room ms ending seen r = .ok r') ∨
        ∃ f update, f ∈ fields ∧ k ∈ f.names ∧ f.read room d = .ok update ∧
          members fields room ms ending (f.name :: seen) (update r) = .ok r') := by
  cases key with
  | none => cases h
  | some k =>
      refine ⟨k, rfl, ?_⟩
      unfold members at h
      cases hfind : fields.find? fun f => f.names.contains k with
      | none =>
          simp only [hfind] at h
          split at h
          · cases h
          · exact Or.inl ⟨fun f hf => by simpa using List.find?_eq_none.1 hfind f hf, h⟩
      | some f =>
          simp only [hfind] at h
          split at h
          · cases h
          · split at h
            · cases h
            · next update hread =>
              exact Or.inr ⟨f, update, List.mem_of_find?_eq_some hfind,
                by simpa using List.find?_some hfind, hread, h⟩

theorem positional_nil_eq_ok {ds : List Document}
    (h : positional room [] ds ending r = .ok r') : r' = r := by
  cases ds with
  | nil => cases ending <;> simp_all [positional, Document.close]
  | cons d ds => cases ending <;> simp_all [positional]

/-- **One item** is read into the first of the fields. -/
theorem positional_cons_eq_ok {f : Field ρ} {fs : List (Field ρ)} {ds : List Document}
    (h : positional room (f :: fs) ds ending r = .ok r') :
    (ds = [] ∧ r' = r) ∨
      ∃ d rest update, ds = d :: rest ∧ f.read room d = .ok update ∧
        positional room fs rest ending (update r) = .ok r' := by
  cases ds with
  | nil =>
      refine Or.inl ⟨rfl, ?_⟩
      unfold positional at h
      split at h
      · cases h
      · split at h
        · exact (Except.ok.inj h).symm
        · cases h
      · split at h
        · exact (Except.ok.inj h).symm
        · cases h
  | cons d rest =>
      unfold positional at h
      split at h
      · cases h
      · next update hread => exact Or.inr ⟨d, rest, update, rfl, hread, h⟩

end Steps

/-! ## What every field keeps -/

/-- Whatever is read for the field, storing it keeps `p`. -/
def Field.Keeps (p : ρ → Prop) (f : Field ρ) : Prop :=
  ∀ room d update, f.read room d = .ok update → ∀ r, p r → p (update r)

theorem Field.keeps_field {p : ρ → Prop} {names : List String} {presence : Presence}
    {reader : Decoder β} {set : β → ρ → ρ}
    (h : ∀ room d b, reader room d = .ok b → ∀ r, p r → p (set b r)) :
    (field names presence reader set).Keeps p := by
  intro room d update hread r hr
  obtain ⟨b, hb, rfl⟩ := field_read_eq_ok.1 hread
  exact h room d b hb r hr

section Kept

variable {p : ρ → Prop} {fields : List (Field ρ)} {room : Nat} {ending : Ending} {r r' : ρ}

theorem keeps_members (hfields : ∀ f ∈ fields, f.Keeps p) {ms : List (Option String × Document)}
    {seen : List String} (hr : p r) (h : members fields room ms ending seen r = .ok r') : p r' := by
  induction ms generalizing seen r with
  | nil => rwa [members_nil_eq_ok h]
  | cons m ms ih =>
      obtain ⟨key, d⟩ := m
      obtain ⟨-, -, ⟨-, hrest⟩ | ⟨f, update, hf, -, hread, hrest⟩⟩ := members_cons_eq_ok h
      · exact ih hr hrest
      · exact ih (hfields f hf room d update hread r hr) hrest

theorem keeps_positional (hfields : ∀ f ∈ fields, f.Keeps p) {ds : List Document} (hr : p r)
    (h : positional room fields ds ending r = .ok r') : p r' := by
  induction fields generalizing ds r with
  | nil => rwa [positional_nil_eq_ok h]
  | cons f fields ih =>
      obtain ⟨hf, hrest⟩ := List.forall_mem_cons.1 hfields
      rcases positional_cons_eq_ok h with ⟨-, rfl⟩ | ⟨d, ds, update, -, hread, hlater⟩
      · exact hr
      · exact ih hrest (hf room d update hread r hr) hlater

/-- **What every field keeps** holds of the record that is read, if it holds at the start. -/
theorem keeps_record {initial : ρ} {d : Document} (hfields : ∀ f ∈ fields, f.Keeps p)
    (hinitial : p initial) (h : record initial fields room d = .ok r) : p r := by
  unfold record at h
  split at h
  · split at h
    · cases h
    · exact keeps_members hfields hinitial h
  · split at h
    · cases h
    · exact keeps_positional hfields hinitial h
  · cases h

end Kept

/-! ## One field -/

/-- One field of a record: the fields before and after it, how it is read, and how it is seen in the
record. -/
structure Slot (fields : List (Field ρ)) (α : Type) where
  before : List (Field ρ)
  after : List (Field ρ)
  name : String
  presence : Presence
  reader : Decoder α
  set : α → ρ → ρ
  get : ρ → α
  split : fields = before ++ field [name] presence reader set :: after := by rfl
  get_set : ∀ a r, get (set a r) = a := by intros; rfl
  /-- The other fields leave this one alone. -/
  apart : ∀ f ∈ before ++ after, f.Apart name get := by
    intro f hf
    fin_cases hf <;> exact StoreGate.Decode.Field.apart_field (by decide) fun _ _ => rfl

namespace Slot

variable {fields : List (Field ρ)} (slot : Slot fields α) {room : Nat} {ending : Ending} {r r' : ρ}

def field : Field ρ := Decode.field [slot.name] slot.presence slot.reader slot.set

/-- The place of the field in a list of fields. -/
def place : Nat := slot.before.length

/-- What a field holds in the end comes from one of the given values, or from before. -/
def From (start : α) (given : Document → Prop) (r : ρ) : Prop :=
  (slot.get r = start ∧ ∀ v, ¬ given v) ∨
    ∃ v room, given v ∧ slot.reader room v = .ok (slot.get r)

variable {slot}

theorem field_mem (slot : Slot fields α) : slot.field ∈ fields := by
  have hmem : ∀ {fs : List (Field ρ)}, fs = slot.before ++ slot.field :: slot.after →
      slot.field ∈ fs := by
    rintro fs rfl
    exact List.mem_append_right _ (List.mem_cons_self ..)
  exact hmem slot.split

theorem eq_field_or_apart {f : Field ρ} (h : f ∈ fields) :
    f = slot.field ∨ f.Apart slot.name slot.get := by
  rw [slot.split, List.mem_append, List.mem_cons] at h
  rcases h with h | h | h
  · exact Or.inr (slot.apart f (List.mem_append_left _ h))
  · exact Or.inl h
  · exact Or.inr (slot.apart f (List.mem_append_right _ h))

/-- What a value gives stays as long as no other value is given. -/
theorem From.of_given {start : α} {given given' : Document → Prop} {v : Document} {room : Nat}
    {a : α} (hv : given v) (ha : slot.reader room v = .ok a)
    (hgiven : ∀ v, given' v → given v) (h : slot.From a given' r) : slot.From start given r := by
  rcases h with ⟨hget, -⟩ | ⟨v', room', hv', ha'⟩
  · exact Or.inr ⟨v, room, hv, hget ▸ ha⟩
  · exact Or.inr ⟨v', room', hgiven v' hv', ha'⟩

theorem From.congr {start : α} {given given' : Document → Prop} (h : slot.From start given' r)
    (hgiven : ∀ v, given' v ↔ given v) : slot.From start given r := by
  rwa [show given = given' from funext fun v => propext (hgiven v).symm]

/-! ## Objects -/

theorem from_members {ms : List (Option String × Document)} {seen : List String}
    (h : members fields room ms ending seen r = .ok r') :
    slot.From (slot.get r) (fun v => (some slot.name, v) ∈ ms) r' := by
  induction ms generalizing seen r with
  | nil =>
      obtain rfl := members_nil_eq_ok h
      exact Or.inl ⟨rfl, fun v hv => by cases hv⟩
  | cons m ms ih =>
      obtain ⟨key, d⟩ := m
      obtain ⟨key, rfl, hpassed | ⟨f, update, hf, hkey, hread, hrest⟩⟩ := members_cons_eq_ok h
      · -- a key that no field has is passed over, and the field has its name
        have hkey : key ≠ slot.name := by
          rintro rfl
          exact hpassed.1 slot.field slot.field_mem (List.mem_singleton_self _)
        refine (ih hpassed.2).congr fun v => ?_
        simp [Ne.symm hkey]
      · have hfrom := ih hrest
        rcases slot.eq_field_or_apart hf with rfl | hapart
        · obtain rfl := List.mem_singleton.1 hkey
          obtain ⟨a, ha, rfl⟩ := field_read_eq_ok.1 hread
          rw [slot.get_set] at hfrom
          exact hfrom.of_given (List.mem_cons_self ..) ha fun v hv => List.mem_cons_of_mem _ hv
        · have hname : key ≠ slot.name := by
            rintro rfl
            exact hapart.1 hkey
          rw [hapart.2 room d update hread] at hfrom
          refine hfrom.congr fun v => ?_
          simp [Ne.symm hname]

/-! ## Lists of fields -/

/-- Fields that leave another alone leave it as it was. -/
theorem get_of_positional {name : String} {get : ρ → α} {fs : List (Field ρ)}
    {ds : List Document} (hfs : ∀ f ∈ fs, f.Apart name get)
    (h : positional room fs ds ending r = .ok r') : get r' = get r := by
  induction fs generalizing ds r with
  | nil => rw [positional_nil_eq_ok h]
  | cons f fs ih =>
      rcases positional_cons_eq_ok h with ⟨-, rfl⟩ | ⟨d, ds, update, rfl, hread, hrest⟩
      · rfl
      · rw [ih (fun g hg => hfs g (List.mem_cons_of_mem _ hg)) hrest]
        exact (hfs f (List.mem_cons_self ..)).2 room d update hread r

/-- A field that stands after others takes the value at its place. -/
theorem from_positional {before : List (Field ρ)} {ds : List Document}
    (hbefore : ∀ f ∈ before, f.Apart slot.name slot.get)
    (h : positional room (before ++ slot.field :: slot.after) ds ending r = .ok r') :
    slot.From (slot.get r) (fun v => ds[before.length]? = some v) r' := by
  induction before generalizing ds r with
  | nil =>
      rcases positional_cons_eq_ok h with ⟨rfl, rfl⟩ | ⟨d, ds, update, rfl, hread, hrest⟩
      · exact Or.inl ⟨rfl, fun v hv => by cases hv⟩
      · obtain ⟨a, ha, rfl⟩ := field_read_eq_ok.1 hread
        have hget := get_of_positional
          (fun f hf => slot.apart f (List.mem_append_right _ hf)) hrest
        rw [slot.get_set] at hget
        exact Or.inr ⟨d, room, rfl, hget ▸ ha⟩
  | cons f before ih =>
      rcases positional_cons_eq_ok h with ⟨rfl, rfl⟩ | ⟨d, ds, update, rfl, hread, hrest⟩
      · exact Or.inl ⟨rfl, fun v hv => by cases hv⟩
      · have hfrom := ih (fun g hg => hbefore g (List.mem_cons_of_mem _ hg)) hrest
        rwa [(hbefore f (List.mem_cons_self ..)).2 room d update hread] at hfrom

/-! ## Records -/

/-- **Where the value of a field comes from**: the document gives none and the field is as at the
start, or the field was read from a value that the document gives. -/
theorem of_record {initial : ρ} {d : Document} (h : record initial fields room d = .ok r) :
    slot.From (slot.get initial) (d.Gives slot.place slot.name) r := by
  unfold record at h
  split at h
  · split at h
    · cases h
    · exact from_members h
  · split at h
    · cases h
    · rw [slot.split] at h
      exact from_positional (fun f hf => slot.apart f (List.mem_append_left _ hf)) h
  · cases h

/-- The same for a record that a text spells. -/
theorem of_decodeText {initial : ρ} {body : String}
    (h : Document.decodeText (record initial fields) body = .ok r) :
    slot.From (slot.get initial) ((Document.parse body).1.Gives slot.place slot.name) r :=
  of_record (Document.read_of_decodeText h)

/-- If a value is read from one spelling only, a field has that spelling exactly if it is given. -/
theorem From.given_iff {start : α} {given : Document → Prop} (h : slot.From start given r)
    (spell : α → Document) (hspell : ∀ room v a, slot.reader room v = .ok a → v = spell a) :
    given (spell (slot.get r)) ↔ ¬ ∀ v, ¬ given v := by
  constructor
  · exact fun hgiven hnone => hnone _ hgiven
  · intro hsome
    rcases h with ⟨-, hnone⟩ | ⟨v, room, hv, hread⟩
    · exact absurd hnone hsome
    · rwa [← hspell room v _ hread]

/-- A field that is not as at the start is given. -/
theorem From.given_of_ne {start : α} {given : Document → Prop} (h : slot.From start given r)
    (hne : slot.get r ≠ start) : ∃ v room, given v ∧ slot.reader room v = .ok (slot.get r) := by
  rcases h with ⟨hget, -⟩ | hgiven
  · exact absurd hget hne
  · exact hgiven

end Slot

/-! ## Values with one spelling -/

theorem text_eq_ok {room : Nat} {d : Document} {s : String} (h : text room d = .ok s) :
    d = .text (some s) := by
  unfold text at h
  split at h
  · rw [Except.ok.inj h]
  · cases h

theorem int64_eq_ok {room : Nat} {d : Document} {n : Int} (h : int64 room d = .ok n) :
    d = .number (some (.int n)) := by
  unfold int64 int at h
  split at h
  · split at h
    · rw [Except.ok.inj h]
    · cases h
  · cases h

/-- A number that is read as one of 64 bits is one. -/
theorem int64_range {room : Nat} {d : Document} {n : Int} (h : int64 room d = .ok n) :
    Json.minInt64 ≤ n ∧ n ≤ Json.maxInt64 := by
  unfold int64 int at h
  split at h
  · split at h
    · next hrange => rwa [← Except.ok.inj h]
    · cases h
  · cases h

theorem optional_eq_ok {reader : Decoder α} {room : Nat} {d : Document} {a : α}
    (h : optional reader room d = .ok (some a)) : reader room d = .ok a := by
  unfold optional at h
  split at h
  · cases h
  · obtain ⟨b, hread, hb⟩ := exceptMap_eq_ok.1 h
    rwa [Option.some.inj hb] at hread

end Decode

end StoreGate
