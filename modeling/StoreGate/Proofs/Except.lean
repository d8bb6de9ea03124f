import Mathlib.Data.List.Forall2

/-!
# Steps that may fail

When steps that may fail are put together, the whole succeeds exactly if each step does.
-/

namespace StoreGate

variable {ε α β : Type}

theorem exists_ok_of_isOk {x : Except ε α} (h : x.isOk = true) : ∃ a, x = .ok a := by
  cases x with
  | error e => cases h
  | ok a => exact ⟨a, rfl⟩

theorem eq_ok_of_toOption {x : Except ε α} {a : α} (h : x.toOption = some a) : x = .ok a := by
  cases x with
  | error e => cases h
  | ok b => exact congrArg Except.ok (Option.some.inj h)

/-- A result that is used further gives what the use gives. -/
theorem exceptBind_eq_ok {x : Except ε α} {f : α → Except ε β} {b : β} :
    (x >>= f) = .ok b ↔ ∃ a, x = .ok a ∧ f a = .ok b := by
  cases x with
  | error e =>
      refine iff_of_false (fun h => by cases h) ?_
      rintro ⟨a, h, -⟩
      cases h
  | ok a =>
      constructor
      · exact fun h => ⟨a, rfl, h⟩
      · rintro ⟨_, h, hb⟩
        rwa [← Except.ok.inj h] at hb

theorem exceptMap_eq_ok {x : Except ε α} {f : α → β} {b : β} :
    x.map f = .ok b ↔ ∃ a, x = .ok a ∧ f a = b := by
  cases x with
  | error e => simp [Except.map]
  | ok a => simp [Except.map]

/-- One step after another succeeds exactly if each step does. -/
theorem exceptMapM_eq_ok {f : α → Except ε β} {xs : List α} {ys : List β} :
    xs.mapM f = .ok ys ↔ List.Forall₂ (fun x y => f x = .ok y) xs ys := by
  induction xs generalizing ys with
  | nil =>
      rw [List.mapM_nil, List.forall₂_nil_left_iff]
      exact ⟨fun h => (Except.ok.inj h).symm, fun h => h ▸ rfl⟩
  | cons x xs ih =>
      rw [List.mapM_cons, exceptBind_eq_ok, List.forall₂_cons_left_iff]
      constructor
      · rintro ⟨y, hy, hrest⟩
        obtain ⟨ys', hys', heq⟩ := exceptBind_eq_ok.1 hrest
        exact ⟨y, ys', hy, ih.1 hys', (Except.ok.inj heq).symm⟩
      · rintro ⟨y, ys', hy, hys', rfl⟩
        exact ⟨y, hy, exceptBind_eq_ok.2 ⟨ys', ih.2 hys', rfl⟩⟩

/-- One step after another comes to an end exactly if every step can be taken. -/
theorem exists_exceptMapM_eq_ok {f : α → Except ε β} {xs : List α} :
    (∃ ys, xs.mapM f = .ok ys) ↔ ∀ x ∈ xs, ∃ y, f x = .ok y := by
  simp only [exceptMapM_eq_ok]
  induction xs with
  | nil => exact iff_of_true ⟨[], .nil⟩ fun x hx => by cases hx
  | cons x xs ih =>
      rw [List.forall_mem_cons, ← ih]
      constructor
      · rintro ⟨ys, hall⟩
        obtain ⟨y, ys', hy, hys, -⟩ := List.forall₂_cons_left_iff.1 hall
        exact ⟨⟨y, hy⟩, ys', hys⟩
      · rintro ⟨⟨y, hy⟩, ys, hys⟩
        exact ⟨y :: ys, .cons hy hys⟩

/-- Every step of many that may give nothing gives one of the results. -/
theorem exists_of_optionMapM_eq_some {f : α → Option β} {xs : List α} {ys : List β}
    (h : xs.mapM f = some ys) {x : α} (hx : x ∈ xs) : ∃ y ∈ ys, f x = some y := by
  induction xs generalizing ys with
  | nil => cases hx
  | cons x' xs ih =>
      rw [List.mapM_cons] at h
      obtain ⟨y, hy, h⟩ := Option.bind_eq_some_iff.1 h
      obtain ⟨ys', hys, h⟩ := Option.bind_eq_some_iff.1 h
      obtain rfl := Option.some.inj h
      rcases List.mem_cons.1 hx with rfl | hx
      · exact ⟨y, List.mem_cons_self, hy⟩
      · obtain ⟨y', hy', hf⟩ := ih hys hx
        exact ⟨y', List.mem_cons_of_mem _ hy', hf⟩

/-- When one step after another fails, one of the steps does. -/
theorem exists_error_of_foldlM {f : β → α → Except ε β} {xs : List α} {b : β} {e : ε}
    (h : xs.foldlM f b = .error e) : ∃ b', ∃ x ∈ xs, f b' x = .error e := by
  induction xs generalizing b with
  | nil => cases h
  | cons x xs ih =>
      rw [List.foldlM_cons] at h
      cases hfirst : f b x with
      | error e' =>
          rw [hfirst] at h
          cases h
          exact ⟨b, x, List.mem_cons_self, hfirst⟩
      | ok next =>
          rw [hfirst] at h
          obtain ⟨b', x', hx', herror⟩ := ih h
          exact ⟨b', x', List.mem_cons_of_mem _ hx', herror⟩

/-- Each of the results comes from one of the inputs. -/
theorem exists_of_mem_forall₂ {R : α → β → Prop} {xs : List α} {ys : List β}
    (h : List.Forall₂ R xs ys) {y : β} (hy : y ∈ ys) : ∃ x ∈ xs, R x y := by
  induction h with
  | nil => cases hy
  | @cons x _ xs _ hx _ ih =>
      rcases List.mem_cons.1 hy with rfl | hy
      · exact ⟨x, List.mem_cons_self .., hx⟩
      · obtain ⟨x', hx', hR⟩ := ih hy
        exact ⟨x', List.mem_cons_of_mem _ hx', hR⟩

/-! ## Results side by side -/

/-- Both results are faults that go together, or both are values that go together. -/
inductive ExceptRel {ε' α' : Type} (F : ε → ε' → Prop) (R : α → α' → Prop) :
    Except ε α → Except ε' α' → Prop
  | error {e : ε} {e' : ε'} (h : F e e') : ExceptRel F R (.error e) (.error e')
  | ok {a : α} {a' : α'} (h : R a a') : ExceptRel F R (.ok a) (.ok a')

namespace ExceptRel

variable {ε' α' β' : Type} {F : ε → ε' → Prop} {R : α → α' → Prop} {S : β → β' → Prop}

/-- Results that go together are used further side by side. -/
theorem bind {x : Except ε α} {x' : Except ε' α'} {f : α → Except ε β} {f' : α' → Except ε' β'}
    (hx : ExceptRel F R x x') (hf : ∀ a a', R a a' → ExceptRel F S (f a) (f' a')) :
    ExceptRel F S (x >>= f) (x' >>= f') := by
  cases hx with
  | error h => exact .error h
  | ok h => exact hf _ _ h

end ExceptRel

end StoreGate
