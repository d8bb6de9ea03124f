import StoreGate.Proofs.Txn.Traffic

/-!
# Stretches of a run

Much of what is promised about a lease is promised for a stretch of a run: from one point on, until
something happens that ends the promise. `Traffic.Throughout` says that something holds of the lease
of a transaction along such a stretch.

* `Traffic.throughout_iff` — it does exactly if it holds at the start and no event breaks it.
-/

namespace StoreGate

namespace Traffic

/-- From `t` on, and along the events until one of them is an `ending` one, `P` holds of the lease
of the transaction. -/
def Throughout (c : Coordinator) (t : Traffic) (n : Int) (es : List Event) (ending : Event → Prop)
    (P : Option Lease → Prop) : Prop :=
  ∀ pre s, pre <+: es → (∀ e ∈ pre, ¬ ending e) → t.run? c pre = some s → P (s.leases.get? n)

/-- No event of the stretch breaks what holds of the lease before it. -/
def Unbroken (c : Coordinator) (t : Traffic) (n : Int) (es : List Event) (ending : Event → Prop)
    (breaks : Event → Option Lease → Prop) : Prop :=
  ∀ pre e s, pre ++ [e] <+: es → (∀ f ∈ pre ++ [e], ¬ ending f) → t.run? c pre = some s →
    ¬ breaks e (s.leases.get? n)

variable {c : Coordinator} {t u : Traffic} {n : Int} {es : List Event} {ending : Event → Prop}
  {P : Option Lease → Prop} {breaks : Event → Option Lease → Prop}

/-- **What holds along a stretch** holds at its start, and no event breaks it. -/
theorem throughout_iff (hrun : t.run? c es = some u)
    (hbreaks : ∀ e known, ¬ ending e → P known →
      (P (e.changeLease c.grace n known) ↔ ¬ breaks e known)) :
    t.Throughout c n es ending P ↔
      P (t.leases.get? n) ∧ t.Unbroken c n es ending breaks := by
  constructor
  · intro h
    refine ⟨h [] t (List.nil_prefix) (by simp) rfl, ?_⟩
    intro pre e s hpre hending hs
    have hPs : P (s.leases.get? n) :=
      h pre s ((List.prefix_append pre [e]).trans hpre)
        (fun f hf => hending f (List.mem_append_left _ hf)) hs
    obtain ⟨v, hv⟩ := run?_of_prefix hrun hpre
    have hPv : P (v.leases.get? n) := h (pre ++ [e]) v hpre hending hv
    obtain ⟨s', hs', hstep⟩ := run?_concat_eq_some.1 hv
    obtain rfl : s' = s := Option.some.inj (hs'.symm.trans hs)
    rw [get?_of_step? hstep] at hPv
    exact (hbreaks e _ (hending e (by simp)) hPs).1 hPv
  · rintro ⟨hstart, hunbroken⟩ pre s hpre hending hs
    induction pre using List.reverseRecOn generalizing s with
    | nil =>
        obtain rfl := Option.some.inj hs
        exact hstart
    | append_singleton pre e ih =>
        obtain ⟨s', hs', hstep⟩ := run?_concat_eq_some.1 hs
        have hPs' : P (s'.leases.get? n) :=
          ih s' ((List.prefix_append pre [e]).trans hpre)
            (fun f hf => hending f (List.mem_append_left _ hf)) hs'
        rw [get?_of_step? hstep]
        exact (hbreaks e _ (hending e (by simp)) hPs').2 (hunbroken pre e s' hpre hending hs')

end Traffic

end StoreGate
