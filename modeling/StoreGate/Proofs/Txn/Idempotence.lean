import StoreGate.Proofs.Txn.Tracking

/-!
# One transaction for each label

An engine that keeps its labels grants a transaction for a label once, and gives the same one back
whenever the label is begun again. The registry hears of these answers in any order: a begin that
finds the transaction under way may be recorded before the one that the engine has granted it to,
and then it is the one that puts up the lease. The lease comes out the same all the same, because
the fresh begin renews it and the others leave it alone.

* `Traffic.granted_perm` — every granted transaction is recorded once, or has still to be.
* `KeepsLabels.exists_oneFresh` — the first begin of a label, in the engine's order, is the fresh
  one.
* `Traffic.get?_of_only_fresh` — the one fresh record of a transaction decides its lease.
* `begin_idempotent` — what begins come to, and the leases that they leave.
-/

namespace StoreGate

/-! ## Granted and recorded transactions -/

namespace Task

/-- The transaction that has to be recorded in a task. -/
def grant? : Task → Option Grant
  | record g => some g
  | mark _ _ _ | sweep _ => none

theorem filterMap_grant?_sweepOf (leases : List Lease) :
    (sweepOf leases).filterMap grant? = [] := by
  cases leases <;> rfl

end Task

namespace Event

/-- The transaction that the engine grants with the event. -/
def grant? : Event → Option Grant
  | beginAnswered _ call _ (.ok o) => some ⟨call, o⟩
  | beginAnswered _ _ _ (.error _) | recorded _ _ | endAnswered _ _ _ _ _ _ | marked _ _ _
  | sweepStarted _ _ | sweepAnswered _ _ _ _ _ => none

/-- The transaction that is recorded with the event. -/
def record? : Event → Option Grant
  | recorded g _ => some g
  | beginAnswered _ _ _ _ | endAnswered _ _ _ _ _ _ | marked _ _ _ | sweepStarted _ _
  | sweepAnswered _ _ _ _ _ => none

theorem eq_of_grant? {e : Event} {g : Grant} (h : e.grant? = some g) :
    ∃ turn replies, e = .beginAnswered turn g.call replies (.ok g.outcome) := by
  cases e with
  | beginAnswered turn call replies result =>
      cases result with
      | error f => cases h
      | ok o =>
          obtain rfl := Option.some.inj h
          exact ⟨turn, replies, rfl⟩
  | recorded g' now => cases h
  | endAnswered turn ending database txnId replies result => cases h
  | marked ending txnId rest => cases h
  | sweepStarted now order => cases h
  | sweepAnswered turn lease rest replies result => cases h

theorem record?_eq_some {e : Event} {g : Grant} :
    e.record? = some g ↔ ∃ now, e = .recorded g now := by
  cases e <;> simp [record?]

/-- The transaction that an event grants is the one that has to be recorded after it. -/
theorem filterMap_grant?_newTasks (e : Event) (r : Registry) :
    (e.newTasks r).filterMap Task.grant? = e.grant?.toList := by
  cases e with
  | beginAnswered turn call replies result => cases result <;> rfl
  | endAnswered turn ending database txnId replies result => cases result <;> rfl
  | sweepAnswered turn lease rest replies result =>
      cases result with
      | error f => exact Task.filterMap_grant?_sweepOf rest
      | ok u => rfl
  | marked ending txnId rest => exact Task.filterMap_grant?_sweepOf rest
  | sweepStarted now order => exact Task.filterMap_grant?_sweepOf _
  | recorded g now => rfl

theorem task?_bind_grant? (e : Event) : e.task?.bind Task.grant? = e.record? := by
  cases e <;> rfl

/-- The transactions that had to be recorded before an event are the one that it records and those
of the tasks that it leaves. -/
theorem filterMap_grant?_tasks {e : Event} {tasks : List Task}
    (h : ∀ task ∈ e.task?, task ∈ tasks) :
    (tasks.filterMap Task.grant?).Perm
      (e.record?.toList ++
        (e.task?.elim tasks fun task => tasks.erase task).filterMap Task.grant?) := by
  rw [← task?_bind_grant?]
  cases htask : e.task? with
  | none => exact List.Perm.refl _
  | some task =>
      have hperm := (List.perm_cons_erase (h task htask)).filterMap Task.grant?
      rw [List.filterMap_cons] at hperm
      cases hgrant : task.grant? <;> simpa [hgrant] using hperm

end Event

namespace Traffic

variable {c : Coordinator} {es : List Event} {t : Traffic} {n : Int}

/-- **Every granted transaction is recorded once, or has still to be.** -/
theorem granted_perm (h : idle.run? c es = some t) :
    (es.filterMap Event.grant?).Perm
      (es.filterMap Event.record? ++ t.tasks.filterMap Task.grant?) := by
  refine run_induction (motive := fun es t => (es.filterMap Event.grant?).Perm
    (es.filterMap Event.record? ++ t.tasks.filterMap Task.grant?)) (List.Perm.refl _) ?_ h
  intro es s e u _ ih hstep
  obtain ⟨⟨-, htask⟩, -, htasks⟩ := step?_eq_some.1 hstep
  have hrest := Event.filterMap_grant?_tasks htask
  rw [htasks, List.filterMap_append, List.filterMap_append, List.filterMap_append,
    Event.filterMap_grant?_newTasks]
  generalize (e.task?.elim s.tasks fun task => s.tasks.erase task).filterMap Task.grant? = rest
    at hrest ⊢
  have hgrant : [e].filterMap Event.grant? = e.grant?.toList := by
    cases hg : e.grant? <;> simp [hg]
  have hrecord : [e].filterMap Event.record? = e.record?.toList := by
    cases hr : e.record? <;> simp [hr]
  rw [hgrant, hrecord]
  have hswap : (es.filterMap Event.record? ++ (e.record?.toList ++ rest) ++ e.grant?.toList).Perm
      (es.filterMap Event.record? ++ e.record?.toList ++ (e.grant?.toList ++ rest)) := by
    simp only [List.append_assoc]
    exact (List.perm_append_comm.append_left _).append_left _
  exact (ih.append_right _).trans (((hrest.append_left _).append_right _).trans hswap)

/-- A lease stands for a transaction that has been recorded. -/
theorem recorded_of_get? (h : idle.run? c es = some t) {l : Lease}
    (hl : t.leases.get? n = some l) : ∃ g ∈ es.filterMap Event.record?, g.outcome.txnId = n := by
  refine run_induction (motive := fun es t => ∀ l, t.leases.get? n = some l →
    ∃ g ∈ es.filterMap Event.record?, g.outcome.txnId = n) (fun l hl => by cases hl) ?_ h l hl
  intro es s e u _ ih hstep l hl
  rw [List.filterMap_append]
  have hlater : ∀ k, s.leases.get? n = some k →
      ∃ g ∈ es.filterMap Event.record? ++ [e].filterMap Event.record?, g.outcome.txnId = n := by
    intro k hk
    obtain ⟨g, hg, hn⟩ := ih k hk
    exact ⟨g, List.mem_append_left _ hg, hn⟩
  rw [get?_of_step? hstep] at hl
  rcases Event.changeLease_eq_some hl with
    ⟨g, now, rfl, hn, -⟩ | ⟨ending, rest, k, -, hk, -⟩ | hk
  · exact ⟨g, List.mem_append_right _ (List.mem_singleton_self g), hn⟩
  · exact hlater k hk
  · exact hlater l hk

end Traffic

/-! ## Answers of the engine -/

namespace TxnReply

/-- The reply grants a transaction that is new. -/
def Grants (r : TxnReply) (n : Int) : Prop :=
  r.status = .success ∧ r.txnId = n ∧ r.existingTxnId = none

/-- The reply gives back a transaction that is under way. -/
def GivesBack (r : TxnReply) (n : Int) : Prop :=
  (r.status = .success ∨ r.status = .labelAlreadyExists) ∧ r.existingTxnId = some n

theorem beginOutcome_of_grants {r : TxnReply} {n : Int} (h : r.Grants n) (label : String) :
    r.beginOutcome label = .ok ⟨n, label, false⟩ := by
  obtain ⟨hstatus, rfl, hexisting⟩ := h
  simp [beginOutcome, existing, hstatus, hexisting]

theorem beginOutcome_of_givesBack {r : TxnReply} {n : Int} (h : r.GivesBack n) (hpos : 0 < n)
    (label : String) : r.beginOutcome label = .ok ⟨n, r.label.getD label, true⟩ := by
  obtain ⟨hstatus | hstatus, hexisting⟩ := h <;>
    simp [beginOutcome, existing, Option.filter, hstatus, hexisting, hpos]

end TxnReply

namespace Event

/-- The engine answers a begin of the label with the reply. -/
def AnswersBegin (label : String) (r : TxnReply) : Event → Prop
  | beginAnswered _ call replies _ => call.label = label ∧ ControlReply replies r
  | recorded _ _ | endAnswered _ _ _ _ _ _ | marked _ _ _ | sweepStarted _ _
  | sweepAnswered _ _ _ _ _ => False

variable {c : Coordinator} {e : Event} {g : Grant} {label : String} {r : TxnReply}

/-- What a begin comes to is what the engine has answered. -/
theorem grant?_of_answersBegin {o : BeginOutcome} (hgenuine : e.IsGenuine c)
    (h : e.AnswersBegin label r) (ho : r.beginOutcome label = .ok o) :
    ∃ g, e.grant? = some g ∧ g.call.label = label ∧ g.outcome = o := by
  cases e with
  | beginAnswered turn call replies result =>
      obtain ⟨rfl, hr⟩ := h
      obtain rfl : result = .ok o := (Client.replay_beginTxn_eq hgenuine hr).trans ho
      exact ⟨⟨call, o⟩, rfl, rfl, rfl⟩
  | recorded g now => cases h
  | endAnswered turn ending database txnId replies result => cases h
  | marked ending txnId rest => cases h
  | sweepStarted now order => cases h
  | sweepAnswered turn lease rest replies result => cases h

/-- A granted transaction was answered for. -/
theorem answersBegin_of_grant? (hgenuine : e.IsGenuine c) (h : e.grant? = some g) :
    ∃ r, e.AnswersBegin g.call.label r := by
  obtain ⟨turn, replies, rfl⟩ := eq_of_grant? h
  obtain ⟨-, r, hr, -⟩ := Client.replay_beginTxn_ok hgenuine
  exact ⟨r, rfl, hr⟩

end Event

/-- The engine has answered a begin of the label. -/
def LabelAnswered (es : List Event) (label : String) : Prop :=
  ∃ e ∈ es, ∃ r, e.AnswersBegin label r

theorem LabelAnswered.mono {es fs : List Event} {label : String} (h : LabelAnswered es label)
    (hpre : es <+: fs) : LabelAnswered fs label := by
  obtain ⟨e, he, h⟩ := h
  exact ⟨e, hpre.subset he, h⟩

theorem labelAnswered_concat {es : List Event} {e : Event} {label : String} :
    LabelAnswered (es ++ [e]) label ↔ LabelAnswered es label ∨ ∃ r, e.AnswersBegin label r := by
  simp only [LabelAnswered, List.mem_append, List.mem_singleton, or_and_right, exists_or,
    exists_eq_left]

/-- The engine keeps one transaction for each label: it grants a new one under a positive number
when the label is first begun, and gives it back whenever the label is begun again. -/
structure KeepsLabels (ids : String → Int) (es : List Event) : Prop where
  positive : ∀ label, LabelAnswered es label → 0 < ids label
  distinct : ∀ a b, LabelAnswered es a → LabelAnswered es b → ids a = ids b → a = b
  first : ∀ pre e label r, pre ++ [e] <+: es → e.AnswersBegin label r →
    ¬ LabelAnswered pre label → r.Grants (ids label)
  again : ∀ pre e label r, pre ++ [e] <+: es → e.AnswersBegin label r →
    LabelAnswered pre label → r.GivesBack (ids label)

/-! ## Grants of a label -/

/-- The transactions that begins of the label have been granted, in the engine's order. -/
def grantsOf (label : String) (es : List Event) : List Grant :=
  (es.filterMap Event.grant?).filter fun g => decide (g.call.label = label)

/-- The first of the grants is new to the engine, and the others give the same transaction back. -/
def OneFresh (n : Int) (g : Grant) (grants : List Grant) : Prop :=
  ∃ rest, grants = g :: rest ∧ g.IsFresh n ∧
    ∀ h ∈ rest, h.outcome.txnId = n ∧ h.outcome.reused = true

namespace OneFresh

variable {n : Int} {g h : Grant} {grants : List Grant}

theorem concat (hone : OneFresh n g grants)
    (hreused : h.outcome.txnId = n ∧ h.outcome.reused = true) : OneFresh n g (grants ++ [h]) := by
  obtain ⟨rest, rfl, hfresh, hrest⟩ := hone
  refine ⟨rest ++ [h], rfl, hfresh, ?_⟩
  intro k hk
  rcases List.mem_append.1 hk with hk | hk
  · exact hrest k hk
  · rwa [List.mem_singleton.1 hk]

theorem txnId (hone : OneFresh n g grants) (hh : h ∈ grants) : h.outcome.txnId = n := by
  obtain ⟨rest, rfl, hfresh, hrest⟩ := hone
  rcases List.mem_cons.1 hh with rfl | hh
  · exact hfresh.1
  · exact (hrest h hh).1

/-- The first of them is the only one that is fresh. -/
theorem filter_isFresh (hone : OneFresh n g grants) :
    (grants.filter fun h => decide (h.IsFresh n)) = [g] := by
  obtain ⟨rest, rfl, hfresh, hrest⟩ := hone
  have hnone : (rest.filter fun h => decide (h.IsFresh n)) = [] := by
    refine List.filter_eq_nil_iff.2 fun h hh hfresh' => ?_
    exact absurd ((hrest h hh).2.symm.trans (of_decide_eq_true hfresh').2) (by decide)
  simp [hfresh, hnone]

end OneFresh

theorem grantsOf_concat {label : String} {e : Event} {g : Grant} (es : List Event)
    (hg : e.grant? = some g) (hlabel : g.call.label = label) :
    grantsOf label (es ++ [e]) = grantsOf label es ++ [g] := by
  simp [grantsOf, List.filterMap_append, hg, hlabel]

theorem grantsOf_concat_of_ne {label : String} {e : Event} (es : List Event)
    (hne : ∀ g, e.grant? = some g → g.call.label ≠ label) :
    grantsOf label (es ++ [e]) = grantsOf label es := by
  cases hg : e.grant? with
  | none => simp [grantsOf, List.filterMap_append, hg]
  | some g => simp [grantsOf, List.filterMap_append, hg, hne g hg]

section Run

variable {c : Coordinator} {ids : String → Int} {es fs : List Event} {label : String}

/-- A begin of the label that is granted a transaction was answered. -/
theorem labelAnswered_of_mem (hgenuine : ∀ e ∈ es, e.IsGenuine c) {g : Grant}
    (hg : g ∈ es.filterMap Event.grant?) : LabelAnswered es g.call.label := by
  obtain ⟨e, he, hg⟩ := List.mem_filterMap.1 hg
  exact ⟨e, he, Event.answersBegin_of_grant? (hgenuine e he) hg⟩

theorem grantsOf_eq_nil (hgenuine : ∀ e ∈ es, e.IsGenuine c) (h : ¬ LabelAnswered es label) :
    grantsOf label es = [] := by
  refine List.filter_eq_nil_iff.2 fun g hg hlabel => h ?_
  rw [← of_decide_eq_true hlabel]
  exact labelAnswered_of_mem hgenuine hg

namespace KeepsLabels

theorem of_prefix (h : KeepsLabels ids fs) (hpre : es <+: fs) : KeepsLabels ids es where
  positive label ha := h.positive label (ha.mono hpre)
  distinct a b ha hb := h.distinct a b (ha.mono hpre) (hb.mono hpre)
  first pre e label r he := h.first pre e label r (he.trans hpre)
  again pre e label r he := h.again pre e label r (he.trans hpre)

/-- A begin that is answered gives the number of its label, and it is fresh exactly if the label was
new. -/
theorem exists_beginOutcome (h : KeepsLabels ids es) {pre : List Event} {e : Event} {r : TxnReply}
    (hpre : pre ++ [e] <+: es) (hr : e.AnswersBegin label r) :
    ∃ o, r.beginOutcome label = .ok o ∧ o.txnId = ids label ∧
      (o.reused = true ↔ LabelAnswered pre label) := by
  by_cases hold : LabelAnswered pre label
  · have hpos : 0 < ids label :=
      h.positive label ((labelAnswered_concat.2 (Or.inl hold)).mono hpre)
    exact ⟨_, TxnReply.beginOutcome_of_givesBack (h.again pre e label r hpre hr hold) hpos label,
      rfl, iff_of_true rfl hold⟩
  · exact ⟨_, TxnReply.beginOutcome_of_grants (h.first pre e label r hpre hr hold) label,
      rfl, iff_of_false Bool.false_ne_true hold⟩

/-- **The first begin of a label is the fresh one**, in the engine's order; the others are given
its transaction. -/
theorem exists_oneFresh (h : KeepsLabels ids es) (hgenuine : ∀ e ∈ es, e.IsGenuine c)
    (hanswered : LabelAnswered es label) :
    ∃ g, OneFresh (ids label) g (grantsOf label es) := by
  induction es using List.reverseRecOn with
  | nil =>
      obtain ⟨e, he, -⟩ := hanswered
      cases he
  | append_singleton es e ih =>
      have hbefore : ∀ f ∈ es, f.IsGenuine c := fun f hf => hgenuine f (List.mem_append_left _ hf)
      have hlast : e.IsGenuine c := hgenuine e (by simp)
      have ih' := ih (h.of_prefix (List.prefix_append es [e])) hbefore
      by_cases hr : ∃ r, e.AnswersBegin label r
      · obtain ⟨r, hr⟩ := hr
        obtain ⟨o, ho, htxnId, hreused⟩ := h.exists_beginOutcome List.prefix_rfl hr
        obtain ⟨g, hg, hlabel, rfl⟩ := Event.grant?_of_answersBegin hlast hr ho
        rw [grantsOf_concat es hg hlabel]
        by_cases hold : LabelAnswered es label
        · obtain ⟨g', hone⟩ := ih' hold
          exact ⟨g', hone.concat ⟨htxnId, hreused.2 hold⟩⟩
        · rw [grantsOf_eq_nil hbefore hold]
          have hfresh : g.outcome.reused = false := by
            rw [← Bool.not_eq_true, hreused]
            exact hold
          exact ⟨g, [], rfl, ⟨htxnId, hfresh⟩, by simp⟩
      -- the event answers no begin of the label
      · rw [grantsOf_concat_of_ne es ?_]
        · exact ih' ((labelAnswered_concat.1 hanswered).resolve_right hr)
        · rintro g hg rfl
          exact hr (Event.answersBegin_of_grant? hlast hg)

/-- Every granted transaction has the number of its label. -/
theorem txnId_of_mem (h : KeepsLabels ids es) (hgenuine : ∀ e ∈ es, e.IsGenuine c) {g : Grant}
    (hg : g ∈ es.filterMap Event.grant?) : g.outcome.txnId = ids g.call.label := by
  obtain ⟨g', hone⟩ := h.exists_oneFresh hgenuine (labelAnswered_of_mem hgenuine hg)
  exact hone.txnId (List.mem_filter.2 ⟨hg, decide_eq_true rfl⟩)

/-- The fresh begin of a label is the only one that is granted its number afresh. -/
theorem filter_isFresh (h : KeepsLabels ids es) (hgenuine : ∀ e ∈ es, e.IsGenuine c) {g : Grant}
    (hanswered : LabelAnswered es label) (hone : OneFresh (ids label) g (grantsOf label es)) :
    ((es.filterMap Event.grant?).filter fun k => decide (k.IsFresh (ids label))) = [g] := by
  rw [← hone.filter_isFresh, grantsOf, List.filter_filter]
  refine List.filter_congr fun k hk => ?_
  have hlabel : k.IsFresh (ids label) → k.call.label = label := by
    intro hfresh
    refine h.distinct _ _ (labelAnswered_of_mem hgenuine hk) hanswered ?_
    rw [← h.txnId_of_mem hgenuine hk, hfresh.1]
  by_cases hfresh : k.IsFresh (ids label) <;> simp [hfresh, hlabel]

end KeepsLabels

end Run

/-! ## Begins side by side -/

namespace Traffic

variable {c : Coordinator} {es : List Event} {t : Traffic} {n : Int}

/-- What is recorded last is what has been granted, once no transaction has to be recorded. -/
theorem recorded_perm (h : idle.run? c es = some t) (hdone : ∀ g, Task.record g ∉ t.tasks) :
    (es.filterMap Event.grant?).Perm (es.filterMap Event.record?) := by
  have hnone : t.tasks.filterMap Task.grant? = [] := by
    refine List.filterMap_eq_nil_iff.2 fun task htask => ?_
    cases task with
    | record g => exact absurd htask (hdone g)
    | mark ending txnId rest => rfl
    | sweep leases => rfl
  have hperm := granted_perm h
  rwa [hnone, List.append_nil] at hperm

/-- **The fresh record of a transaction decides its lease**, if it is the only one and no end is
marked: whatever is recorded before it and after it, the lease is open and expires as it says. -/
theorem get?_of_only_fresh (h : idle.run? c es = some t)
    (hends : ∀ ending txnId rest, Event.marked ending txnId rest ∉ es) {g : Grant}
    (honly : ((es.filterMap Event.record?).filter fun k => decide (k.IsFresh n)) = [g]) :
    ∃ now l, (∀ now', .recorded g now' ∈ es ↔ now' = now) ∧ t.leases.get? n = some l ∧
      l.state = .begun ∧ l.expiresAt = Lease.expiry now g.call.timeoutSecs c.grace := by
  rw [List.filter_filterMap, List.filterMap_eq_cons_iff] at honly
  obtain ⟨before, e, after, rfl, hbefore, he, hafter⟩ := honly
  obtain ⟨hrecord, hfresh⟩ := Option.filter_eq_some_iff.1 he
  obtain ⟨now, rfl⟩ := Event.record?_eq_some.1 hrecord
  have hfresh : g.IsFresh n := of_decide_eq_true hfresh
  have hother : ∀ {f k now'}, f ∈ before ∨ f ∈ after → f = .recorded k now' → ¬ k.IsFresh n := by
    rintro f k now' hf rfl hk
    rcases hf with hf | hf
    · exact Option.filter_eq_none_iff.1 (hbefore _ hf) k rfl (decide_eq_true hk)
    · exact Option.filter_eq_none_iff.1 (List.filterMap_eq_nil_iff.1 hafter _ hf) k rfl
        (decide_eq_true hk)
  -- an open lease changes with marks and with fresh records alone
  have hkeep : ∀ f ∈ after, ¬ f.Rewrites n := by
    intro f hf
    cases f with
    | recorded k now' => exact hother (Or.inr hf) rfl
    | marked ending txnId rest => exact absurd (by simp [hf]) (hends ending txnId rest)
    | beginAnswered turn call replies result => exact id
    | endAnswered turn ending database txnId replies result => exact id
    | sweepStarted now' order => exact id
    | sweepAnswered turn lease rest replies result => exact id
  obtain ⟨s, -, hs⟩ := run?_append_eq_some.1 h
  obtain ⟨u, hu, hrun⟩ := run?_cons_eq_some.1 hs
  have hl := get?_of_recorded hu
  rw [hfresh.1] at hl
  obtain ⟨hopen, hexpires⟩ := Registry.trackedLease_fresh (s.leases.get? n) hfresh.2
  refine ⟨now, _, ?_, get?_of_run? hrun hl hopen hkeep, hopen, hexpires⟩
  intro now'
  constructor
  · intro hmem
    rcases List.mem_append.1 hmem with hmem | hmem
    · exact absurd hfresh (hother (Or.inl hmem) rfl)
    · rcases List.mem_cons.1 hmem with heq | hmem
      · exact (Event.recorded.inj heq).2
      · exact absurd hfresh (hother (Or.inr hmem) rfl)
  · rintro rfl
    simp

end Traffic

/-- What the begins of a label come to: they give one transaction, which was granted by the first of
them, and its lease is as that one has recorded it. -/
structure BegunOnce (c : Coordinator) (es : List Event) (t : Traffic) (label : String) (n : Int)
    (g : Grant) (now : Instant) (l : Lease) : Prop where
  /-- All of them give the number, and the first one in the engine's order alone is fresh. -/
  grants : OneFresh n g (grantsOf label es)
  /-- The fresh one was recorded at one time. -/
  recorded : ∀ now', .recorded g now' ∈ es ↔ now' = now
  lease : t.leases.get? n = some l
  state : l.state = .begun
  /-- The lease expires as the fresh one has it, whatever the others have asked for. -/
  expiresAt : l.expiresAt = Lease.expiry now g.call.timeoutSecs c.grace

namespace KeepsLabels

variable {c : Coordinator} {es : List Event} {t : Traffic} {ids : String → Int}

/-- The begins that succeed are those that the engine has answered. -/
theorem ok_iff_answered (h : KeepsLabels ids es) (hgenuine : ∀ e ∈ es, e.IsGenuine c) {turn : Turn}
    {call : BeginCall} {replies : List Outcome} {result : Except Fault BeginOutcome}
    (hmem : .beginAnswered turn call replies result ∈ es) :
    (∃ o, result = .ok o) ↔ ∃ r, ControlReply replies r := by
  constructor
  · rintro ⟨o, rfl⟩
    obtain ⟨-, r, hr, -⟩ := Client.replay_beginTxn_ok (hgenuine _ hmem)
    exact ⟨r, hr⟩
  · rintro ⟨r, hr⟩
    obtain ⟨pre, post, hsplit⟩ := List.append_of_mem hmem
    have hpre : pre ++ [.beginAnswered turn call replies result] <+: es :=
      ⟨post, by simp [hsplit]⟩
    have hanswers : Event.AnswersBegin call.label r (.beginAnswered turn call replies result) :=
      ⟨rfl, hr⟩
    obtain ⟨o, ho, -⟩ := h.exists_beginOutcome hpre hanswers
    exact ⟨o, (Client.replay_beginTxn_eq (hgenuine _ hmem) hr).trans ho⟩

/-- **The begins of a label leave one open lease**, in whatever order they are recorded. -/
theorem exists_begunOnce (h : KeepsLabels ids es) (hrun : Traffic.idle.run? c es = some t)
    (hends : ∀ ending txnId rest, Event.marked ending txnId rest ∉ es)
    (hdone : ∀ g, Task.record g ∉ t.tasks) {label : String} (hanswered : LabelAnswered es label) :
    ∃ g now l, BegunOnce c es t label (ids label) g now l := by
  have hgenuine : ∀ e ∈ es, e.IsGenuine c := fun e he => Traffic.isGenuine_of_run? hrun he
  obtain ⟨g, hone⟩ := h.exists_oneFresh hgenuine hanswered
  have hperm := (Traffic.recorded_perm hrun hdone).filter fun k => decide (k.IsFresh (ids label))
  rw [h.filter_isFresh hgenuine hanswered hone] at hperm
  obtain ⟨now, l, hrecorded, hl, hopen, hexpires⟩ :=
    Traffic.get?_of_only_fresh hrun hends (List.perm_singleton.1 hperm.symm)
  exact ⟨g, now, l, hone, hrecorded, hl, hopen, hexpires⟩

/-- A lease stands for a label that was answered. -/
theorem exists_label_of_get? (h : KeepsLabels ids es) (hrun : Traffic.idle.run? c es = some t)
    (hdone : ∀ g, Task.record g ∉ t.tasks) {n : Int} {l : Lease}
    (hl : t.leases.get? n = some l) : ∃ label, LabelAnswered es label ∧ ids label = n := by
  have hgenuine : ∀ e ∈ es, e.IsGenuine c := fun e he => Traffic.isGenuine_of_run? hrun he
  obtain ⟨g, hg, rfl⟩ := Traffic.recorded_of_get? hrun hl
  have hgrant := (Traffic.recorded_perm hrun hdone).mem_iff.2 hg
  exact ⟨g.call.label, labelAnswered_of_mem hgenuine hgrant,
    (h.txnId_of_mem hgenuine hgrant).symm⟩

end KeepsLabels

/-- **Begin is idempotent for each label.** Take an engine that keeps its labels, and a run of
interleaved operations in which no end is marked and in which every transaction that the engine has
granted comes to be recorded, in whatever order. Then the begins that succeed are those that the
engine has answered. All begins of one label give the number of the label; the first one in the
engine's order is fresh, and it is the only one. Each label that was answered has one lease, which
is open and expires as the fresh begin has recorded it; there is no other lease. -/
theorem begin_idempotent {c : Coordinator} {es : List Event} {t : Traffic} {ids : String → Int}
    (hrun : Traffic.idle.run? c es = some t)
    (hends : ∀ ending txnId rest, Event.marked ending txnId rest ∉ es)
    (hdone : ∀ g, Task.record g ∉ t.tasks) (hengine : KeepsLabels ids es) :
    (∀ turn call replies result, .beginAnswered turn call replies result ∈ es →
      ((∃ o, result = .ok o) ↔ ∃ r, ControlReply replies r)) ∧
    (∀ label, LabelAnswered es label →
      ∃ g now l, BegunOnce c es t label (ids label) g now l) ∧
    ∀ n, (∃ l, t.leases.get? n = some l) ↔ ∃! label, LabelAnswered es label ∧ ids label = n := by
  have hgenuine : ∀ e ∈ es, e.IsGenuine c := fun e he => Traffic.isGenuine_of_run? hrun he
  refine ⟨?succeed, ?labels, ?leases⟩
  case succeed =>
    intro turn call replies result hmem
    exact hengine.ok_iff_answered hgenuine hmem
  case labels =>
    intro label hanswered
    exact hengine.exists_begunOnce hrun hends hdone hanswered
  case leases =>
    intro n
    constructor
    · rintro ⟨l, hl⟩
      obtain ⟨label, hanswered, hn⟩ := hengine.exists_label_of_get? hrun hdone hl
      refine ⟨label, ⟨hanswered, hn⟩, ?_⟩
      rintro label' ⟨hanswered', hn'⟩
      exact hengine.distinct _ _ hanswered' hanswered (hn'.trans hn.symm)
    · rintro ⟨label, ⟨hanswered, rfl⟩, -⟩
      obtain ⟨g, now, l, hbegun⟩ := hengine.exists_begunOnce hrun hends hdone hanswered
      exact ⟨l, hbegun.lease⟩

namespace Sample

/-- The transaction of the label, asked for with a longer timeout when it is under way. -/
def jobLonger : Grant := ⟨⟨"logs", "app", "job", 600⟩, ⟨7, "job", true⟩⟩

/-- The transaction of another label. -/
def rest : Grant := ⟨⟨"logs", "app", "rest", 60⟩, ⟨8, "rest", false⟩⟩

def jobLongerAnswered : Event :=
  .beginAnswered turn jobLonger.call
    (answer "\x7b\"Status\":\"Label Already Exists\",\"ExistingTxnId\":7\x7d")
    (.ok jobLonger.outcome)

def restAnswered : Event :=
  .beginAnswered turn rest.call (answer "\x7b\"Status\":\"Success\",\"TxnId\":8\x7d")
    (.ok rest.outcome)

/-- The fresh begin of a label is recorded last. -/
def lateEvents : List Event :=
  [jobAnswered, jobLongerAnswered, restAnswered, .recorded jobLonger ⟨5, 0⟩,
    .recorded rest ⟨6, 0⟩, .recorded job ⟨7, 0⟩]

def ids (label : String) : Int := if label = "job" then 7 else 8

/-- An answer has the reply that its body spells, and no other. -/
theorem eq_of_controlReply {body : String} {r r' : TxnReply} (h : ControlReply (answer body) r)
    (hbody : ((Reply.mk 200 [] (.ok body.toUTF8)).text.toOption.bind
      fun text => (TxnReply.parse text).toOption) = some r') : r = r' := by
  obtain ⟨status, text, ⟨reply, hlast, -, -, htext⟩, -, -, hparse⟩ := h
  obtain rfl := Except.ok.inj (Option.some.inj hlast)
  rw [htext] at hbody
  simpa [Except.toOption, hparse] using hbody

theorem prefix_lateEvents {pre : List Event} {e : Event} (h : pre ++ [e] <+: lateEvents) :
    (pre = [] ∧ e = jobAnswered) ∨ (pre = [jobAnswered] ∧ e = jobLongerAnswered) ∨
      (pre = [jobAnswered, jobLongerAnswered] ∧ e = restAnswered) ∨
      ∃ g now, e = .recorded g now := by
  rcases pre with _ | ⟨a, _ | ⟨b, _ | ⟨d, pre⟩⟩⟩
  · simp_all [lateEvents, List.cons_prefix_cons]
  · simp_all [lateEvents, List.cons_prefix_cons]
  · simp_all [lateEvents, List.cons_prefix_cons]
  · simp only [lateEvents, List.cons_append, List.cons_prefix_cons] at h
    obtain ⟨-, -, -, h⟩ := h
    have hmem : e ∈ pre ++ [e] := by simp
    have hrecord := h.subset hmem
    simp only [List.mem_cons, List.not_mem_nil, or_false] at hrecord
    rcases hrecord with rfl | rfl | rfl <;> simp

section Answers

variable {label : String} {r : TxnReply}

theorem answersBegin_jobAnswered (h : jobAnswered.AnswersBegin label r) :
    label = "job" ∧ r.Grants 7 := by
  obtain ⟨rfl, hr⟩ := h
  obtain rfl : r = ⟨.success, 7, none, none, ""⟩ := eq_of_controlReply hr (by decide +kernel)
  exact ⟨rfl, rfl, rfl, rfl⟩

theorem answersBegin_jobLongerAnswered (h : jobLongerAnswered.AnswersBegin label r) :
    label = "job" ∧ r.GivesBack 7 := by
  obtain ⟨rfl, hr⟩ := h
  obtain rfl : r = ⟨.labelAlreadyExists, 0, some 7, none, ""⟩ :=
    eq_of_controlReply hr (by decide +kernel)
  exact ⟨rfl, Or.inr rfl, rfl⟩

theorem answersBegin_restAnswered (h : restAnswered.AnswersBegin label r) :
    label = "rest" ∧ r.Grants 8 := by
  obtain ⟨rfl, hr⟩ := h
  obtain rfl : r = ⟨.success, 8, none, none, ""⟩ := eq_of_controlReply hr (by decide +kernel)
  exact ⟨rfl, rfl, rfl, rfl⟩

theorem labelAnswered_job : LabelAnswered [jobAnswered] "job" := by
  have hgenuine : jobAnswered.IsGenuine (coordinator 0) := by decide +kernel
  exact ⟨jobAnswered, List.mem_singleton_self _, Event.answersBegin_of_grant? hgenuine rfl⟩

theorem labelAnswered_lateEvents (h : LabelAnswered lateEvents label) :
    label = "job" ∨ label = "rest" := by
  obtain ⟨e, he, r, hr⟩ := h
  simp only [lateEvents, List.mem_cons, List.not_mem_nil, or_false] at he
  rcases he with rfl | rfl | rfl | rfl | rfl | rfl
  · exact Or.inl (answersBegin_jobAnswered hr).1
  · exact Or.inl (answersBegin_jobLongerAnswered hr).1
  · exact Or.inr (answersBegin_restAnswered hr).1
  all_goals cases hr

end Answers

theorem keepsLabels_lateEvents : KeepsLabels ids lateEvents where
  positive label _ := by
    unfold ids
    split <;> decide
  distinct a b ha hb h := by
    rcases labelAnswered_lateEvents ha with rfl | rfl
    · rcases labelAnswered_lateEvents hb with rfl | rfl
      · rfl
      · cases h
    · rcases labelAnswered_lateEvents hb with rfl | rfl
      · cases h
      · rfl
  first pre e label r hpre hr hnew := by
    rcases prefix_lateEvents hpre with ⟨rfl, rfl⟩ | ⟨rfl, rfl⟩ | ⟨rfl, rfl⟩ | ⟨g, now, rfl⟩
    · obtain ⟨rfl, hgrants⟩ := answersBegin_jobAnswered hr
      exact hgrants
    · obtain ⟨rfl, -⟩ := answersBegin_jobLongerAnswered hr
      exact absurd labelAnswered_job hnew
    · obtain ⟨rfl, hgrants⟩ := answersBegin_restAnswered hr
      exact hgrants
    · cases hr
  again pre e label r hpre hr hknown := by
    rcases prefix_lateEvents hpre with ⟨rfl, rfl⟩ | ⟨rfl, rfl⟩ | ⟨rfl, rfl⟩ | ⟨g, now, rfl⟩
    · obtain ⟨f, hf, -⟩ := hknown
      cases hf
    · obtain ⟨rfl, hback⟩ := answersBegin_jobLongerAnswered hr
      exact hback
    · obtain ⟨rfl, -⟩ := answersBegin_restAnswered hr
      obtain ⟨f, hf, r', hr'⟩ := hknown
      simp only [List.mem_cons, List.not_mem_nil, or_false] at hf
      rcases hf with rfl | rfl
      · exact absurd (answersBegin_jobAnswered hr').1 (by decide)
      · exact absurd (answersBegin_jobLongerAnswered hr').1 (by decide)
    · cases hr

end Sample

/-- A begin that finds the transaction under way is recorded before the fresh one, and the lease
expires as the fresh one has it. -/
theorem begin_idempotent_of_lateEvents :
    ∃ t l, Traffic.idle.run? (Sample.coordinator 0) Sample.lateEvents = some t ∧
      BegunOnce (Sample.coordinator 0) Sample.lateEvents t "job" 7 Sample.job ⟨7, 0⟩ l ∧
      l.expiresAt = ⟨67, 0⟩ := by
  have hrun : (Traffic.idle.run? (Sample.coordinator 0) Sample.lateEvents).map Traffic.tasks =
      some [] := by decide +kernel
  obtain ⟨t, ht, htasks⟩ := Option.map_eq_some_iff.1 hrun
  have hends : ∀ ending txnId rest, Event.marked ending txnId rest ∉ Sample.lateEvents := by
    simp [Sample.lateEvents, Sample.jobAnswered, Sample.jobLongerAnswered, Sample.restAnswered]
  have hanswered : LabelAnswered Sample.lateEvents "job" :=
    Sample.labelAnswered_job.mono (by simp [Sample.lateEvents])
  obtain ⟨-, hlabel, -⟩ :=
    begin_idempotent ht hends (by simp [htasks]) Sample.keepsLabels_lateEvents
  obtain ⟨g, now, l, hbegun⟩ := hlabel "job" hanswered
  have hgrants : grantsOf "job" Sample.lateEvents = [Sample.job, Sample.jobLonger] := rfl
  obtain ⟨rest, hrest, -⟩ := hbegun.grants
  obtain ⟨rfl, -⟩ := List.cons.inj (hgrants.symm.trans hrest)
  obtain rfl : ⟨7, 0⟩ = now := (hbegun.recorded ⟨7, 0⟩).1 (by simp [Sample.lateEvents])
  exact ⟨t, l, ht, hbegun, hbegun.expiresAt.trans (by decide +kernel)⟩

end StoreGate
