import Mathlib.Data.List.Basic
import StoreGate.Search.Result

/-!
# Searches with several statements in flight

A search may send the statement of the next table before the one before it is answered, as long as
not too many statements are in flight. Answers come in any order; what a table came to is handed on
when everything before it has been handed on. So a schedule decides what happens when, but not what
the search finds.

* `Executor` — what executes statements; `Executor.AnswersBy` — it looks at nothing but the
  statement.
* `Window`, `Window.step?` — a search under way, and what one move makes of it.
* `Window.Keeps` — every table is in one place of the window, and outcomes are those of its
  statements; each move keeps this.
* `Window.exists_run?` — a search under way can always go on, and it comes to an end.
* `search_of_schedule` — every schedule, with any number of statements in flight, finds what
  executing one statement after another finds.
-/

namespace StoreGate

variable {σ : Type}

/-! ## Executors -/

/-- What executes statements while others are under way: what becomes of its state when a statement
is sent, and what the statement is answered and what becomes of the state when it is finished. -/
structure Executor (σ : Type) where
  send : String → σ → σ
  finish : String → σ → Except Fault QueryResult × σ

namespace Executor

/-- A statement on its own is sent and finished at once. -/
def execute (x : Executor σ) (sql : String) : StateM σ (Except Fault QueryResult) :=
  fun state => x.finish sql (x.send sql state)

/-- What a statement is answered depends on the statement alone. -/
def AnswersBy (x : Executor σ) (answer : String → Except Fault QueryResult) : Prop :=
  ∀ sql state, (x.finish sql state).1 = answer sql

end Executor

/-! ## Windows -/

/-- Takes the first value at a place out of a list. -/
def takeOut? {α : Type} (place : Nat) : List (Nat × α) → Option (α × List (Nat × α))
  | [] => none
  | (n, a) :: rest =>
    if n = place then some (a, rest)
    else (takeOut? place rest).map fun (b, others) => (b, (n, a) :: others)

/-- A search under way. Plans and outcomes that have not been handed on are kept with their places
in the request. -/
structure Window (σ : Type) where
  /-- The plans whose statements have not been sent. -/
  waiting : List (Nat × TablePlan)
  /-- The plans whose statements have been sent and not answered. -/
  inFlight : List (Nat × TablePlan)
  /-- The outcomes that have come in and wait for those before them. -/
  parked : List (Nat × SearchResult.Outcome)
  /-- The outcomes that have been handed on. -/
  gathered : List SearchResult.Outcome
  state : σ

namespace Window

inductive Move where
  /-- The statement of the next plan is sent. -/
  | send
  /-- The statement of the plan at a place is answered. -/
  | finish (place : Nat)
  /-- The next outcome is handed on. -/
  | handOn
deriving DecidableEq, Repr

/-- Nothing has been sent. -/
def start (plans : List TablePlan) (state : σ) : Window σ where
  waiting := plans.mapIdx Prod.mk
  inFlight := []
  parked := []
  gathered := []
  state := state

/-- What a move makes of a window with at most `limit` statements in flight, if the move can be
made. -/
def step? (x : Executor σ) (limit : Nat) (w : Window σ) : Move → Option (Window σ)
  | .send =>
    match w.waiting with
    | [] => none
    | (place, p) :: rest =>
      if w.inFlight.length < limit then
        some { w with
          waiting := rest
          inFlight := (place, p) :: w.inFlight
          state := x.send p.sql w.state }
      else none
  | .finish place =>
    (takeOut? place w.inFlight).map fun (p, others) =>
      { w with
        inFlight := others
        parked := (place, (p, (x.finish p.sql w.state).1)) :: w.parked
        state := (x.finish p.sql w.state).2 }
  | .handOn =>
    (takeOut? w.gathered.length w.parked).map fun (o, others) =>
      { w with
        parked := others
        gathered := w.gathered ++ [o] }

/-- What moves in turn make of a window. -/
def run? (x : Executor σ) (limit : Nat) (w : Window σ) (moves : List Move) : Option (Window σ) :=
  moves.foldlM (step? x limit) w

/-- Everything has been handed on. -/
def isOver (w : Window σ) : Bool := w.waiting.isEmpty && w.inFlight.isEmpty && w.parked.isEmpty

/-- What a search that is over has found. -/
def result? (config : SearchConfig) (r : SearchRequest) (w : Window σ) :
    Option (Except Fault SearchResult) :=
  if w.isOver then some (.ok (SearchResult.ofOutcomes config r w.gathered)) else none

end Window

/-- The most statements in flight at once, at least one. -/
def SearchConfig.inFlightLimit (c : SearchConfig) : Nat := max c.fanOut 1

/-- What a search comes to under a schedule; nothing, if the schedule makes a move that cannot be
made, or stops before the search is over. -/
def SearchRequest.scheduled (r : SearchRequest) (x : Executor σ) (config : SearchConfig) (state : σ)
    (moves : List Window.Move) : Option (Except Fault SearchResult) :=
  match r.plan config.tableLimit config.timeField with
  | .error e => if moves.isEmpty then some (.error e.fault) else none
  | .ok plans =>
    ((Window.start plans state).run? x config.inFlightLimit moves).bind (Window.result? config r)

/-! ## Taking out -/

section TakeOut

variable {α : Type} {place : Nat}

/-- What is taken out was in the list, and the others stay. -/
theorem perm_of_takeOut? {items others : List (Nat × α)} {a : α}
    (h : takeOut? place items = some (a, others)) : items.Perm ((place, a) :: others) := by
  induction items generalizing a others with
  | nil => cases h
  | cons item rest ih =>
      obtain ⟨n, b⟩ := item
      unfold takeOut? at h
      split at h
      · next hn =>
        cases h
        rw [hn]
      · obtain ⟨⟨a', others'⟩, hrest, heq⟩ := Option.map_eq_some_iff.1 h
        obtain ⟨rfl, rfl⟩ := Prod.mk.inj heq
        exact ((ih hrest).cons (n, b)).trans (List.Perm.swap _ _ _)

theorem exists_takeOut? {items : List (Nat × α)} (h : place ∈ items.map Prod.fst) :
    ∃ a others, takeOut? place items = some (a, others) := by
  induction items with
  | nil => cases h
  | cons item rest ih =>
      obtain ⟨n, b⟩ := item
      unfold takeOut?
      by_cases hn : n = place
      · exact ⟨b, rest, if_pos hn⟩
      · rw [if_neg hn]
        rcases List.mem_cons.1 h with h | h
        · exact absurd h.symm hn
        · obtain ⟨a, others, hrest⟩ := ih h
          exact ⟨a, (n, b) :: others, by rw [hrest]; rfl⟩

end TakeOut

/-! ## One move -/

namespace Window

variable {x : Executor σ} {limit : Nat} {w w' : Window σ}

theorem send_eq_some (h : w.step? x limit .send = some w') :
    ∃ place p rest, w.waiting = (place, p) :: rest ∧ w.inFlight.length < limit ∧
      w' = { w with
        waiting := rest
        inFlight := (place, p) :: w.inFlight
        state := x.send p.sql w.state } := by
  unfold step? at h
  dsimp only at h
  split at h
  · cases h
  · next place p rest hwaiting =>
    split at h
    · next hroom => exact ⟨place, p, rest, hwaiting, hroom, (Option.some.inj h).symm⟩
    · cases h

theorem finish_eq_some {place : Nat} (h : w.step? x limit (.finish place) = some w') :
    ∃ p others, w.inFlight.Perm ((place, p) :: others) ∧
      w' = { w with
        inFlight := others
        parked := (place, (p, (x.finish p.sql w.state).1)) :: w.parked
        state := (x.finish p.sql w.state).2 } := by
  obtain ⟨⟨p, others⟩, htake, heq⟩ := Option.map_eq_some_iff.1 h
  exact ⟨p, others, perm_of_takeOut? htake, heq.symm⟩

theorem handOn_eq_some (h : w.step? x limit .handOn = some w') :
    ∃ o others, w.parked.Perm ((w.gathered.length, o) :: others) ∧
      w' = { w with
        parked := others
        gathered := w.gathered ++ [o] } := by
  obtain ⟨⟨o, others⟩, htake, heq⟩ := Option.map_eq_some_iff.1 h
  exact ⟨o, others, perm_of_takeOut? htake, heq.symm⟩

/-! ## What moves keep -/

/-- All plans with their places, wherever in the window they are. -/
def placed (w : Window σ) : List (Nat × TablePlan) :=
  w.waiting ++ (w.inFlight ++ (w.parked.map (fun e => (e.1, e.2.1)) ++
    w.gathered.mapIdx fun place o => (place, o.1)))

/-- Every plan is in one place of the window, every outcome is what its statement is answered, and
there are no more statements in flight than there may be. -/
structure Keeps (answer : String → Except Fault QueryResult) (limit : Nat) (plans : List TablePlan)
    (w : Window σ) : Prop where
  accounted : w.placed.Perm (plans.mapIdx Prod.mk)
  parked : ∀ e ∈ w.parked, e.2.2 = answer e.2.1.sql
  gathered : ∀ o ∈ w.gathered, o.2 = answer o.1.sql
  room : w.inFlight.length ≤ limit

/-- The moves that are left: three for a plan that waits, and one less at each place after that. -/
def movesLeft (w : Window σ) : Nat :=
  3 * w.waiting.length + 2 * w.inFlight.length + w.parked.length

section Moves

variable {answer : String → Except Fault QueryResult} {plans : List TablePlan} {move : Move}

theorem keeps_start (answer : String → Except Fault QueryResult) (limit : Nat)
    (plans : List TablePlan) (state : σ) : Keeps answer limit plans (start plans state) where
  accounted := by simp [placed, start]
  parked e he := by cases he
  gathered o ho := by cases ho
  room := Nat.zero_le limit

/-- No plan is lost or doubled by a move. -/
theorem placed_of_step? (h : w.step? x limit move = some w') : w'.placed.Perm w.placed := by
  cases move with
  | send =>
      obtain ⟨place, p, rest, hwaiting, -, rfl⟩ := send_eq_some h
      simp only [placed, hwaiting, List.cons_append]
      exact List.perm_middle
  | finish place =>
      obtain ⟨p, others, hperm, rfl⟩ := finish_eq_some h
      simp only [placed, List.map_cons, List.cons_append]
      refine List.Perm.append_left _ (List.perm_middle.trans ?_)
      exact hperm.symm.append_right _
  | handOn =>
      obtain ⟨o, others, hperm, rfl⟩ := handOn_eq_some h
      have hparked := hperm.map fun e : Nat × SearchResult.Outcome => (e.1, e.2.1)
      simp only [placed, List.mapIdx_append, List.mapIdx_cons, List.mapIdx_nil, Nat.zero_add]
      refine List.Perm.append_left _ (List.Perm.append_left _ ?_)
      -- the plan moves from the head of what is parked to the end of what is gathered
      refine List.Perm.trans ?_ (hparked.symm.append_right _)
      rw [← List.append_assoc]
      exact List.perm_append_singleton _ _

/-- **A move keeps the plans and their answers.** -/
theorem Keeps.step (hanswers : x.AnswersBy answer) (hw : Keeps answer limit plans w)
    (h : w.step? x limit move = some w') : Keeps answer limit plans w' := by
  refine ⟨(placed_of_step? h).trans hw.accounted, ?parked, ?gathered, ?room⟩
  case parked =>
    cases move with
    | send =>
        obtain ⟨place, p, rest, -, -, rfl⟩ := send_eq_some h
        exact hw.parked
    | finish place =>
        obtain ⟨p, others, -, rfl⟩ := finish_eq_some h
        exact List.forall_mem_cons.2 ⟨hanswers p.sql w.state, hw.parked⟩
    | handOn =>
        obtain ⟨o, others, hperm, rfl⟩ := handOn_eq_some h
        intro e he
        exact hw.parked e (hperm.mem_iff.2 (List.mem_cons_of_mem _ he))
  case gathered =>
    cases move with
    | send =>
        obtain ⟨place, p, rest, -, -, rfl⟩ := send_eq_some h
        exact hw.gathered
    | finish place =>
        obtain ⟨p, others, -, rfl⟩ := finish_eq_some h
        exact hw.gathered
    | handOn =>
        obtain ⟨o, others, hperm, rfl⟩ := handOn_eq_some h
        have ho := hw.parked _ (hperm.mem_iff.2 (List.mem_cons_self ..))
        exact List.forall_mem_append.2 ⟨hw.gathered, List.forall_mem_singleton.2 ho⟩
  case room =>
    cases move with
    | send =>
        obtain ⟨place, p, rest, -, hroom, rfl⟩ := send_eq_some h
        exact hroom
    | finish place =>
        obtain ⟨p, others, hperm, rfl⟩ := finish_eq_some h
        have hlength := hperm.length_eq
        have hroom := hw.room
        simp only [List.length_cons] at hlength
        dsimp only
        omega
    | handOn =>
        obtain ⟨o, others, -, rfl⟩ := handOn_eq_some h
        exact hw.room

/-- **A move brings the end one move closer.** -/
theorem movesLeft_of_step? (h : w.step? x limit move = some w') :
    w'.movesLeft + 1 = w.movesLeft := by
  cases move with
  | send =>
      obtain ⟨place, p, rest, hwaiting, -, rfl⟩ := send_eq_some h
      simp only [movesLeft, hwaiting, List.length_cons]
      omega
  | finish place =>
      obtain ⟨p, others, hperm, rfl⟩ := finish_eq_some h
      have hlength := hperm.length_eq
      simp only [movesLeft, List.length_cons] at hlength ⊢
      omega
  | handOn =>
      obtain ⟨o, others, hperm, rfl⟩ := handOn_eq_some h
      have hlength := hperm.length_eq
      simp only [movesLeft, List.length_cons] at hlength ⊢
      omega

theorem isOver_iff : w.isOver = true ↔ w.waiting = [] ∧ w.inFlight = [] ∧ w.parked = [] := by
  simp [isOver, and_assoc]

/-- When nothing waits and nothing is in flight, the next outcome is among those that have come
in. -/
theorem Keeps.next_mem_parked (hw : Keeps answer limit plans w) (hwaiting : w.waiting = [])
    (hinFlight : w.inFlight = []) (hparked : w.parked ≠ []) :
    w.gathered.length ∈ w.parked.map Prod.fst := by
  have hperm := hw.accounted
  simp only [placed, hwaiting, hinFlight, List.nil_append] at hperm
  have hlength := hperm.length_eq
  simp only [List.length_append, List.length_map, List.length_mapIdx] at hlength
  have hpos := List.length_pos_iff.2 hparked
  have hplan : w.gathered.length < plans.length := by omega
  have hmem : (w.gathered.length, plans[w.gathered.length]) ∈ plans.mapIdx Prod.mk :=
    List.mem_mapIdx.2 ⟨w.gathered.length, hplan, rfl⟩
  rcases List.mem_append.1 (hperm.mem_iff.2 hmem) with h | h
  · obtain ⟨e, he, heq⟩ := List.mem_map.1 h
    exact List.mem_map.2 ⟨e, he, (Prod.mk.inj heq).1⟩
  · obtain ⟨place, hplace, heq⟩ := List.mem_mapIdx.1 h
    exact absurd (Prod.mk.inj heq).1 (Nat.ne_of_lt hplace)

/-- **A search that is not over can go on.** -/
theorem Keeps.exists_step? (hw : Keeps answer limit plans w) (hlimit : 0 < limit)
    (h : w.isOver = false) (x : Executor σ) : ∃ move w', w.step? x limit move = some w' := by
  cases hinFlight : w.inFlight with
  | cons item others =>
      obtain ⟨place, p⟩ := item
      have hmem : place ∈ w.inFlight.map Prod.fst := by simp [hinFlight]
      obtain ⟨p', others', htake⟩ := exists_takeOut? hmem
      exact ⟨.finish place, _, by rw [step?, htake]; rfl⟩
  | nil =>
      cases hwaiting : w.waiting with
      | cons item rest =>
          obtain ⟨place, p⟩ := item
          have hroom : w.inFlight.length < limit := by rw [hinFlight]; exact hlimit
          exact ⟨.send, _, by rw [step?, hwaiting]; exact if_pos hroom⟩
      | nil =>
          have hparked : w.parked ≠ [] := by
            intro hnil
            rw [isOver_iff.2 ⟨hwaiting, hinFlight, hnil⟩] at h
            cases h
          obtain ⟨o, others, htake⟩ :=
            exists_takeOut? (hw.next_mem_parked hwaiting hinFlight hparked)
          exact ⟨.handOn, _, by rw [step?, htake]; rfl⟩

/-! ## Whole runs -/

variable {moves : List Move}

theorem run?_cons_eq_some : w.run? x limit (move :: moves) = some w' ↔
    ∃ v, w.step? x limit move = some v ∧ v.run? x limit moves = some w' := by
  rw [run?, List.foldlM_cons]
  exact Option.bind_eq_some_iff

/-- **Moves in turn keep the plans and their answers.** -/
theorem Keeps.run (hanswers : x.AnswersBy answer) (hw : Keeps answer limit plans w)
    (h : w.run? x limit moves = some w') : Keeps answer limit plans w' := by
  induction moves generalizing w with
  | nil =>
      cases h
      exact hw
  | cons move moves ih =>
      obtain ⟨v, hstep, hrest⟩ := run?_cons_eq_some.1 h
      exact ih (hw.step hanswers hstep) hrest

/-- **A search under way comes to an end.** -/
theorem Keeps.exists_run? (hanswers : x.AnswersBy answer) (hlimit : 0 < limit)
    (hw : Keeps answer limit plans w) :
    ∃ moves w', w.run? x limit moves = some w' ∧ w'.isOver = true := by
  -- by induction on the moves that are left
  induction hleft : w.movesLeft generalizing w with
  | zero =>
      refine ⟨[], w, rfl, ?_⟩
      by_contra hover
      obtain ⟨move, w', hstep⟩ := hw.exists_step? hlimit (Bool.eq_false_iff.2 hover) x
      have hless := movesLeft_of_step? hstep
      omega
  | succ n ih =>
      cases hover : w.isOver with
      | true => exact ⟨[], w, rfl, hover⟩
      | false =>
          obtain ⟨move, v, hstep⟩ := hw.exists_step? hlimit hover x
          have hless := movesLeft_of_step? hstep
          obtain ⟨moves, w', hrun, hend⟩ := ih (hw.step hanswers hstep) (by omega)
          exact ⟨move :: moves, w', run?_cons_eq_some.2 ⟨v, hstep, hrun⟩, hend⟩

/-- **A search that is over has gathered the answer of every statement, in plan order.** -/
theorem Keeps.gathered_of_isOver (hw : Keeps answer limit plans w) (h : w.isOver = true) :
    w.gathered = plans.map fun p => (p, answer p.sql) := by
  obtain ⟨hwaiting, hinFlight, hparked⟩ := isOver_iff.1 h
  have hperm := hw.accounted
  simp only [placed, hwaiting, hinFlight, hparked, List.map_nil, List.nil_append] at hperm
  have hlength : w.gathered.length = plans.length := by simpa using hperm.length_eq
  -- places tell the outcomes apart, so that each stands at the place of its plan
  have hplans : w.gathered.map Prod.fst = plans := by
    refine List.ext_getElem (by simpa using hlength) fun place hgathered hplan => ?_
    rw [List.length_map] at hgathered
    have hmem : (place, w.gathered[place].1) ∈ plans.mapIdx Prod.mk :=
      hperm.mem_iff.1 (List.mem_mapIdx.2 ⟨place, hgathered, rfl⟩)
    obtain ⟨place', hplace', heq⟩ := List.mem_mapIdx.1 hmem
    obtain ⟨rfl, hp⟩ := Prod.mk.inj heq
    rw [List.getElem_map, hp]
  calc w.gathered
      = w.gathered.map fun o => (o.1, answer o.1.sql) := by
        refine (List.map_id _).symm.trans (List.map_congr_left fun o ho => ?_)
        exact Prod.ext rfl (hw.gathered o ho)
    _ = (w.gathered.map Prod.fst).map fun p => (p, answer p.sql) := by rw [List.map_map]; rfl
    _ = plans.map fun p => (p, answer p.sql) := by rw [hplans]

end Moves

end Window

/-! ## Searches -/

section Searches

variable {x : Executor σ} {answer : String → Except Fault QueryResult} {config : SearchConfig}
  {r : SearchRequest} {plans : List TablePlan}

namespace SearchRequest

/-- Statements one after another are answered one after another. -/
theorem fst_run_mapM_execute (hanswers : x.AnswersBy answer) (plans : List TablePlan) (state : σ) :
    ((plans.mapM (executePlan x.execute)).run state).1 = plans.map fun p => (p, answer p.sql) := by
  induction plans generalizing state with
  | nil => rfl
  | cons p plans ih =>
      have hrun : (((p :: plans).mapM (executePlan x.execute)).run state).1 =
          (p, ((x.execute p.sql).run state).1) ::
            ((plans.mapM (executePlan x.execute)).run ((x.execute p.sql).run state).2).1 := by
        rw [List.mapM_cons]
        rfl
      rw [hrun, ih, List.map_cons]
      exact congrArg (fun a => (p, a) :: _) (hanswers p.sql _)

/-- **One statement after another**: a planned search finds what its statements are answered. -/
theorem fst_run_of_plan (hanswers : x.AnswersBy answer)
    (h : r.plan config.tableLimit config.timeField = .ok plans) (state : σ) :
    ((r.run x.execute config).run state).1 =
      .ok (SearchResult.ofOutcomes config r (plans.map fun p => (p, answer p.sql))) := by
  have hrun : ((r.run x.execute config).run state).1 =
      .ok (SearchResult.ofOutcomes config r
        ((plans.mapM (executePlan x.execute)).run state).1) := by
    unfold run
    rw [h]
    rfl
  rw [hrun, fst_run_mapM_execute hanswers]

/-- **Under a schedule**: a planned search finds what its statements are answered. -/
theorem scheduled_of_plan (hanswers : x.AnswersBy answer)
    (h : r.plan config.tableLimit config.timeField = .ok plans) {state : σ}
    {moves : List Window.Move} {result : Except Fault SearchResult}
    (hresult : r.scheduled x config state moves = some result) :
    result = .ok (SearchResult.ofOutcomes config r (plans.map fun p => (p, answer p.sql))) := by
  unfold scheduled at hresult
  rw [h] at hresult
  obtain ⟨w, hrun, hw⟩ := Option.bind_eq_some_iff.1 hresult
  have hkeeps := (Window.keeps_start answer _ plans state).run hanswers hrun
  unfold Window.result? at hw
  split at hw
  · next hover =>
    rw [← hkeeps.gathered_of_isOver hover]
    exact (Option.some.inj hw).symm
  · cases hw

/-- **Without a plan** a search fails, one statement after another, … -/
theorem fst_run_of_error {e : PlanFault}
    (h : r.plan config.tableLimit config.timeField = .error e) (state : σ) :
    ((r.run x.execute config).run state).1 = .error e.fault := by
  unfold run
  rw [h]
  rfl

/-- … and under the one schedule there is, the empty one. -/
theorem scheduled_of_error {e : PlanFault}
    (h : r.plan config.tableLimit config.timeField = .error e) {state : σ}
    {moves : List Window.Move} {result : Except Fault SearchResult}
    (hresult : r.scheduled x config state moves = some result) : result = .error e.fault := by
  unfold scheduled at hresult
  rw [h] at hresult
  dsimp only at hresult
  split at hresult
  · exact (Option.some.inj hresult).symm
  · cases hresult

/-- A schedule of a planned search that has begun can be carried on to the end. -/
theorem exists_scheduled (hanswers : x.AnswersBy answer)
    (h : r.plan config.tableLimit config.timeField = .ok plans) {state : σ}
    {moves : List Window.Move} {w : Window σ}
    (hrun : (Window.start plans state).run? x config.inFlightLimit moves = some w) :
    ∃ more result, r.scheduled x config state (moves ++ more) = some result := by
  have hkeeps := (Window.keeps_start answer config.inFlightLimit plans state).run hanswers hrun
  obtain ⟨more, w', hmore, hover⟩ :=
    hkeeps.exists_run? hanswers (Nat.lt_of_lt_of_le Nat.zero_lt_one (Nat.le_max_right _ _))
  refine ⟨more, .ok (SearchResult.ofOutcomes config r w'.gathered), ?_⟩
  have hall : (Window.start plans state).run? x config.inFlightLimit (moves ++ more) = some w' := by
    rw [Window.run?, List.foldlM_append]
    exact Option.bind_eq_some_iff.2 ⟨w, hrun, hmore⟩
  unfold scheduled
  rw [h]
  dsimp only
  rw [hall, Option.bind_some, Window.result?, if_pos hover]

end SearchRequest

end Searches

/-- **Every schedule finds the same.** If what a statement is answered depends on the statement
alone, then a search with any number of statements in flight, answered in any order, comes to what
executing one statement after another comes to, and so to what it comes to under every schedule with
one statement in flight. A planned search never has more statements in flight than it may have, and
whatever has happened so far, it comes to an end; a search without a plan fails before the first
move. -/
theorem search_of_schedule {x : Executor σ} {answer : String → Except Fault QueryResult}
    (hanswers : x.AnswersBy answer) (config : SearchConfig) (r : SearchRequest) (state state' : σ) :
    (∀ moves result, r.scheduled x config state moves = some result →
      result = ((r.run x.execute { config with fanOut := 1 }).run state').1 ∧
      ∀ moves' result', r.scheduled x { config with fanOut := 1 } state' moves' = some result' →
        result = result') ∧
    (∀ plans, r.plan config.tableLimit config.timeField = .ok plans → ∀ moves w,
      (Window.start plans state).run? x (max config.fanOut 1) moves = some w →
        w.inFlight.length ≤ max config.fanOut 1 ∧
        ∃ more result, r.scheduled x config state (moves ++ more) = some result) ∧
    ∀ e, r.plan config.tableLimit config.timeField = .error e →
      r.scheduled x config state [] = some (.error e.fault) := by
  refine ⟨fun moves result hresult => ?same, fun plans hplan moves w hrun => ?ends,
    fun e hplan => ?refused⟩
  case same =>
    cases hplan : r.plan config.tableLimit config.timeField with
    | ok plans =>
        rw [r.scheduled_of_plan hanswers hplan hresult]
        have hone : r.plan ({ config with fanOut := 1 } : SearchConfig).tableLimit
            ({ config with fanOut := 1 } : SearchConfig).timeField = .ok plans := hplan
        refine ⟨(r.fst_run_of_plan hanswers hone state').symm, fun moves' result' hresult' => ?_⟩
        exact (r.scheduled_of_plan hanswers hone hresult').symm
    | error e =>
        rw [r.scheduled_of_error hplan hresult]
        have hone : r.plan ({ config with fanOut := 1 } : SearchConfig).tableLimit
            ({ config with fanOut := 1 } : SearchConfig).timeField = .error e := hplan
        refine ⟨(r.fst_run_of_error hone state').symm, fun moves' result' hresult' => ?_⟩
        exact (r.scheduled_of_error hone hresult').symm
  case ends =>
    have hkeeps := (Window.keeps_start answer _ plans state).run hanswers hrun
    exact ⟨hkeeps.room, r.exists_scheduled hanswers hplan hrun⟩
  case refused =>
    unfold SearchRequest.scheduled
    rw [hplan]
    rfl

namespace Sample

/-- A search of two tables. -/
def pair : SearchRequest := .new "disk" ["app", "db"] ["message"]

/-- Up to two statements in flight. -/
def wide : SearchConfig := { SearchConfig.standard with fanOut := 2 }

/-- The table `app` has a row, and no other table can be read. -/
def answerOf (sql : String) : Except Fault QueryResult :=
  if "SELECT * FROM app ".toList.isPrefixOf sql.toList then
    .ok ⟨["message"], [[.str "disk full"]], none⟩
  else .error (.database "down" none)

/-- Notes what it is sent and what it has finished. -/
def logging : Executor (List String) where
  send sql log := log ++ ["sent " ++ sql]
  finish sql log := (answerOf sql, log ++ ["finished " ++ sql])

/-- The second statement fails before the first one is answered. -/
def overtaking : List Window.Move := [.send, .send, .finish 1, .finish 0, .handOn, .handOn]

theorem scheduled_overtaking :
    ∃ result, pair.scheduled logging wide [] overtaking = some (.ok result) ∧
      result.searched = ["app"] ∧ result.failed = [⟨"db", "database error: down"⟩] := by
  have hfound : (pair.scheduled logging wide [] overtaking).bind (fun found =>
      found.toOption.map fun result => (result.searched, result.failed)) =
        some (["app"], [⟨"db", "database error: down"⟩]) := by decide +kernel
  obtain ⟨found, hscheduled, hfound⟩ := Option.bind_eq_some_iff.1 hfound
  obtain ⟨result, hresult, hparts⟩ := Option.map_eq_some_iff.1 hfound
  obtain ⟨hsearched, hfailed⟩ := Prod.mk.inj hparts
  cases found with
  | error f => cases hresult
  | ok result' =>
      obtain rfl := Option.some.inj hresult
      exact ⟨_, hscheduled, hsearched, hfailed⟩

end Sample

/-- A search whose second statement is done before its first. -/
theorem search_of_schedule_of_overtaking :
    ∃ result, Sample.pair.scheduled Sample.logging Sample.wide [] Sample.overtaking =
        some (.ok result) ∧
      result.searched = ["app"] ∧ result.failed = [⟨"db", "database error: down"⟩] ∧
      ((Sample.pair.run Sample.logging.execute { Sample.wide with fanOut := 1 }).run []).1 =
        .ok result := by
  obtain ⟨result, hscheduled, hsearched, hfailed⟩ := Sample.scheduled_overtaking
  have hanswers : Sample.logging.AnswersBy Sample.answerOf := fun _ _ => rfl
  have hsame := (search_of_schedule hanswers Sample.wide Sample.pair [] []).1 _ _ hscheduled
  exact ⟨result, hscheduled, hsearched, hfailed, hsame.1.symm⟩

end StoreGate
