import Mathlib.Data.List.Nodup
import StoreGate.Engine.Client
import StoreGate.Proofs.Except

/-!
# Frontends in turn

Statements and loads each take their frontends in turn. A client may be copied, and a copy may get a
deadline of its own, but all copies look at one turn. So it does not matter who picks: the picks of
a role go round the list of the role, one place at a time, whatever the other role does in between.

* `Pool` — copies of a client with the turn that they share, and what is done with them.
* `Pool.Turns` — how far the two turns have gone, kept by every step (`Pool.turns_of_step?`) and so
  by every run (`Pool.turns_of_run?`).
* `GoesRound` — picks that go round a list, and so fall on each place of it equally often.
* `picks_go_round` — the picks of each role do.
-/

namespace StoreGate

/-! ## One pick -/

/-- The frontends of a role. -/
def Selector.frontends (s : Selector) : EndpointRole → List Endpoint
  | .query => s.query
  | .load => s.load

theorem Selector.frontends_ne_nil (s : Selector) (role : EndpointRole) : s.frontends role ≠ [] := by
  cases role with
  | query => exact s.query_ne_nil
  | load => exact s.load_ne_nil

namespace Turn

/-- How far the turn of a role has gone. -/
def cursor (t : Turn) : EndpointRole → Nat
  | .query => t.query
  | .load => t.load

/-- The place of the frontend whose turn it is. -/
def position (s : Selector) (role : EndpointRole) (t : Turn) : Nat :=
  t.cursor role % (s.frontends role).length

theorem position_lt (s : Selector) (role : EndpointRole) (t : Turn) :
    t.position s role < (s.frontends role).length :=
  Nat.mod_lt _ (List.length_pos_iff.2 (s.frontends_ne_nil role))

/-- **A pick is never out of range**: it takes the frontend at its place. -/
theorem getElem?_position (s : Selector) (role : EndpointRole) (t : Turn) :
    (s.frontends role)[t.position s role]? = some (next s role t).1 := by
  have hpick : ∀ list : List Endpoint, ∀ place : Nat, place % list.length < list.length →
      list[place % list.length]? = some (pick list place) := by
    intro list place hlt
    rw [pick, List.getD_eq_getElem?_getD, List.getElem?_eq_getElem hlt]
    rfl
  cases role with
  | query => exact hpick s.query t.query (position_lt s .query t)
  | load => exact hpick s.load t.load (position_lt s .load t)

/-- A pick moves the turn of its role by one place and leaves the other turn alone. -/
theorem cursor_next (s : Selector) (role other : EndpointRole) (t : Turn) :
    (next s role t).2.cursor other =
      if other = role then (t.position s role + 1) % (s.frontends role).length
      else t.cursor other := by
  cases role <;> cases other <;> rfl

end Turn

/-! ## Copies of a client -/

/-- A client in the hands of a caller, with the deadline that the caller's calls have. -/
structure Handle where
  client : Client
  deadline : Option Span

/-- A frontend that was picked, and its place in the list of its role. -/
structure Pick where
  role : EndpointRole
  position : Nat
  frontend : Endpoint
deriving DecidableEq, Repr

/-- What is done with the copies of a client. -/
inductive PoolEvent where
  /-- One of the copies is copied. -/
  | clone (which : Nat)
  /-- One of the copies is copied, and the new one gets a deadline. -/
  | withTimeout (which : Nat) (deadline : Span)
  /-- A frontend is picked through one of the copies. -/
  | pick (which : Nat) (role : EndpointRole)
deriving DecidableEq, Repr

/-- The copies of a client and the turn that they share. -/
structure Pool where
  handles : List Handle
  turn : Turn

namespace Pool

/-- A new client, whose loads begin at a place of their list. -/
def first (client : Client) (start : Nat) : Pool := ⟨[⟨client, none⟩], Turn.first start⟩

/-- The picks of an event and the pool after it; nothing, if there is no such copy. -/
def step? (p : Pool) : PoolEvent → Option (List Pick × Pool)
  | .clone which => p.handles[which]?.map fun h => ([], { p with handles := p.handles ++ [h] })
  | .withTimeout which deadline =>
    p.handles[which]?.map fun h =>
      ([], { p with handles := p.handles ++ [{ h with deadline := some deadline }] })
  | .pick which role =>
    p.handles[which]?.map fun h =>
      ([⟨role, p.turn.position h.client.selector role,
          (Turn.next h.client.selector role p.turn).1⟩],
        { p with turn := (Turn.next h.client.selector role p.turn).2 })

/-- The picks of events in a row, and the pool after them. -/
def run? (p : Pool) : List PoolEvent → Option (List Pick × Pool)
  | [] => some ([], p)
  | event :: rest => do
    let (picked, p) ← p.step? event
    let (later, p) ← p.run? rest
    return (picked ++ later, p)

end Pool

/-- The picks of a role, in order. -/
def picksOf (role : EndpointRole) (picks : List Pick) : List Pick :=
  picks.filter fun p => decide (p.role = role)

/-! ## Going round a list -/

/-- The places of the first picks from a list of some length, when the turn begins at `start`. -/
def placesFrom (start length count : Nat) : List Nat :=
  (List.range count).map fun k => (start + k) % length

theorem placesFrom_succ (start length count : Nat) :
    placesFrom start length (count + 1) =
      placesFrom start length count ++ [(start + count) % length] := by
  rw [placesFrom, List.range_succ, List.map_append]
  rfl

theorem placesFrom_add (start length before count : Nat) :
    placesFrom start length (before + count) =
      placesFrom start length before ++ placesFrom (start + before) length count := by
  rw [placesFrom, List.range_add, List.map_append, List.map_map, placesFrom, placesFrom]
  simp [Function.comp_def, Nat.add_assoc]

theorem count_placesFrom_step (start length count place : Nat) :
    (placesFrom (start + 1) length count).count place +
        (if start % length = place then 1 else 0) =
      (placesFrom start length (count + 1)).count place := by
  rw [Nat.add_comm count 1, placesFrom_add, List.count_append, Nat.add_comm]
  have hone : placesFrom start length 1 = [start % length] := rfl
  rw [hone, List.count_singleton]
  simp

/-- **One round** meets every place once, wherever it begins. -/
theorem count_placesFrom_round {length place : Nat} (h : place < length) (start : Nat) :
    (placesFrom start length length).count place = 1 := by
  induction start with
  | zero =>
      have hrange : placesFrom 0 length length = List.range length := by
        rw [placesFrom, List.map_congr_left (g := id), List.map_id]
        intro k hk
        rw [Nat.zero_add, Nat.mod_eq_of_lt (List.mem_range.1 hk)]
        rfl
      rw [hrange]
      exact List.count_eq_one_of_mem List.nodup_range (List.mem_range.2 h)
  | succ start ih =>
      -- the place that is left behind comes again at the end of the round
      have hstep := count_placesFrom_step start length length place
      rw [placesFrom_succ, List.count_append, ih, List.count_singleton] at hstep
      rw [Nat.add_mod_right] at hstep
      simp only [beq_iff_eq] at hstep
      omega

/-- **Whole rounds** meet every place equally often. -/
theorem count_placesFrom {length place : Nat} (h : place < length) (start rounds : Nat) :
    (placesFrom start length (length * rounds)).count place = rounds := by
  induction rounds generalizing start with
  | zero => simp [placesFrom]
  | succ rounds ih =>
      rw [Nat.mul_succ, placesFrom_add, List.count_append, ih, count_placesFrom_round h]

/-- Picks that take the frontends of a list in turn, beginning at a place. -/
structure GoesRound (list : List Endpoint) (start : Nat) (picks : List Pick) : Prop where
  /-- The picks after `k` others are made at the place that many places past the start. -/
  place : ∀ k pick, picks[k]? = some pick → pick.position = (start + k) % list.length
  /-- Every pick is of a place of the list, and takes the frontend there. -/
  inRange : ∀ pick ∈ picks, pick.position < list.length ∧
    list[pick.position]? = some pick.frontend
  /-- Picks in a row that are some rounds of the list take every place once a round. -/
  fair : ∀ before rounds place, place < list.length →
    before + list.length * rounds ≤ picks.length →
    (((picks.drop before).take (list.length * rounds)).map Pick.position).count place = rounds

theorem goesRound_of_places {list : List Endpoint} {start : Nat} {picks : List Pick}
    (hplaces : picks.map Pick.position = placesFrom start list.length picks.length)
    (hfrontend : ∀ pick ∈ picks, list[pick.position]? = some pick.frontend) :
    GoesRound list start picks where
  place k pick hpick := by
    have hposition : (picks.map Pick.position)[k]? = some pick.position := by
      rw [List.getElem?_map, hpick]
      rfl
    obtain ⟨hk, -⟩ := List.getElem?_eq_some_iff.1 hpick
    rw [hplaces, placesFrom, List.getElem?_map, List.getElem?_range hk] at hposition
    exact (Option.some.inj hposition).symm
  inRange pick hpick := by
    obtain ⟨hlt, -⟩ := List.getElem?_eq_some_iff.1 (hfrontend pick hpick)
    exact ⟨hlt, hfrontend pick hpick⟩
  fair before rounds place hplace hlength := by
    obtain ⟨after, hafter⟩ := Nat.exists_eq_add_of_le hlength
    rw [List.map_take, List.map_drop, hplaces, hafter, Nat.add_assoc, placesFrom_add,
      placesFrom_add]
    have hbefore : before = (placesFrom start list.length before).length := by simp [placesFrom]
    have hrounds : list.length * rounds =
        (placesFrom (start + before) list.length (list.length * rounds)).length := by
      simp [placesFrom]
    rw [List.drop_left' hbefore.symm, List.take_left' hrounds.symm]
    exact count_placesFrom hplace (start + before) rounds

/-! ## Runs -/

namespace Pool

/-- The place at which the turn of a role begins. -/
def startOf (start : Nat) : EndpointRole → Nat
  | .query => 0
  | .load => start

/-- After these picks all copies are copies of one client, each role is as many places past its
start as it has picks, and every pick was made at the place whose turn it was. -/
structure Turns (client : Client) (start : Nat) (picks : List Pick) (p : Pool) : Prop where
  same : ∀ h ∈ p.handles, h.client = client
  gone : ∀ role, p.turn.cursor role =
    (startOf start role + (picksOf role picks).length) % (client.selector.frontends role).length
  places : ∀ role, (picksOf role picks).map Pick.position =
    placesFrom (startOf start role) (client.selector.frontends role).length
      (picksOf role picks).length
  frontends : ∀ pick ∈ picks,
    (client.selector.frontends pick.role)[pick.position]? = some pick.frontend

variable {client : Client} {start : Nat} {picks picked : List Pick} {p p' : Pool}

theorem turns_first (hstart : start < client.selector.load.length) :
    Turns client start [] (first client start) where
  same h hh := by rw [List.mem_singleton.1 hh]
  gone role := by
    cases role with
    | query => exact (Nat.zero_mod _).symm
    | load => exact (Nat.mod_eq_of_lt hstart).symm
  places role := rfl
  frontends pick h := by cases h

/-- A copy of a copy is a copy of the same client. -/
theorem Turns.copy (h : Turns client start picks p) {handle : Handle}
    (hhandle : handle.client = client) :
    Turns client start picks { p with handles := p.handles ++ [handle] } :=
  { h with same := List.forall_mem_append.2 ⟨h.same, List.forall_mem_singleton.2 hhandle⟩ }

/-- **One pick** moves the turn of its role. -/
theorem Turns.pick (h : Turns client start picks p) (role : EndpointRole) :
    Turns client start
      (picks ++ [⟨role, p.turn.position client.selector role,
        (Turn.next client.selector role p.turn).1⟩])
      { p with turn := (Turn.next client.selector role p.turn).2 } := by
  have hposition : p.turn.position client.selector role =
      (startOf start role + (picksOf role picks).length) %
        (client.selector.frontends role).length := by
    rw [Turn.position, h.gone role, Nat.mod_mod]
  refine ⟨h.same, fun other => ?gone, fun other => ?places, ?frontends⟩
  case gone =>
    dsimp only
    rw [Turn.cursor_next, picksOf, List.filter_append, List.length_append]
    by_cases hrole : other = role
    · subst hrole
      rw [if_pos rfl, hposition, Nat.mod_add_mod, Nat.add_assoc]
      simp [picksOf]
    · rw [if_neg hrole, h.gone other]
      simp [picksOf, Ne.symm hrole]
  case places =>
    rw [picksOf, List.filter_append]
    by_cases hrole : other = role
    · subst hrole
      rw [List.filter_cons_of_pos (by simp), List.filter_nil, List.map_append, List.length_append,
        List.length_singleton, placesFrom_succ]
      exact congrArg₂ (· ++ ·) (h.places other) (congrArg (fun place => [place]) hposition)
    · rw [List.filter_cons_of_neg (by simpa using Ne.symm hrole), List.filter_nil,
        List.append_nil]
      exact h.places other
  case frontends =>
    exact List.forall_mem_append.2
      ⟨h.frontends, List.forall_mem_singleton.2 (Turn.getElem?_position _ role p.turn)⟩

/-- **One event** keeps the count of the turns. -/
theorem turns_of_step? {event : PoolEvent} (h : Turns client start picks p)
    (hstep : p.step? event = some (picked, p')) : Turns client start (picks ++ picked) p' := by
  cases event with
  | clone which =>
      obtain ⟨handle, hhandle, hpair⟩ := Option.map_eq_some_iff.1 hstep
      obtain ⟨rfl, rfl⟩ := Prod.mk.inj hpair
      rw [List.append_nil]
      exact h.copy (h.same handle (List.mem_of_getElem? hhandle))
  | withTimeout which deadline =>
      obtain ⟨handle, hhandle, hpair⟩ := Option.map_eq_some_iff.1 hstep
      obtain ⟨rfl, rfl⟩ := Prod.mk.inj hpair
      rw [List.append_nil]
      exact h.copy (h.same handle (List.mem_of_getElem? hhandle))
  | pick which role =>
      obtain ⟨handle, hhandle, hpair⟩ := Option.map_eq_some_iff.1 hstep
      obtain ⟨rfl, rfl⟩ := Prod.mk.inj hpair
      obtain rfl := h.same handle (List.mem_of_getElem? hhandle)
      exact h.pick role

/-- **A whole run** keeps the count of the turns. -/
theorem turns_of_run? {events : List PoolEvent} (h : Turns client start picks p)
    (hrun : p.run? events = some (picked, p')) : Turns client start (picks ++ picked) p' := by
  induction events generalizing p picks picked with
  | nil =>
      obtain ⟨rfl, rfl⟩ := Prod.mk.inj (Option.some.inj hrun)
      rwa [List.append_nil]
  | cons event rest ih =>
      obtain ⟨⟨first, between⟩, hstep, hrun⟩ := Option.bind_eq_some_iff.1 hrun
      obtain ⟨⟨later, last⟩, hrest, hpair⟩ := Option.bind_eq_some_iff.1 hrun
      obtain ⟨rfl, rfl⟩ := Prod.mk.inj (Option.some.inj hpair)
      rw [← List.append_assoc]
      exact ih (turns_of_step? h hstep) hrest

theorem Turns.goesRound (h : Turns client start picks p) (role : EndpointRole) :
    GoesRound (client.selector.frontends role) (startOf start role) (picksOf role picks) := by
  refine goesRound_of_places (h.places role) fun pick hpick => ?_
  obtain ⟨hmem, hrole⟩ := List.mem_filter.1 hpick
  rw [← of_decide_eq_true hrole]
  exact h.frontends pick hmem

end Pool

/-! ## Configurations -/

/-- The frontends are those that the configuration names, in its order; loads have their own, or
else those of the statements. -/
structure Selector.Names (s : Selector) (config : EngineConfig) : Prop where
  query : endpoints config.queryPort .query config.hosts = .ok s.query
  load : if config.loadHosts = [] then s.load = s.query.map asLoad
    else endpoints config.queryPort .load config.loadHosts = .ok s.load

theorem Selector.names_of_ofConfig {config : EngineConfig} {s : Selector}
    (h : ofConfig config = .ok s) : s.Names config := by
  obtain ⟨query, hquery, h⟩ := exceptBind_eq_ok.1 h
  obtain ⟨load, hload, h⟩ := exceptBind_eq_ok.1 h
  have hempty : config.loadHosts = [] ↔ load = [] := by
    have hlength := (exceptMapM_eq_ok.1 hload).length_eq
    rw [← List.length_eq_zero_iff, hlength, List.length_eq_zero_iff]
  cases query with
  | nil => cases h
  | cons q qs =>
      cases load with
      | nil =>
          obtain rfl := Except.ok.inj h
          exact ⟨hquery, by rw [if_pos (hempty.2 rfl)]⟩
      | cons l ls =>
          obtain rfl := Except.ok.inj h
          refine ⟨hquery, ?_⟩
          rw [if_neg fun hnil => by cases hempty.1 hnil]
          exact hload

/-- **Frontends are taken in turn.** For every configuration that makes a client, wherever its loads
begin: in every run of picks through copies of the client, with deadlines or without, the statements
go round their frontends from the first one, and the loads go round theirs from their start, each
whatever the other does in between. Every pick is in range, and picks in a row that make whole
rounds take every place equally often. -/
theorem picks_go_round {config : EngineConfig} {client : Client} {start : Nat}
    {events : List PoolEvent} {picks : List Pick} {pool : Pool}
    (hclient : Client.new config = .ok client) (hstart : start < client.selector.load.length)
    (hrun : (Pool.first client start).run? events = some (picks, pool)) :
    client.selector.Names config ∧
      GoesRound client.selector.query 0 (picksOf .query picks) ∧
      GoesRound client.selector.load start (picksOf .load picks) := by
  obtain ⟨selector, hselector, rfl⟩ := exceptMap_eq_ok.1 hclient
  have hturns := Pool.turns_of_run? (Pool.turns_first hstart) hrun
  rw [List.nil_append] at hturns
  exact ⟨Selector.names_of_ofConfig hselector, hturns.goesRound .query, hturns.goesRound .load⟩

namespace Sample

/-- Three frontends, one of them listed twice, and none for loads alone. -/
def twiceListed : EngineConfig := { EngineConfig.standard with hosts := ["fe1", "fe2:9030", "fe1"] }

/-- Two copies of a client, one of them with a deadline, pick in turns. -/
def mixedPicks : List PoolEvent := [
  .pick 0 .load, .withTimeout 0 (Span.ofSeconds 1), .pick 1 .query, .clone 1, .pick 2 .load,
  .pick 0 .query, .pick 1 .load, .pick 2 .query, .pick 0 .query]

end Sample

/-- Four statements and three loads, whose turn begins at the last frontend. -/
theorem picks_go_round_of_mixedPicks :
    ∃ client picks pool, Client.new Sample.twiceListed = .ok client ∧
      (Pool.first client 2).run? Sample.mixedPicks = some (picks, pool) ∧
      (picksOf .query picks).map Pick.position = [0, 1, 2, 0] ∧
      (picksOf .load picks).map Pick.position = [2, 0, 1] ∧
      client.selector.Names Sample.twiceListed ∧
      GoesRound client.selector.query 0 (picksOf .query picks) ∧
      GoesRound client.selector.load 2 (picksOf .load picks) := by
  obtain ⟨client, hclient⟩ := exists_ok_of_isOk (x := Client.new Sample.twiceListed)
    (by decide +kernel)
  have hpicks : (Client.new Sample.twiceListed).toOption.bind (fun client =>
      ((Pool.first client 2).run? Sample.mixedPicks).map fun r =>
        (client.selector.load.length, (picksOf .query r.1).map Pick.position,
          (picksOf .load r.1).map Pick.position)) = some (3, [0, 1, 2, 0], [2, 0, 1]) := by
    decide +kernel
  rw [hclient, Except.toOption, Option.bind_some] at hpicks
  obtain ⟨⟨picks, pool⟩, hrun, hplaces⟩ := Option.map_eq_some_iff.1 hpicks
  simp only [Prod.mk.injEq] at hplaces
  obtain ⟨hlength, hquery, hload⟩ := hplaces
  exact ⟨client, picks, pool, hclient, hrun, hquery, hload,
    picks_go_round hclient (by omega) hrun⟩

end StoreGate
