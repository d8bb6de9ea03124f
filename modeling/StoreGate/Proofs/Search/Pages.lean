import Mathlib.Data.List.Forall2
import StoreGate.Proofs.Except
import StoreGate.Proofs.Page
import StoreGate.Proofs.Search.Window

/-!
# Pages of a search

A search is run anew for every page. As long as its statements are answered alike, each run merges
the same hits and shows its page of them, so that the pages together show every hit once.

* `SearchRequest.Finds` — what a search comes to, its statements in turn or under any schedule.
* `SearchResult.Shows` — a result shows a page of the merged hits.
* `SearchRequest.shows_of_finds` — every page of a search is a page of the same hits.
* `pages_partition` — pages of lists and of searches.
-/

namespace StoreGate

variable {σ : Type}

namespace SearchRequest

/-- What a search comes to when its statements are executed one after another, or under a
schedule. -/
inductive Finds (r : SearchRequest) (x : Executor σ) (config : SearchConfig)
    (found : Except Fault SearchResult) : Prop
  | inTurn (state : σ) (h : ((r.run x.execute config).run state).1 = found)
  | scheduled (state : σ) (moves : List Window.Move)
      (h : r.scheduled x config state moves = some found)

/-- The same request for another page. -/
def onPage (r : SearchRequest) (page : PageRequest) : SearchRequest := { r with page := page }

/-- The hits of all tables, when statements are answered by `answer`. -/
def merged (r : SearchRequest) (config : SearchConfig) (answer : String → Except Fault QueryResult)
    (plans : List TablePlan) : List SearchHit :=
  SearchResult.allHits config r (plans.map fun p => (p, answer p.sql))

end SearchRequest

/-- The result shows a page of the merged hits, with their number and the page's own numbers. -/
structure SearchResult.Shows (result : SearchResult) (page : PageRequest)
    (merged : List SearchHit) : Prop where
  hits : result.hits = page.cut merged
  total : result.total = merged.length
  number : result.page.page.toNat = page.number
  capacity : result.page.size.toNat = page.capacity
  pageTotal : result.page.total = merged.length

section Searches

variable {x : Executor σ} {answer : String → Except Fault QueryResult} {config : SearchConfig}
  {r : SearchRequest} {plans : List TablePlan}

theorem SearchRequest.finds_eq (hanswers : x.AnswersBy answer)
    (hplan : r.plan config.tableLimit config.timeField = .ok plans)
    {found : Except Fault SearchResult} (h : r.Finds x config found) :
    found = .ok (SearchResult.ofOutcomes config r (plans.map fun p => (p, answer p.sql))) := by
  cases h with
  | inTurn state h => exact h.symm.trans (r.fst_run_of_plan hanswers hplan state)
  | scheduled state moves h => exact r.scheduled_of_plan hanswers hplan h

/-- **Every page** of a search is a page of the same hits. -/
theorem SearchRequest.shows_of_finds (hanswers : x.AnswersBy answer)
    (hplan : r.plan config.tableLimit config.timeField = .ok plans) {page : PageRequest}
    {found : Except Fault SearchResult} (h : (r.onPage page).Finds x config found) :
    ∃ result, found = .ok result ∧ result.Shows page (r.merged config answer plans) := by
  -- the plans do not depend on the page, and neither do the hits
  have hplan' : (r.onPage page).plan config.tableLimit config.timeField = .ok plans := hplan
  refine ⟨_, finds_eq hanswers hplan' h, ?_⟩
  constructor
  case hits => exact page.cut_normalized _
  case total => rfl
  case number => exact page.toNat_page_normalized
  case capacity => exact page.toNat_size_normalized
  case pageTotal => rfl

theorem SearchResult.flatMap_hits {merged : List SearchHit} {pages : List PageRequest}
    {results : List SearchResult}
    (h : List.Forall₂ (fun page result => result.Shows page merged) pages results) :
    results.flatMap SearchResult.hits = pages.flatMap fun page => page.cut merged := by
  induction h with
  | nil => rfl
  | cons hshows _ ih => rw [List.flatMap_cons, List.flatMap_cons, hshows.hits, ih]

end Searches

/-- **Pages of lists and of searches.** A page begins after the pages before it, which are never
more than words of 64 bits can count. It holds the items whose indices it covers, and is empty
exactly if the list ends before it. The first pages of a size, one after another, are the list from
its beginning, and every index is on one of them only. The same holds of the hits that searches for
these pages find, in any order of the statements, as long as these are answered alike: every search
shows its page of the same hits, and says how many these are and which page it is. -/
theorem pages_partition :
    (∀ r : PageRequest, (r.offset : Int) = ((r.number : Int) - 1) * r.capacity ∧
      r.wordOffset.toNat = r.offset) ∧
    (∀ (α : Type) (r : PageRequest) (items : List α),
      r.cut items = (items.zipIdx.filter fun e => decide (r.Covers e.2)).map Prod.fst ∧
      (r.cut items = [] ↔ items.length ≤ r.offset)) ∧
    (∀ (α : Type) (r : PageRequest) (count : Nat) (items : List α), count < UInt32.size →
      (r.firstPages count).flatMap (fun p => p.cut items) = items.take (count * r.capacity) ∧
      ∀ index < count * r.capacity, ∃! p, p ∈ r.firstPages count ∧ p.Covers index) ∧
    ∀ (σ : Type) (x : Executor σ) (answer : String → Except Fault QueryResult),
      x.AnswersBy answer → ∀ (config : SearchConfig) (r : SearchRequest) (plans : List TablePlan),
        r.plan config.tableLimit config.timeField = .ok plans →
        (∀ page found, (r.onPage page).Finds x config found →
          ∃ result, found = .ok result ∧ result.Shows page (r.merged config answer plans)) ∧
        ∀ count < UInt32.size, ∀ results : List SearchResult,
          List.Forall₂ (fun page result => (r.onPage page).Finds x config (.ok result))
            (r.page.firstPages count) results →
          results.flatMap SearchResult.hits =
            (r.merged config answer plans).take (count * r.page.capacity) := by
  refine ⟨fun r => ⟨?_, ?_⟩, fun α r items => ⟨r.cut_eq_filter items, ?_⟩,
    fun α r count items h => ⟨r.flatMap_cut items h, fun index => r.existsUnique_covers h⟩, ?_⟩
  · rw [r.offset_eq, Int.natCast_mul, Int.natCast_sub r.number_pos]
    rfl
  · rw [r.toNat_wordOffset, r.offset_eq]
  · rw [r.cut_eq_nil_iff, r.offset_eq]
  · intro σ x answer hanswers config r plans hplan
    refine ⟨fun page found => SearchRequest.shows_of_finds hanswers hplan,
      fun count hcount results hresults => ?_⟩
    have hshows : List.Forall₂
        (fun page result => SearchResult.Shows result page (r.merged config answer plans))
        (r.page.firstPages count) results := by
      refine hresults.imp fun page result hfinds => ?_
      obtain ⟨result', hsame, h⟩ := SearchRequest.shows_of_finds hanswers hplan hfinds
      rwa [Except.ok.inj hsame]
    rw [SearchResult.flatMap_hits hshows, r.page.flatMap_cut _ hcount]

namespace Sample

/-- Three rows for every statement. -/
def threeRows : Except Fault QueryResult :=
  .ok ⟨["message"], [[.str "disk full"], [.str "disk slow"], [.str "no disk"]], none⟩

/-- Answers every statement with the three rows. -/
def steady : Executor Unit where
  send _ state := state
  finish _ state := (threeRows, state)

/-- Two hits on a page. -/
def byTwos : SearchRequest :=
  { SearchRequest.new "disk" ["app"] ["message"] with page := ⟨0, 2⟩ }

theorem plan_byTwos : ∃ plans, byTwos.plan 1000 "timestamp" = .ok plans ∧
    (byTwos.merged .standard (fun _ => threeRows) plans).length = 3 := by
  have hmerged : ((byTwos.plan 1000 "timestamp").toOption.map fun plans =>
      (byTwos.merged .standard (fun _ => threeRows) plans).length) = some 3 := by decide +kernel
  obtain ⟨plans, hplan, hlength⟩ := Option.map_eq_some_iff.1 hmerged
  exact ⟨plans, eq_ok_of_toOption hplan, hlength⟩

end Sample

/-- Two pages of three hits, one searched in turn and one under a schedule. -/
theorem pages_partition_of_byTwos :
    ((⟨0, 2⟩ : PageRequest).firstPages 2).flatMap (fun p => p.cut [1, 2, 3]) = [1, 2, 3] ∧
    ∃ first second : SearchResult,
      ((Sample.byTwos.onPage ⟨1, 2⟩).run Sample.steady.execute .standard).run () =
        (.ok first, ()) ∧
      (Sample.byTwos.onPage ⟨2, 2⟩).scheduled Sample.steady .standard ()
        [.send, .finish 0, .handOn] = some (.ok second) ∧
      (first.hits ++ second.hits).length = 3 ∧ first.total = 3 ∧ second.total = 3 ∧
      second.page.page.toNat = 2 := by
  obtain ⟨-, -, hlists, hsearches⟩ := pages_partition
  refine ⟨(hlists Nat ⟨0, 2⟩ 2 [1, 2, 3] (by decide)).1, ?_⟩
  obtain ⟨plans, hplan, hlength⟩ := Sample.plan_byTwos
  obtain ⟨hpages, htogether⟩ := hsearches Unit Sample.steady (fun _ => Sample.threeRows)
    (fun _ _ => rfl) .standard Sample.byTwos plans hplan
  obtain ⟨first, hfirst, hshows⟩ := hpages ⟨1, 2⟩ _ (.inTurn () rfl)
  have hends : ((Sample.byTwos.onPage ⟨2, 2⟩).scheduled Sample.steady .standard ()
      [.send, .finish 0, .handOn]).isSome = true := by decide +kernel
  obtain ⟨found, hfound⟩ := Option.isSome_iff_exists.1 hends
  obtain ⟨second, rfl, hshows'⟩ := hpages ⟨2, 2⟩ found (.scheduled () _ hfound)
  have hhits := htogether 2 (by decide) [first, second]
    (.cons (.inTurn () hfirst) (.cons (.scheduled () _ hfound) .nil))
  refine ⟨first, second, Prod.ext hfirst rfl, hfound, ?_, ?_, ?_, hshows'.number⟩
  · have happend : [first, second].flatMap SearchResult.hits = first.hits ++ second.hits := by
      simp
    rw [← happend, hhits, List.length_take, hlength]
    rfl
  · rw [hshows.total, hlength]
  · rw [hshows'.total, hlength]

end StoreGate
