import StoreGate.Ingest.Event
import StoreGate.Proofs.Search.Plan
import StoreGate.Proofs.Time.Leap

/-!
# Time ranges and ingested events

The time of an event is written into its row to the second, and so are the ends of a time range into
a statement. The texts are compared, so that a range finds every event that lies in it, even where
an end or the time of the event has a fraction.

* `Condition.BoundMetBy` — a text meets a bound, as texts compare.
* `SearchRequest.bounds_met_iff` — the bounds of a plan are the ends of the range.
* `time_range_finds_events` — events of the range meet every bound, and events of other seconds fail
  one.
-/

namespace StoreGate

/-! ## Bounds -/

/-- A text meets the bound of a condition, as texts compare; a condition may set no bound. -/
def Condition.BoundMetBy (written : String) : Condition → Prop
  | notBefore _ i => i.writtenText ≤ written
  | notAfter _ i => written ≤ i.writtenText
  | isNull _ => True
  | equals _ _ => True

/-- A text meets every bound that a plan sets on a column. -/
def TablePlan.BoundsMetBy (p : TablePlan) (column written : String) : Prop :=
  ∀ c ∈ p.conditions, c.field = column → c.BoundMetBy written

/-- Filters set no bounds. -/
theorem boundMetBy_of_filterCondition {field written : String} {value : Json} {c : Condition}
    (h : filterCondition field value = .ok c) : c.BoundMetBy written := by
  unfold filterCondition at h
  split at h
  · cases h
  · split at h <;> cases h <;> trivial

/-- **The bounds of a range** are met by the texts between its ends. -/
theorem TimeRange.boundsMet_iff (t : TimeRange) (column written : String) :
    (∀ c ∈ t.conditions column, c.BoundMetBy written) ↔
      (∀ s ∈ t.start, s.writtenText ≤ written) ∧ ∀ f ∈ t.finish, written ≤ f.writtenText := by
  unfold conditions
  rw [List.forall_mem_append]
  refine and_congr ?_ ?_
  · cases t.start with
    | none => simp
    | some s => simp [Condition.BoundMetBy]
  · cases t.finish with
    | none => simp
    | some f => simp [Condition.BoundMetBy]

namespace SearchRequest

variable {r : SearchRequest} {limit : Nat} {timeColumn : String} {plans : List TablePlan}
  {range : TimeRange} {p : TablePlan}

theorem conditions_of_mem_plan (h : r.plan limit timeColumn = .ok plans) (hp : p ∈ plans) :
    r.conditions timeColumn = .ok p.conditions := by
  obtain ⟨-, -, cs, hcs, hplans⟩ := plan_eq_ok.1 h
  obtain ⟨table, -, htable⟩ := exists_of_mem_forall₂ hplans hp
  obtain ⟨-, -, rfl⟩ := planTable_eq_ok htable
  exact hcs

/-- **The bounds of a plan** on the column of its range are the ends of the range. -/
theorem boundsMetBy_iff (h : r.plan limit timeColumn = .ok plans) (hp : p ∈ plans)
    (hrange : r.timeRange = some range) (written : String) :
    p.BoundsMetBy (range.column timeColumn) written ↔
      (∀ s ∈ range.start, s.writtenText ≤ written) ∧
        ∀ f ∈ range.finish, written ≤ f.writtenText := by
  obtain ⟨bounds, filters, hbounds, hfilters, hconditions⟩ :=
    conditions_eq_ok.1 (conditions_of_mem_plan h hp)
  rw [hrange] at hbounds
  obtain ⟨rfl, -⟩ := timeConditions_eq_ok hbounds
  rw [← range.boundsMet_iff (range.column timeColumn), TablePlan.BoundsMetBy, hconditions]
  constructor
  · exact fun hmet c hc =>
      hmet c (List.mem_append_left _ hc) (TimeRange.field_of_mem_conditions hc)
  · intro hmet c hc _
    rcases List.mem_append.1 hc with hc | hc
    · exact hmet c hc
    · obtain ⟨e, -, he⟩ := exists_of_mem_forall₂ hfilters hc
      exact boundMetBy_of_filterCondition he

end SearchRequest

/-! ## Events -/

theorem RawEvent.get?_row_event_time (e : RawEvent) (id : String) :
    (e.row id).get? "event_time" = some (.str e.timestamp.writtenText) := by
  rw [row, SortedMap.get?_insert_of_ne _ _ (by decide), SortedMap.get?_insert_self]

/-- Whether the bounds of a range are met tells the instants of the range from those of other
seconds. A leap second that ends no minute would be written as the second after it; none is read
from a text (`Instant.leapEndsMinute_of_parse?`), and `shown` holds of those as well. -/
structure TimeRange.TellsApart (range : TimeRange) (t : Instant) (met : Prop) : Prop where
  /-- Between the ends of the range the bounds are met. -/
  covered : (∀ s ∈ range.start, s ≤ t) → (∀ f ∈ range.finish, t ≤ f) → met
  /-- In a second before that of the start they are not. -/
  early : ∀ s ∈ range.start, t.LeapEndsMinute → t.second < s.second → ¬ met
  /-- In a second after that of the end they are not. -/
  late : ∀ f ∈ range.finish, f.LeapEndsMinute → f.second < t.second → ¬ met
  /-- The bounds are met between the seconds that the ends show. -/
  shown : met ↔ (∀ s ∈ range.start, s.shownSecond ≤ t.shownSecond) ∧
    ∀ f ∈ range.finish, t.shownSecond ≤ f.shownSecond

/-- **A time range misses no event.** Of a range that has a plan, on the column of event times: the
text in the row of an event meets every bound if the event lies between the ends of the range, to
the nanosecond, and fails one if its second lies before that of the start or after that of the
end. -/
theorem time_range_finds_events {r : SearchRequest} {limit : Nat} {timeColumn : String}
    {plans : List TablePlan} {range : TimeRange} {e : RawEvent} (id : String)
    (hplan : r.plan limit timeColumn = .ok plans) (hrange : r.timeRange = some range)
    (hcolumn : range.column timeColumn = "event_time") (hevent : e.timestamp.IsWritable)
    (hstart : ∀ s ∈ range.start, s.IsWritable) (hfinish : ∀ f ∈ range.finish, f.IsWritable) :
    ∃ written, (e.row id).get? "event_time" = some (.str written) ∧
      ∀ p ∈ plans, range.TellsApart e.timestamp (p.BoundsMetBy "event_time" written) := by
  refine ⟨_, e.get?_row_event_time id, fun p hp => ?_⟩
  have hmet := SearchRequest.boundsMetBy_iff hplan hp hrange e.timestamp.writtenText
  rw [hcolumn] at hmet
  have hshown := hmet.trans (and_congr
    (forall₂_congr fun s hin => Instant.writtenText_le_iff (hstart s hin) hevent)
    (forall₂_congr fun f hin => Instant.writtenText_le_iff hevent (hfinish f hin)))
  refine ⟨fun hs hf => hmet.2 ⟨?_, ?_⟩, ?_, ?_, hshown⟩
  · exact fun s hin => Instant.writtenText_le_of_le (hstart s hin) hevent (hs s hin)
  · exact fun f hin => Instant.writtenText_le_of_le hevent (hfinish f hin) (hf f hin)
  · intro s hin hleap hearly hall
    have hlt := Instant.shownSecond_lt_of_second_lt hevent.nano hleap hearly
    exact absurd ((hshown.1 hall).1 s hin) (Int.not_le.2 hlt)
  · intro f hin hleap hlate hall
    have hlt := Instant.shownSecond_lt_of_second_lt (hfinish f hin).nano hleap hlate
    exact absurd ((hshown.1 hall).2 f hin) (Int.not_le.2 hlt)

namespace Sample

/-- From the middle of a leap second to the first quarter of the second after it. -/
def leapRange : TimeRange where
  field := none
  start := Instant.parse? "2016-12-31T23:59:60.5Z"
  finish := Instant.parse? "2017-01-01T00:00:00.25Z"

def leapSearch : SearchRequest :=
  { SearchRequest.new "disk" ["app", "db"] ["message"] with timeRange := some leapRange }

def eventAt (t : Instant) : RawEvent := { (default : RawEvent) with timestamp := t }

theorem plan_leapSearch : ∃ plans, leapSearch.plan 1000 "event_time" = .ok plans ∧ plans ≠ [] := by
  have hplan : (leapSearch.plan 1000 "event_time").toOption.map List.length = some 2 := by
    decide +kernel
  obtain ⟨plans, hplans, hlength⟩ := Option.map_eq_some_iff.1 hplan
  exact ⟨plans, eq_ok_of_toOption hplans, List.ne_nil_of_length_pos (by omega)⟩

theorem isWritable_ends_leapRange :
    (∀ s ∈ leapRange.start, s.IsWritable) ∧ ∀ f ∈ leapRange.finish, f.IsWritable := by
  have hstart : leapRange.start = some ⟨1483228799, 1500000000⟩ := by decide +kernel
  have hfinish : leapRange.finish = some ⟨1483228800, 250000000⟩ := by decide +kernel
  rw [hstart, hfinish]
  constructor
  · intro s hs
    obtain rfl := Option.mem_some_iff.1 hs
    exact ⟨by decide, by decide⟩
  · intro f hf
    obtain rfl := Option.mem_some_iff.1 hf
    exact ⟨by decide, by decide⟩

end Sample

/-- A range that begins within a leap second: an event of the next second is found, and one of the
second before is not. -/
theorem time_range_finds_events_of_leapSearch :
    ∃ plans during before, Sample.leapSearch.plan 1000 "event_time" = .ok plans ∧ plans ≠ [] ∧
      Instant.parse? "2017-01-01T01:00:00.1+01:00" = some during ∧
      Instant.parse? "2016-12-31T23:59:58.9Z" = some before ∧
      ∃ written written',
        ((Sample.eventAt during).row "e1").get? "event_time" = some (.str written) ∧
        ((Sample.eventAt before).row "e2").get? "event_time" = some (.str written') ∧
        ∀ p ∈ plans, p.BoundsMetBy "event_time" written ∧
          ¬ p.BoundsMetBy "event_time" written' := by
  obtain ⟨plans, hplan, hne⟩ := Sample.plan_leapSearch
  obtain ⟨hstart, hfinish⟩ := Sample.isWritable_ends_leapRange
  have hduring : Instant.parse? "2017-01-01T01:00:00.1+01:00" =
      some ⟨1483228800, 100000000⟩ := by decide +kernel
  have hbefore : Instant.parse? "2016-12-31T23:59:58.9Z" =
      some ⟨1483228798, 900000000⟩ := by decide +kernel
  obtain ⟨written, hrow, hfound⟩ := time_range_finds_events (e := Sample.eventAt ⟨_, _⟩) "e1"
    hplan rfl rfl ⟨by decide, (Instant.leapEndsMinute_of_parse? hduring).1⟩ hstart hfinish
  obtain ⟨written', hrow', hmissed⟩ := time_range_finds_events (e := Sample.eventAt ⟨_, _⟩) "e2"
    hplan rfl rfl ⟨by decide, (Instant.leapEndsMinute_of_parse? hbefore).1⟩ hstart hfinish
  refine ⟨plans, _, _, hplan, hne, hduring, hbefore, written, written', hrow, hrow',
    fun p hp => ⟨(hfound p hp).covered ?_ ?_, ?_⟩⟩
  · decide +kernel
  · decide +kernel
  · exact (hmissed p hp).early ⟨1483228799, 1500000000⟩ (by decide +kernel)
      (Instant.leapEndsMinute_of_parse? hbefore).2 (by decide)

end StoreGate
