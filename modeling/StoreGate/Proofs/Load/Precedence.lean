import StoreGate.Proofs.Engine.Status
import StoreGate.Proofs.Hub.Answer
import StoreGate.Proofs.Load.Fields

/-!
# Which fields of a load come through

A load lists the fields that its options control, then the headers that the caller adds, then the
merge condition and the transaction. What is listed later replaces what is listed under the same
name before. So the transaction of a staged load comes through whatever the caller adds, and a
control field comes through unless the caller adds a header of its name.

* `LoadOptions.lastOf_wireHeaders` — where the value of a field comes from.
* `staged_load_keeps_transaction` — a staged load carries its transaction at every hop.
* `ControlField`, `LoadOptions.dictated` — the control fields, and what the options make of each.
* `control_field_kept_iff` — when a control field comes through as the options dictate.
* `own_headers_replace_fields` — a load whose own headers replace its control fields.
-/

namespace StoreGate

open SortedMap (lastOf lastOf_append)

namespace LoadOptions

/-- What the caller's own headers say under a name, in whatever case they write it: of several the
last one counts. -/
def ownValue (o : LoadOptions) (name : String) : Option String :=
  lastOf (o.headers.entries.map Client.lowered) name

/-- **Where the value of a field comes from**: the transaction, the merge condition, the caller's
own headers and the control fields, each before those that follow. -/
theorem lastOf_wireHeaders (o : LoadOptions) (name : String) :
    lastOf (o.wireHeaders.map Client.lowered) name =
      (lastOf (o.transactionHeaders.map Client.lowered) name).or
        ((lastOf ((headerOf "merge_condition" o.mergeCondition).map Client.lowered) name).or
          ((o.ownValue name).or (lastOf (o.controlHeaders.map Client.lowered) name))) := by
  rw [wireHeaders, List.map_append, List.map_append, List.map_append, lastOf_append, lastOf_append,
    lastOf_append, ownValue]

/-! ## Transactions -/

/-- The transaction is listed last, so nothing of the options replaces it. -/
theorem lastOf_inTransaction (o : LoadOptions) (id : Int) :
    lastOf ((o.inTransaction id).wireHeaders.map Client.lowered) "txn_id" =
        some (Decimal.intText id) ∧
      lastOf ((o.inTransaction id).wireHeaders.map Client.lowered) "two_phase_commit" =
        some "true" := by
  have hid : Text.lowerAscii "txn_id" = "txn_id" := by decide
  have hmark : Text.lowerAscii "two_phase_commit" = "two_phase_commit" := by decide
  constructor
  · rw [lastOf_wireHeaders]
    simp [inTransaction, transactionHeaders, Client.lowered, hid, hmark]
  · rw [lastOf_wireHeaders]
    simp [inTransaction, transactionHeaders, Client.lowered, hid, hmark]

end LoadOptions

/-- **A staged load never leaves its transaction.** Whatever the options of the load say of
transactions, in whatever case, and however often it is redirected: each of its requests carries the
number of its transaction and the mark of a staged load, each of them once. It sends requests
exactly if its arguments are in order, and so none if a field may not be sent. -/
theorem staged_load_keeps_transaction (t : LoadTransaction) (c : Coordinator) (payload : ByteArray)
    (o : LoadOptions) (s : Session) (network : Nat → Outcome) :
    (∀ q ∈ (((t.load c payload o).run s).against network).2,
      q.headers.under "txn_id" = [Decimal.intText t.outcome.txnId] ∧
        q.headers.under "two_phase_commit" = ["true"]) ∧
    ((((t.load c payload o).run s).against network).2 ≠ [] ↔
      ∃ url, c.client.Accepts s.turn t.database t.table (o.inTransaction t.outcome.txnId) url) ∧
    ((∃ f ∈ (o.inTransaction t.outcome.txnId).wireHeaders, ¬ Client.IsSendable f) →
      (((t.load c payload o).run s).against network).2 = []) := by
  have hsent : (((t.load c payload o).run s).against network).2 =
      ((c.client.load none t.database t.table payload (o.inTransaction t.outcome.txnId)
        s.turn).1.against network).2 := Session.sent_call _ s network
  rw [hsent]
  refine ⟨?_, Client.sent_load_ne_nil_iff, ?_⟩
  · intro q hq
    obtain ⟨hid, hmark⟩ := o.lastOf_inTransaction t.outcome.txnId
    constructor
    · rw [Client.under_of_mem_sent hq (by decide) (by decide), hid]
      rfl
    · rw [Client.under_of_mem_sent hq (by decide) (by decide), hmark]
      rfl
  · rintro ⟨f, hf, hnot⟩
    by_contra hne
    obtain ⟨url, haccepts⟩ := Client.sent_load_ne_nil_iff.1 hne
    exact hnot (haccepts.sendable f hf)

namespace Sample

/-- A transaction of a table. -/
def staged : LoadTransaction := ⟨"logs", "app", job.outcome⟩

/-- Options that name other transactions, and deny that there is one. -/
def straying : LoadOptions :=
  ((LoadOptions.standard.inTransaction 9).withHeader "TXN_ID" "8").withHeader "Two_Phase_Commit"
    "false"

/-- A frontend sends every load on to a backend, which takes it. -/
def sentOn : Nat → Outcome
  | 0 => .ok ⟨307, [("location", "http://be1:8040/api/logs/app/_stream_load")], .ok ByteArray.empty⟩
  | _ + 1 => .ok ⟨200, [], .ok landed.toUTF8⟩

end Sample

/-- A staged load whose options name other transactions, at both of its hops. -/
theorem staged_load_keeps_transaction_of_straying :
    ∃ first second, (((Sample.staged.load (Sample.coordinator 0) ByteArray.empty
        Sample.straying).run (Session.first 0)).against Sample.sentOn).2 = [first, second] ∧
      first.headers.under "txn_id" = ["7"] ∧ first.headers.under "two_phase_commit" = ["true"] ∧
      second.headers.under "txn_id" = ["7"] ∧
      second.headers.under "two_phase_commit" = ["true"] := by
  have hlength : (((Sample.staged.load (Sample.coordinator 0) ByteArray.empty
      Sample.straying).run (Session.first 0)).against Sample.sentOn).2.length = 2 := by
    decide +kernel
  have hkeeps := (staged_load_keeps_transaction Sample.staged (Sample.coordinator 0)
    ByteArray.empty Sample.straying (Session.first 0) Sample.sentOn).1
  have hseven : Decimal.intText 7 = "7" := by decide
  obtain ⟨first, second, hsent⟩ := List.length_eq_two.1 hlength
  rw [hsent] at hkeeps
  obtain ⟨hfirst, hfirst'⟩ := hkeeps first (by simp)
  obtain ⟨hsecond, hsecond'⟩ := hkeeps second (by simp)
  exact ⟨first, second, hsent, hseven ▸ hfirst, hfirst', hseven ▸ hsecond, hsecond'⟩

/-! ## Control fields -/

/-- The fields that come from options of their own and stand before the caller's headers. -/
inductive ControlField where
  | format
  | columnSeparator
  | rowDelimiter
  | stripOuterArray
  | maxFilterRatio
  | timeout
  | label
deriving DecidableEq, Repr

namespace ControlField

/-- The control fields in the order in which they are listed. -/
def all : List ControlField :=
  [format, columnSeparator, rowDelimiter, stripOuterArray, maxFilterRatio, timeout, label]

def name : ControlField → String
  | format => "format"
  | columnSeparator => "column_separator"
  | rowDelimiter => "row_delimiter"
  | stripOuterArray => "strip_outer_array"
  | maxFilterRatio => "max_filter_ratio"
  | timeout => "timeout"
  | label => "label"

theorem mem_all (field : ControlField) : field ∈ all := by cases field <;> decide

theorem lowerAscii_name (field : ControlField) : Text.lowerAscii field.name = field.name := by
  cases field <;> decide

theorem name_inj {field field' : ControlField} : field.name = field'.name ↔ field = field' := by
  cases field <;> cases field' <;> decide

end ControlField

namespace LoadOptions

/-- What the options dictate for a control field: its value, or that it is absent. -/
def dictated (o : LoadOptions) : ControlField → Option String
  | .format => some o.format.text
  | .columnSeparator => if o.format = .csv then o.columnSeparator else none
  | .rowDelimiter => if o.format = .csv then o.rowDelimiter else none
  | .stripOuterArray => if o.format = .json ∧ o.stripOuterArray = true then some "true" else none
  | .maxFilterRatio =>
    if o.maxFilterRatio.isPositive then some (DecimalStyle.plain.text o.maxFilterRatio) else none
  | .timeout => some (Decimal.natText o.timeoutSecs)
  | .label => o.label

/-- **The control fields** that are listed are those that the options dictate. -/
theorem controlHeaders_eq (o : LoadOptions) :
    o.controlHeaders = ControlField.all.flatMap fun field =>
      headerOf field.name (o.dictated field) := by
  have hratio : (if o.maxFilterRatio.isPositive then
      [("max_filter_ratio", DecimalStyle.plain.text o.maxFilterRatio)] else []) =
      headerOf ControlField.maxFilterRatio.name (o.dictated .maxFilterRatio) := by
    unfold dictated
    split <;> rfl
  have hlayout : o.layoutHeaders =
      headerOf ControlField.columnSeparator.name (o.dictated .columnSeparator) ++
        headerOf ControlField.rowDelimiter.name (o.dictated .rowDelimiter) ++
          headerOf ControlField.stripOuterArray.name (o.dictated .stripOuterArray) := by
    unfold layoutHeaders dictated
    cases o.format with
    | csv => simp [ControlField.name, headerOf]
    | json =>
        cases o.stripOuterArray with
        | true => simp [ControlField.name, headerOf]
        | false => simp [headerOf]
  rw [controlHeaders, hratio, hlayout]
  simp [ControlField.all, headerOf, dictated, ControlField.name]

theorem lastOf_headerOf (name key : String) (value : Option String) :
    lastOf (headerOf name value) key = if name = key then value else none := by
  cases value with
  | none => simp [headerOf]
  | some v => simp [headerOf]

/-- Fields of different names do not replace each other. -/
theorem lastOf_flatMap_headerOf {fields : List ControlField} (hnodup : fields.Nodup)
    (value : ControlField → Option String) (field : ControlField) :
    lastOf (fields.flatMap fun f => headerOf f.name (value f)) field.name =
      if field ∈ fields then value field else none := by
  induction fields with
  | nil => rfl
  | cons f rest ih =>
      obtain ⟨hf, hrest⟩ := List.nodup_cons.1 hnodup
      rw [List.flatMap_cons, lastOf_append, ih hrest, lastOf_headerOf]
      by_cases hfield : f = field
      · subst hfield
        simp [hf]
      · simp [ControlField.name_inj, hfield, Ne.symm hfield]

theorem lastOf_controlHeaders (o : LoadOptions) (field : ControlField) :
    lastOf (o.controlHeaders.map Client.lowered) field.name = o.dictated field := by
  have hlowered : ∀ f : ControlField,
      (headerOf f.name (o.dictated f)).map Client.lowered = headerOf f.name (o.dictated f) := by
    intro f
    cases hvalue : o.dictated f with
    | none => rfl
    | some v => simp [headerOf, Client.lowered, f.lowerAscii_name]
  rw [controlHeaders_eq, List.map_flatMap]
  simp only [hlowered]
  rw [lastOf_flatMap_headerOf (by decide), if_pos field.mem_all]

/-- **The value of a control field** is the caller's own, or else what the options dictate: nothing
that is listed later has its name. -/
theorem lastOf_wireHeaders_control (o : LoadOptions) (field : ControlField) :
    lastOf (o.wireHeaders.map Client.lowered) field.name =
      (o.ownValue field.name).or (o.dictated field) := by
  have hother : ∀ name ∈ ["merge_condition", "txn_id", "two_phase_commit"],
      Text.lowerAscii name ≠ field.name := by
    cases field <;> decide
  have htransaction : lastOf (o.transactionHeaders.map Client.lowered) field.name = none := by
    refine SortedMap.lastOf_eq_none fun e he => ?_
    obtain ⟨f, hf, rfl⟩ := List.mem_map.1 he
    unfold transactionHeaders at hf
    split at hf
    · rcases List.mem_pair.1 hf with rfl | rfl
      · exact hother "txn_id" (by simp)
      · exact hother "two_phase_commit" (by simp)
    · cases hf
  have hmerge : lastOf ((headerOf "merge_condition" o.mergeCondition).map Client.lowered)
      field.name = none := by
    refine SortedMap.lastOf_eq_none fun e he => ?_
    obtain ⟨f, hf, rfl⟩ := List.mem_map.1 he
    unfold headerOf at hf
    split at hf
    · obtain rfl := List.mem_singleton.1 hf
      exact hother "merge_condition" (by simp)
    · cases hf
  rw [lastOf_wireHeaders, lastOf_controlHeaders, htransaction, hmerge, Option.none_or,
    Option.none_or]

end LoadOptions

/-- A client waits longer for a load than the engine may take for it. -/
theorem Client.ofSeconds_lt_loadPatience {o : LoadOptions} (h : o.timeoutSecs ≤ maxTimeoutSecs) :
    Span.ofSeconds o.timeoutSecs < loadPatience none o := by
  have hlongest : Span.ofSeconds maxTimeoutSecs < Span.longest := by decide +kernel
  have hcap : Span.ofSeconds o.timeoutSecs ≤ Span.ofSeconds maxTimeoutSecs :=
    Nat.mul_le_mul_right _ h
  have hslack : (0 : Nat) < loadSlack := by decide
  rw [loadPatience, Option.getD_none, Nat.lt_min]
  exact ⟨Nat.lt_of_le_of_lt hcap hlongest, Nat.lt_add_of_pos_right hslack⟩

/-- **A control field comes through as the options dictate, unless the caller's own headers say
otherwise.** In every request of a load: a control field has exactly the value that the options
dictate, or is absent if they dictate that, exactly if the caller's own headers give its name no
other value. The engine's limit that the options name is at most thirty days, and without a deadline
the client waits longer than that. -/
theorem control_field_kept_iff {c : Client} {deadline : Option Span} {turn : Turn}
    {database table : String} {payload : ByteArray} {o : LoadOptions} {network : Nat → Outcome}
    {q : Request}
    (h : q ∈ ((c.load deadline database table payload o turn).1.against network).2) :
    (∀ field : ControlField, q.headers.under field.name = (o.dictated field).toList ↔
      ∀ value, o.ownValue field.name = some value → o.dictated field = some value) ∧
    o.timeoutSecs ≤ Client.maxTimeoutSecs ∧
    (deadline = none → ∃ patience, q.patience = some patience ∧
      Span.ofSeconds o.timeoutSecs < patience) := by
  obtain ⟨⟨url, haccepts⟩, hop, hq⟩ := Client.request_of_mem_sent h
  refine ⟨fun field => ?_, haccepts.timeout, ?_⟩
  · have hclient : field.name ∉ ["authorization", "content-type", "expect"] := by
      cases field <;> decide
    rw [Client.under_of_mem_sent h field.lowerAscii_name hclient, o.lastOf_wireHeaders_control]
    cases o.ownValue field.name with
    | none => simp
    | some own =>
        cases o.dictated field with
        | none => simp
        | some value => simp [eq_comm]
  · rintro rfl
    exact ⟨_, congrArg Request.patience hq, Client.ofSeconds_lt_loadPatience haccepts.timeout⟩

namespace Sample

/-- Options with a header that none of them controls. -/
def described : LoadOptions :=
  ((LoadOptions.csv "|").withLabel "batch-1").withHeader "columns" "id,msg"

/-- Options whose headers have the names of control fields. -/
def overruled : LoadOptions :=
  ((LoadOptions.csv "|").withHeader "Timeout" "2592001").withHeader "strip_outer_array" "true"

def sentOf (o : LoadOptions) : List Request :=
  ((client.load none "logs" "app" ByteArray.empty o turn).1.against sentOn).2

end Sample

/-- A load with headers of the caller's, at its first hop. -/
theorem control_field_kept_of_described :
    ∃ q ∈ Sample.sentOf Sample.described,
      (∀ field : ControlField,
        q.headers.under field.name = (Sample.described.dictated field).toList) ∧
      ∃ patience, q.patience = some patience ∧ Span.ofSeconds 300 < patience := by
  have hown : ∀ field : ControlField, Sample.described.ownValue field.name = none := by
    intro field
    cases field <;> decide
  have hsent : Sample.sentOf Sample.described ≠ [] := by
    intro h
    have hlength : (Sample.sentOf Sample.described).length = 2 := by decide +kernel
    rw [h] at hlength
    cases hlength
  obtain ⟨q, hq⟩ := List.exists_mem_of_ne_nil _ hsent
  obtain ⟨hkept, -, hpatience⟩ := control_field_kept_iff hq
  refine ⟨q, hq, fun field => (hkept field).2 fun value h => ?_, hpatience rfl⟩
  rw [hown] at h
  cases h

/-- **The caller's own headers replace control fields.** A load whose options name a limit of 300
seconds and a payload of columns tells the engine a limit of more than thirty days, which is longer
than the client waits, and that the payload is an array. -/
theorem own_headers_replace_fields :
    ∃ q ∈ Sample.sentOf Sample.overruled,
      Sample.overruled.dictated .timeout = some "300" ∧ q.headers.under "timeout" = ["2592001"] ∧
      Client.maxTimeoutSecs < 2592001 ∧
      (∃ patience, q.patience = some patience ∧ patience < Span.ofSeconds 2592001) ∧
      Sample.overruled.dictated .stripOuterArray = none ∧
      q.headers.under "strip_outer_array" = ["true"] := by
  have hfirst : (Sample.sentOf Sample.overruled).head?.map (fun q =>
      (q.headers.under "timeout", q.patience, q.headers.under "strip_outer_array")) =
      some (["2592001"], some (Span.ofSeconds 330), ["true"]) := by decide +kernel
  obtain ⟨q, hq, hfields⟩ := Option.map_eq_some_iff.1 hfirst
  simp only [Prod.mk.injEq] at hfields
  obtain ⟨htimeout, hpatience, harray⟩ := hfields
  exact ⟨q, List.mem_of_head? hq, by decide, htimeout, by decide,
    ⟨_, hpatience, by decide +kernel⟩, by decide, harray⟩

end StoreGate
