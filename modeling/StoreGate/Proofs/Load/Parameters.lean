import StoreGate.Hub.LoadParameters
import StoreGate.Proofs.Decimal.Digits
import StoreGate.Proofs.Load.Fields

/-!
# Parameters of a load as fields

The parameters of a load are read back from the fields that they are written as, each from its own
field. What a load carries to the engine depends on its format: a separator goes with rows of text
alone, and the mark of an array with JSON alone.

* `LoadParameters.read?_fields` — parameters are read back.
* `LoadParameters.carried` — what a load carries, by its parameters and its format.
* `LoadParameters.lastOf_plainOptions`, `LoadParameters.isSendable_plainOptions` — its options list
  this and nothing else.
-/

namespace StoreGate

namespace LoadParameters

/-- Every number can be written: it is within its range, and the share of rows is read back from its
text. -/
structure IsWritable (p : LoadParameters) : Prop where
  timeout : ∀ n ∈ p.timeoutSecs, n ≤ UInt64.size - 1
  ratio : ∀ x ∈ p.maxFilterRatio, Double.read? (DecimalStyle.plain.text x).toList = some x
  txnId : ∀ n ∈ p.txnId, Json.minInt64 ≤ n ∧ n ≤ Json.maxInt64

variable {p : LoadParameters}

/-- The fields make new parameters of old ones. -/
def Reads (fields : List (String × String)) (old new : LoadParameters) : Prop :=
  fields.foldlM add? old = some new

theorem Reads.append {before after : List (String × String)} {old mid new : LoadParameters}
    (h : Reads before old mid) (h' : Reads after mid new) : Reads (before ++ after) old new := by
  unfold Reads
  rw [List.foldlM_append, h]
  exact h'

/-- One parameter is read from its field, if there is one. -/
theorem reads_fieldOf {α : Type} {name : String} {write : α → String} {value : Option α}
    (set : Option α → LoadParameters)
    (h : ∀ v ∈ value, add? (set none) (name, write v) = some (set (some v))) :
    Reads (fieldOf name write value) (set none) (set value) := by
  cases value with
  | none => rfl
  | some v =>
      show (add? (set none) (name, write v) >>= fun p => some p) = _
      rw [h v rfl]
      rfl

theorem readInt64?_intText {n : Int} (hlo : Json.minInt64 ≤ n) (hhi : n ≤ Json.maxInt64) :
    readInt64? (Decimal.intText n) = some n := by
  rw [readInt64?, Decimal.intText, String.toList_ofList]
  exact Decimal.readIntIn?_intDigits hlo hhi

theorem range_of_readInt64? {text : String} {n : Int} (h : readInt64? text = some n) :
    Json.minInt64 ≤ n ∧ n ≤ Json.maxInt64 := by
  obtain ⟨-, hrange⟩ := Option.filter_eq_some_iff.1 h
  simpa using hrange

theorem readNat64?_natText {n : Nat} (h : n ≤ UInt64.size - 1) :
    readNat64? (Decimal.natText n) = some n := by
  rw [readNat64?, Decimal.natText, String.toList_ofList]
  exact Decimal.readNatUpTo?_natDigits h

/-- A parameter that has not been set is set by a text that can be read. -/
theorem once_none {α : Type} {new : Option α} {v : α} (h : new = some v)
    (set : α → LoadParameters) : once none new set = some (set v) := by
  rw [h]
  rfl

/-- **Parameters are read back** from the fields that they are written as. -/
theorem read?_fields (h : p.IsWritable) : read? p.fields = some p := by
  obtain ⟨htimeout, hratio, htxnId⟩ := h
  obtain ⟨format, label, strip, timeout, separator, delimiter, ratio, columns, merge, txnId⟩ := p
  have hbool : ∀ b, readBool? (boolText b) = some b := by decide
  -- each parameter is read when those that are written before it have been
  have hformat : Reads (fieldOf "format" id format) {} { format } :=
    reads_fieldOf (fun v => { format := v }) fun v _ => rfl
  have hstrip : Reads (fieldOf "strip_outer_array" boolText strip) _ _ :=
    reads_fieldOf (fun v => { format, stripOuterArray := v }) fun v _ => once_none (hbool v) _
  have hseparator : Reads (fieldOf "column_separator" id separator) _ _ :=
    reads_fieldOf (fun v => { format, stripOuterArray := strip, columnSeparator := v })
      fun v _ => rfl
  have hlabel : Reads (fieldOf "label" id label) _ _ :=
    reads_fieldOf (fun v => {
      format, stripOuterArray := strip, columnSeparator := separator, label := v }) fun v _ => rfl
  have htxnId : Reads (fieldOf "txn_id" Decimal.intText txnId) _ _ :=
    reads_fieldOf (fun v => {
      format, stripOuterArray := strip, columnSeparator := separator, label, txnId := v })
      fun n hn => once_none (readInt64?_intText (htxnId n hn).1 (htxnId n hn).2) _
  have htimeout : Reads (fieldOf "timeout" Decimal.natText timeout) _ _ :=
    reads_fieldOf (fun v => {
      format, stripOuterArray := strip, columnSeparator := separator, label, txnId,
      timeoutSecs := v }) fun n hn => once_none (readNat64?_natText (htimeout n hn)) _
  have hdelimiter : Reads (fieldOf "row_delimiter" id delimiter) _ _ :=
    reads_fieldOf (fun v => {
      format, stripOuterArray := strip, columnSeparator := separator, label, txnId,
      timeoutSecs := timeout, rowDelimiter := v }) fun v _ => rfl
  have hratio : Reads (fieldOf "max_filter_ratio" DecimalStyle.plain.text ratio) _ _ :=
    reads_fieldOf (fun v => {
      format, stripOuterArray := strip, columnSeparator := separator, label, txnId,
      timeoutSecs := timeout, rowDelimiter := delimiter, maxFilterRatio := v })
      fun x hx => once_none (hratio x hx) _
  have hcolumns : Reads (fieldOf "columns" id columns) _ _ :=
    reads_fieldOf (fun v => {
      format, stripOuterArray := strip, columnSeparator := separator, label, txnId,
      timeoutSecs := timeout, rowDelimiter := delimiter, maxFilterRatio := ratio,
      columns := v }) fun v _ => rfl
  have hmerge : Reads (fieldOf "merge_condition" id merge) _ _ :=
    reads_fieldOf (fun v => {
      format, stripOuterArray := strip, columnSeparator := separator, label, txnId,
      timeoutSecs := timeout, rowDelimiter := delimiter, maxFilterRatio := ratio, columns,
      mergeCondition := v }) fun v _ => rfl
  exact ((((((((hformat.append hstrip).append hseparator).append hlabel).append htxnId).append
    htimeout).append hdelimiter).append hratio).append hcolumns).append hmerge

/-! ## What a load carries -/

/-- Nothing is asked for but a format, how the payload is laid out, a label, and a transaction. -/
structure IsPlain (p : LoadParameters) : Prop where
  timeout : p.timeoutSecs = none
  rowDelimiter : p.rowDelimiter = none
  ratio : p.maxFilterRatio = none
  columns : p.columns = none
  merge : p.mergeCondition = none
  txnId : ∀ n ∈ p.txnId, Json.minInt64 ≤ n ∧ n ≤ Json.maxInt64

theorem IsPlain.isWritable (h : p.IsPlain) : p.IsWritable := by
  refine ⟨?_, ?_, h.txnId⟩
  · rw [h.timeout]
    intro n hn
    cases hn
  · rw [h.ratio]
    intro x hx
    cases hx

/-- The format by the name that is given for it. -/
def formatName (p : LoadParameters) : String := p.format.getD LoadFormat.json.text

/-- What a load in the given format carries as header fields, beside those of every load. -/
def carried (p : LoadParameters) (f : LoadFormat) : List (String × String) :=
  [("format", f.text)] ++
    LoadOptions.headerOf "column_separator" (if f = .csv then p.columnSeparator else none) ++
    LoadOptions.headerOf "strip_outer_array"
      (if f = .json ∧ p.stripOuterArray = some true then some "true" else none) ++
    [("timeout", "300")] ++ LoadOptions.headerOf "label" p.label ++
    LoadOptions.headerOf "txn_id" (p.txnId.map Decimal.intText) ++
    LoadOptions.headerOf "two_phase_commit" (p.txnId.map fun _ => "true")

/-- The format is neither of the two that there are, or a value that the load would carry may not be
sent. -/
def IsUnfit (p : LoadParameters) : Prop :=
  LoadFormat.read? p.formatName = none ∨ ∃ f, LoadFormat.read? p.formatName = some f ∧
    ∃ e ∈ p.carried f, HeaderValue.isValid e.2 = false

/-- The format is the given one, and all values that the load carries may be sent. -/
structure IsFit (p : LoadParameters) (f : LoadFormat) : Prop where
  format : LoadFormat.read? p.formatName = some f
  values : ∀ e ∈ p.carried f, HeaderValue.isValid e.2 = true

theorem exists_isFit_of_not_isUnfit {p : LoadParameters} (h : ¬ p.IsUnfit) : ∃ f, p.IsFit f := by
  cases hformat : LoadFormat.read? p.formatName with
  | none => exact absurd (.inl hformat) h
  | some f =>
      refine ⟨f, hformat, fun e he => ?_⟩
      by_contra hvalue
      exact h (.inr ⟨f, hformat, e, he, Bool.eq_false_iff.2 hvalue⟩)

theorem IsFit.not_isUnfit {p : LoadParameters} {f : LoadFormat} (h : p.IsFit f) : ¬ p.IsUnfit := by
  rintro (hnone | ⟨f', hformat, e, he, hvalue⟩)
  · rw [h.format] at hnone
    cases hnone
  · rw [h.format] at hformat
    cases hformat
    rw [h.values e he] at hvalue
    cases hvalue

/-- The names that a load may carry. -/
def carriedNames : List String :=
  ["format", "column_separator", "strip_outer_array", "timeout", "label", "txn_id",
    "two_phase_commit"]

/-- The options of a load in the given format. -/
def plainOptions (p : LoadParameters) (f : LoadFormat) : LoadOptions :=
  { LoadOptions.standard with
    format := f
    columnSeparator := p.columnSeparator
    stripOuterArray := p.stripOuterArray.getD false
    label := p.label
    txnId := p.txnId }

theorem loadFormat_eq (p : LoadParameters) : p.loadFormat = LoadFormat.parse p.formatName := by
  unfold loadFormat formatName
  cases p.format with
  | none => decide +kernel
  | some name => rfl

theorem options_of_format (h : p.IsPlain) {f : LoadFormat}
    (hf : LoadFormat.read? p.formatName = some f) : p.options = .ok (p.plainOptions f) := by
  have hformat : p.loadFormat = .ok f := by
    rw [loadFormat_eq, LoadFormat.parse, hf]
    rfl
  have hratio : (!isRatio Double.zero) = false := by decide +kernel
  have hheaders : p.ownHeaders = .empty := by
    unfold ownHeaders
    rw [h.columns]
  rw [options, hformat, hheaders, h.ratio, h.rowDelimiter, h.timeout, h.merge]
  show (do if !isRatio Double.zero then throw badRatio
           return p.plainOptions f : Except Fault LoadOptions) = _
  rw [hratio]
  rfl

theorem options_of_noFormat (hf : LoadFormat.read? p.formatName = none) :
    p.options = .error (LoadFormat.unsupported p.formatName) := by
  have hformat : p.loadFormat = .error (LoadFormat.unsupported p.formatName) := by
    rw [loadFormat_eq, LoadFormat.parse, hf]
    rfl
  unfold options
  rw [hformat]
  rfl

theorem wireHeaders_plainOptions (p : LoadParameters) (f : LoadFormat) :
    (p.plainOptions f).wireHeaders = p.carried f := by
  have hpositive : Double.zero.isPositive = false := by decide +kernel
  have htimeout : Decimal.natText defaultLoadTimeout = "300" := by decide +kernel
  have hlayout : (p.plainOptions f).layoutHeaders =
      LoadOptions.headerOf "column_separator" (if f = .csv then p.columnSeparator else none) ++
        LoadOptions.headerOf "strip_outer_array"
          (if f = .json ∧ p.stripOuterArray = some true then some "true" else none) := by
    unfold LoadOptions.layoutHeaders plainOptions
    cases f with
    | csv => simp [LoadOptions.headerOf, LoadOptions.standard]
    | json => cases p.stripOuterArray with
      | none => simp [LoadOptions.headerOf]
      | some strip => cases strip <;> simp [LoadOptions.headerOf]
  have htransaction : (p.plainOptions f).transactionHeaders =
      LoadOptions.headerOf "txn_id" (p.txnId.map Decimal.intText) ++
        LoadOptions.headerOf "two_phase_commit" (p.txnId.map fun _ => "true") := by
    unfold LoadOptions.transactionHeaders plainOptions
    cases p.txnId <;> rfl
  rw [LoadOptions.wireHeaders, LoadOptions.controlHeaders, hlayout, htransaction]
  simp [plainOptions, LoadOptions.standard, LoadOptions.headerOf, hpositive, htimeout, carried,
    SortedMap.empty]

theorem keys_headerOf_sublist (name : String) (value : Option String) :
    ((LoadOptions.headerOf name value).map Prod.fst).Sublist [name] := by
  cases value with
  | none => exact List.nil_sublist _
  | some v => exact List.Sublist.refl _

theorem keys_carried_sublist (p : LoadParameters) (f : LoadFormat) :
    ((p.carried f).map Prod.fst).Sublist carriedNames := by
  have hnames : carriedNames = ["format"] ++ ["column_separator"] ++ ["strip_outer_array"] ++
      ["timeout"] ++ ["label"] ++ ["txn_id"] ++ ["two_phase_commit"] := rfl
  simp only [carried, hnames, List.map_append]
  exact ((((((List.Sublist.refl _).append (keys_headerOf_sublist _ _)).append
    (keys_headerOf_sublist _ _)).append (List.Sublist.refl _)).append
    (keys_headerOf_sublist _ _)).append (keys_headerOf_sublist _ _)).append
    (keys_headerOf_sublist _ _)

variable {f : LoadFormat}

theorem name_mem_of_mem_carried {e : String × String} (h : e ∈ p.carried f) : e.1 ∈ carriedNames :=
  (p.keys_carried_sublist f).subset (List.mem_map_of_mem h)

/-- **What the options list under a name** is what the load carries under it. -/
theorem lastOf_plainOptions (p : LoadParameters) (f : LoadFormat) (name : String) :
    (SortedMap.lastOf ((p.plainOptions f).wireHeaders.map Client.lowered) name).toList =
      SortedMap.valuesOf (p.carried f) name := by
  have hlower : ∀ name ∈ carriedNames, Text.lowerAscii name = name := by decide
  have hsame : (p.carried f).map Client.lowered = p.carried f := by
    refine (List.map_congr_left fun e he => ?_).trans (List.map_id _)
    exact Prod.ext (hlower _ (name_mem_of_mem_carried he)) rfl
  have hnodup : ((p.carried f).map Prod.fst).Nodup :=
    (p.keys_carried_sublist f).nodup (by decide)
  rw [wireHeaders_plainOptions, hsame, SortedMap.valuesOf_of_nodup hnodup]

/-- **A load can be sent** if the values that it carries may be sent. -/
theorem isSendable_plainOptions :
    (∀ e ∈ (p.plainOptions f).wireHeaders, Client.IsSendable e) ↔
      ∀ e ∈ p.carried f, HeaderValue.isValid e.2 = true := by
  have hnames : ∀ name ∈ carriedNames, (HeaderName.ofText? name).isSome = true := by decide
  rw [wireHeaders_plainOptions]
  constructor
  · exact fun h e he => (h e he).2
  · exact fun h e he => ⟨hnames _ (name_mem_of_mem_carried he), h e he⟩

end LoadParameters

end StoreGate
