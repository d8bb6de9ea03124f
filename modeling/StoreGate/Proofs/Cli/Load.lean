import StoreGate.Proofs.Cli.Words
import StoreGate.Proofs.Hub.Arrival
import StoreGate.Proofs.Hub.Load

/-!
# Loads from the terminal to the engine

A load that is asked for at the terminal goes through two servers. Its options become fields of a
query, and the fields of the query become header fields, each by names and conditions of their own.
What the engine meets is what was asked for.

* `Cli.LoadOption` — the options of a load, and `Cli.LoadOption.asked` what they ask for.
* `Cli.isPlain_of_read` — what any command line can ask of a load.
* `load_arguments_reach_engine` — the way from the terminal to the engine.
-/

namespace StoreGate

namespace Cli

/-! ## Options -/

/-- The options of a load, by what they say. -/
inductive LoadOption where
  | file (name : String)
  | format (name : String)
  | stripOuterArray
  | columnSeparator (text : String)
  | label (text : String)
  | txnId (n : Int)
deriving DecidableEq, Repr

namespace LoadOption

/-- An option as it is given. -/
def given : LoadOption → Given FileLoad
  | file name => ⟨"file", some name, false, fun l => { l with file := name }⟩
  | format name => ⟨"format", some name, false,
      parameter (fun v p => { p with format := some v }) name⟩
  | stripOuterArray => ⟨"strip-outer-array", none, false,
      parameter (fun v p => { p with stripOuterArray := some v }) true⟩
  | columnSeparator text => ⟨"column-separator", some text, false,
      parameter (fun v p => { p with columnSeparator := some v }) text⟩
  | label text => ⟨"label", some text, false,
      parameter (fun v p => { p with label := some v }) text⟩
  | txnId n => ⟨"txn-id", some (Decimal.intText n), false,
      parameter (fun v p => { p with txnId := some v }) n⟩

/-- The name of a file is not empty, and a number is one of 64 bits. -/
def IsReadable : LoadOption → Prop
  | file name => name ≠ ""
  | txnId n => Json.minInt64 ≤ n ∧ n ≤ Json.maxInt64
  | _ => True

def file? : LoadOption → Option String
  | file name => some name
  | _ => none

def format? : LoadOption → Option String
  | format name => some name
  | _ => none

def columnSeparator? : LoadOption → Option String
  | columnSeparator text => some text
  | _ => none

def label? : LoadOption → Option String
  | label text => some text
  | _ => none

def txnId? : LoadOption → Option Int
  | txnId n => some n
  | _ => none

/-- What is asked for by options and names: a format unless one is given is JSON. -/
def asked (os : List LoadOption) (database table : String) : FileLoad where
  database := database
  table := table
  file := ((os.filterMap file?).getLast?).getD ""
  parameters := {
    format := some (((os.filterMap format?).getLast?).getD "json")
    stripOuterArray := if stripOuterArray ∈ os then some true else none
    columnSeparator := (os.filterMap columnSeparator?).getLast?
    label := (os.filterMap label?).getLast?
    txnId := (os.filterMap txnId?).getLast? }

/-- A command line with these options and these names. -/
def words (os : List LoadOption) (database table : String) : List String :=
  "load" :: (os.map (fun o => o.given.word) ++ ["--", database, table])

/-- The options make a load: there is a file, every option can be read, and none is given twice. -/
structure MakeLoad (os : List LoadOption) : Prop where
  file : ∃ name, file name ∈ os
  readable : ∀ o ∈ os, o.IsReadable
  once : os.Pairwise fun o o' => o'.given.name ≠ o.given.name

theorem given_for {o : LoadOption} (h : o.IsReadable) : o.given.For loadForm := by
  cases o with
  | file name =>
      refine .setting _ name rfl rfl rfl rfl ?_
      have hne : ¬ name.isEmpty = true := by
        rw [String.isEmpty_iff]
        exact h
      show (if name.isEmpty then none else some _) = _
      rw [if_neg hne]
      rfl
  | format name => exact .setting _ name rfl rfl rfl rfl rfl
  | stripOuterArray => exact .flag _ rfl rfl rfl rfl rfl (by decide) (by decide)
  | columnSeparator text => exact .setting _ text rfl rfl rfl rfl rfl
  | label text => exact .setting _ text rfl rfl rfl rfl rfl
  | txnId n =>
      refine .setting _ (Decimal.intText n) rfl rfl rfl rfl ?_
      show (LoadParameters.readInt64? (Decimal.intText n)).map _ = _
      rw [LoadParameters.readInt64?_intText h.1 h.2]
      rfl

theorem isNamed_loadForm : loadForm.IsNamed := by
  show ∀ name ∈ ["file", "format", "column-separator", "label", "txn-id", "strip-outer-array"],
    name ≠ "" ∧ '=' ∉ name.toList
  decide

/-- **What options make of a load** is what they ask for. -/
theorem foldl_given (os : List LoadOption) (database table : String) :
    { os.foldl (fun l o => o.given.set l) plainLoad with database := database, table := table } =
      asked os database table := by
  have hfile := get_foldl_set (fun o => (given o).set) FileLoad.file file?
    (fun o l => by cases o <;> rfl) os plainLoad
  have hformat := get_foldl_or (fun o => (given o).set) (fun l => l.parameters.format) format?
    (fun o l => by cases o <;> rfl) os plainLoad
  have hstrip := get_foldl_or (fun o => (given o).set) (fun l => l.parameters.stripOuterArray)
    (fun o => if o = stripOuterArray then some true else none)
    (fun o l => by cases o <;> rfl) os plainLoad
  have hseparator := get_foldl_or (fun o => (given o).set) (fun l => l.parameters.columnSeparator)
    columnSeparator? (fun o l => by cases o <;> rfl) os plainLoad
  have hlabel := get_foldl_or (fun o => (given o).set) (fun l => l.parameters.label) label?
    (fun o l => by cases o <;> rfl) os plainLoad
  have htxnId := get_foldl_or (fun o => (given o).set) (fun l => l.parameters.txnId) txnId?
    (fun o l => by cases o <;> rfl) os plainLoad
  have hrest := get_foldl_same (fun o => (given o).set)
    (fun l => (l.parameters.timeoutSecs, l.parameters.rowDelimiter, l.parameters.maxFilterRatio,
      l.parameters.columns, l.parameters.mergeCondition))
    (fun o l => by cases o <;> rfl) os plainLoad
  rw [getLast?_filterMap_ite] at hstrip
  generalize os.foldl (fun l o => o.given.set l) plainLoad = l at *
  obtain ⟨_, _, file, format, label, strip, timeout, separator, delimiter, ratio, columns, merge,
    txnId⟩ := l
  simp only [plainLoad, Option.or_none, Option.or_some, Prod.mk.injEq] at *
  obtain ⟨rfl, rfl, rfl, rfl, rfl⟩ := hrest
  subst hfile hformat hstrip hseparator hlabel htxnId
  rfl

/-- **A command line is read** as what its options ask for, in whatever order they are given. -/
theorem read_words {os : List LoadOption} (h : MakeLoad os) (database table : String) :
    Invocation.read (words os database table) = .ok ⟨.load (asked os database table), false⟩ := by
  have hgivens : ∀ g ∈ os.map given, g.For loadForm := by
    intro g hg
    obtain ⟨o, ho, rfl⟩ := List.mem_map.1 hg
    exact given_for (h.readable o ho)
  have honce : (os.map given).Pairwise fun g g' => g'.repeatable = true ∨ g'.name ≠ g.name :=
    List.pairwise_map.2 (h.once.imp fun hne => .inr hne)
  have hrequired : ∀ s ∈ loadForm.settings, s.required = true →
      s.name ∈ (os.map given).map Given.name := by
    obtain ⟨name, hname⟩ := h.file
    have hfile : "file" ∈ (os.map given).map Given.name :=
      List.mem_map_of_mem (List.mem_map_of_mem hname)
    intro s hs hneeded
    simp only [loadForm, setting, List.mem_cons, List.not_mem_nil, or_false] at hs
    rcases hs with rfl | rfl | rfl | rfl | rfl
    · exact hfile
    all_goals cases hneeded
  have hplaces : ∀ seen, [database, table].foldlM Progress.fill
      ⟨(os.map given).foldl (fun l g => g.set l) plainLoad, false, seen, loadForm.places⟩ =
        .ok ⟨{ (os.map given).foldl (fun l g => g.set l) plainLoad with
          database := database, table := table }, false, seen, []⟩ := fun _ => rfl
  have hread := Form.read_givens isNamed_loadForm hgivens honce hrequired hplaces
  rw [List.map_map, List.foldl_map, foldl_given] at hread
  show Invocation.orJson false <$> readBy loadForm plainLoad .load _ = _
  exact congrArg _ (congrArg _ hread)

end LoadOption

/-! ## Any command line -/

theorem keeps_plainParameters : loadForm.Keeps fun l => l.parameters.IsPlain := by
  refine ⟨?flags, ?settings, ?places⟩
  case flags =>
    intro f hf l hl
    obtain rfl := List.mem_singleton.1 hf
    exact ⟨hl.timeout, hl.rowDelimiter, hl.ratio, hl.columns, hl.merge, hl.txnId⟩
  case settings =>
    intro s hs
    simp only [loadForm, setting, List.mem_cons, List.not_mem_nil, or_false] at hs
    rcases hs with rfl | rfl | rfl | rfl | rfl
    · intro text change hread l hl
      dsimp only [fileValue] at hread
      split at hread
      · cases hread
      · obtain rfl := Option.some.inj hread
        exact hl
    · exact keeps_textValue fun _ l hl =>
        ⟨hl.timeout, hl.rowDelimiter, hl.ratio, hl.columns, hl.merge, hl.txnId⟩
    · exact keeps_textValue fun _ l hl =>
        ⟨hl.timeout, hl.rowDelimiter, hl.ratio, hl.columns, hl.merge, hl.txnId⟩
    · exact keeps_textValue fun _ l hl =>
        ⟨hl.timeout, hl.rowDelimiter, hl.ratio, hl.columns, hl.merge, hl.txnId⟩
    · intro text change hread l hl
      obtain ⟨n, hn, rfl⟩ := Option.map_eq_some_iff.1 hread
      refine ⟨hl.timeout, hl.rowDelimiter, hl.ratio, hl.columns, hl.merge, fun m hm => ?_⟩
      obtain rfl := Option.some.inj hm
      exact LoadParameters.range_of_readInt64? hn
  case places =>
    intro s hs
    simp only [loadForm, needed, List.mem_cons, List.not_mem_nil, or_false] at hs
    rcases hs with rfl | rfl
    · exact keeps_textValue fun _ _ hl => hl
    · exact keeps_textValue fun _ _ hl => hl

theorem isPlain_plainLoad : plainLoad.parameters.IsPlain := by
  refine ⟨rfl, rfl, rfl, rfl, rfl, fun n hn => ?_⟩
  cases hn

/-- **Every load at the terminal** is one with plain parameters. -/
theorem plainParameters_of_read {words : List String} {i : Invocation} {l : FileLoad}
    (h : Invocation.read words = .ok i) (hi : i.action = .load l) : l.parameters.IsPlain := by
  have hmade := made_of_read h
  rw [hi] at hmade
  cases hmade with
  | load hread => exact Form.keeps_of_read keeps_plainParameters isPlain_plainLoad hread

/-! ## From the terminal to the engine -/

theorem segmentText_of_word {s : String} (h : Sql.Word s) : segmentText s = .ok s := by
  have hpercent : '%' ∉ s.toList := fun hmem =>
    Url.ne_of_standsForItself (Url.wordy_of_word h _ hmem) (by decide) rfl
  rw [segmentText, Percent.decode_of_notMem hpercent, Utf8.decode?_bytes]
  exact congrArg Except.ok String.ofList_toList

theorem wordy_segments_load {database table : String} (hdatabase : Sql.Word database)
    (htable : Sql.Word table) :
    ∀ s ∈ (Resource.load database table).segments, Url.Wordy s.toList := by
  simp only [Resource.segments, Resource.versioned, List.forall_mem_cons]
  exact ⟨by decide, by decide, by decide, Url.wordy_of_word hdatabase, Url.wordy_of_word htable,
    List.forall_mem_nil _⟩

/-- **A load arrives as it was asked for.** -/
theorem exists_load_request {base : String} {e : Endpoint} (hbase : IsAddressOf base e)
    {l : FileLoad} (hdatabase : Sql.Word l.database) (htable : Sql.Word l.table)
    (hplain : l.parameters.IsPlain) {files : Files} {content : ByteArray}
    (hfile : files l.file = .ok content) (hsize : content.size ≤ HubRequest.bodyLimit) :
    ∃ call q, Action.call files (.load l) = .ok call ∧ call.request base = .ok q ∧
      q.arriving.method = Method.put.text ∧ q.arriving.fields = l.parameters.fields ∧
      Command.ofRequest q.arriving = .ok (.load l.database l.table l.parameters content) := by
  have hsegments := wordy_segments_load hdatabase htable
  have hcall : Action.call files (.load l) =
      .ok ⟨.load l.database l.table, l.parameters.fields, .bytes content⟩ := by
    rw [Action.call, contentOf, hfile]
    rfl
  obtain ⟨q, hq, harrives⟩ := ApiCall.exists_request
    (c := ⟨.load l.database l.table, l.parameters.fields, .bytes content⟩) hbase hsegments
  refine ⟨_, q, hcall, hq, harrives.method, harrives.fields, ?_⟩
  have hreach : (Resource.load l.database l.table).isReachable = true := by
    obtain ⟨c, rest, htext, -⟩ := htable
    have hne : l.table ≠ "" := by
      rintro hempty
      rw [hempty] at htext
      cases htext
    simpa [Resource.isReachable] using hne
  have hpayload : q.arriving.payload = .ok content := by
    rw [HubRequest.payload, harrives.body]
    exact if_neg (Nat.not_lt.2 hsize)
  rw [ApiCall.ofRequest_arriving harrives hreach hsegments, Command.ofResource,
    segmentText_of_word hdatabase, segmentText_of_word htable, harrives.fields,
    LoadParameters.read?_fields hplain.isWritable, hpayload]
  rfl

end Cli

/-- **A load reaches the engine as it was asked for.** Options come to the load that they ask for,
in whatever order they are given. The parameters of the load of any command line come out of the
query as they went in, and what the server answers and sends to the engine for it is what these
parameters say. -/
theorem load_arguments_reach_engine {os : List Cli.LoadOption}
    (hos : Cli.LoadOption.MakeLoad os) {base : String} {e : Endpoint}
    (hbase : Cli.IsAddressOf base e) :
    (∀ database table, Cli.Invocation.read (Cli.LoadOption.words os database table) =
      .ok ⟨.load (Cli.LoadOption.asked os database table), false⟩) ∧
    ∀ (words : List String) (i : Cli.Invocation) (l : Cli.FileLoad) (files : Cli.Files)
      (content : ByteArray), Cli.Invocation.read words = .ok i → i.action = .load l →
      Sql.Word l.database → Sql.Word l.table → files l.file = .ok content →
      content.isEmpty = false → content.size ≤ HubRequest.bodyLimit →
      ∃ call q, i.action.call files = .ok call ∧ call.request base = .ok q ∧
        q.arriving.fields = l.parameters.fields ∧
        Command.ofRequest q.arriving = .ok (.load l.database l.table l.parameters content) ∧
        ∀ (h : Hub) (m : Moment) (s s' : Session) (network : Nat → Outcome) (reply : HubReply)
          (sent : List Request),
          ((h.answer m q.arriving).run s).against network = ((reply, s'), sent) →
          h.AnswersLoad l.database l.table l.parameters content s s' reply sent := by
  refine ⟨Cli.LoadOption.read_words hos, ?_⟩
  intro words i l files content hread hload hdatabase htable hfile hcontent hsize
  have hplain := Cli.plainParameters_of_read hread hload
  obtain ⟨call, q, hcall, hq, hmethod, hfields, hcommand⟩ :=
    Cli.exists_load_request hbase hdatabase htable hplain hfile hsize
  rw [hload]
  refine ⟨call, q, hcall, hq, hfields, hcommand, ?_⟩
  intro h m s s' network reply sent hanswer
  exact Hub.answer_load hcommand hmethod hplain hdatabase htable hcontent hanswer

namespace Sample

/-- Options of a load of columns under a transaction. -/
def loadOptions : List Cli.LoadOption :=
  [.txnId 7, .columnSeparator "|", .stripOuterArray, .file "rows.csv", .format " CSV "]

/-- A file with one row. -/
def rows : ByteArray := "1|a".toUTF8

/-- All there is. -/
def oneFile : Cli.Files := fun _ => .ok rows

theorem makeLoad_loadOptions : Cli.LoadOption.MakeLoad loadOptions where
  file := ⟨"rows.csv", by decide⟩
  readable := by
    intro o ho
    simp only [loadOptions, List.mem_cons, List.not_mem_nil, or_false] at ho
    rcases ho with rfl | rfl | rfl | rfl | rfl
    · show Json.minInt64 ≤ 7 ∧ 7 ≤ Json.maxInt64
      decide
    · trivial
    · trivial
    · show "rows.csv" ≠ ""
      decide
    · trivial
  once := by decide

theorem isFit_loadOptions :
    (Cli.LoadOption.asked loadOptions "logs" "app").parameters.IsFit .csv where
  format := by decide +kernel
  values := by decide +kernel

theorem word_logs : Sql.Word "logs" := Sql.isName_iff.1 (by decide +kernel)

theorem word_app : Sql.Word "app" := Sql.isName_iff.1 (by decide +kernel)

theorem isAddressable_hub : hub.client.selector.IsAddressable := by
  intro e he
  have hall : ∀ e ∈ hub.client.selector.query ++ hub.client.selector.load,
      (Host.parse e.host.toList).isOk = true ∧ e.port ≤ 65535 := by decide +kernel
  exact ⟨isPlain_hub e he, exists_ok_of_isOk (hall e he).1, (hall e he).2⟩

end Sample

/-- A load of columns under a transaction, whose format is written with blanks and capitals. The
mark of an array is not sent. -/
theorem load_arguments_reach_engine_of_loadOptions :
    ∃ l call q, Cli.Invocation.read ["load", "--txn-id=7", "--column-separator=|",
        "--strip-outer-array", "--file=rows.csv", "--format= CSV ", "--", "logs", "app"] =
        .ok ⟨.load l, false⟩ ∧
      Cli.Action.call Sample.oneFile (.load l) = .ok call ∧
      call.request "http://127.0.0.1:8080/" = .ok q ∧
      ∃ reply s' first rest, ((Sample.hub.answer Sample.moment q.arriving).run
          ⟨Sample.turn, .empty⟩).against Sample.willing = ((reply, s'), first :: rest) ∧
        first.url.path = ["api", "logs", "app", "_stream_load"] ∧ first.body = Sample.rows ∧
        first.headers.under "format" = ["csv"] ∧
        first.headers.under "column_separator" = ["|"] ∧
        first.headers.under "strip_outer_array" = [] ∧
        first.headers.under "timeout" = ["300"] ∧ first.headers.under "txn_id" = ["7"] ∧
        first.headers.under "two_phase_commit" = ["true"] := by
  obtain ⟨hread, hreach⟩ := load_arguments_reach_engine Sample.makeLoad_loadOptions
    Sample.isAddressOf_local
  obtain ⟨call, q, hcall, hq, -, -, hanswers⟩ := hreach _ _ _ Sample.oneFile Sample.rows
    (hread "logs" "app") rfl Sample.word_logs Sample.word_app rfl (by decide) (by decide)
  refine ⟨_, call, q, hread "logs" "app", hcall, hq, ?_⟩
  rcases hanswer : ((Sample.hub.answer Sample.moment q.arriving).run
      ⟨Sample.turn, .empty⟩).against Sample.willing with ⟨⟨reply, s'⟩, sent⟩
  have hall := hanswers _ _ _ _ _ _ _ hanswer
  obtain ⟨f, hformat, hfirst, hcarries⟩ := hall.accepted Sample.isFit_loadOptions.not_isUnfit
  obtain rfl : f = .csv := Option.some.inj (hformat.symm.trans Sample.isFit_loadOptions.format)
  obtain ⟨first, rest, rfl, hgoes⟩ := hfirst Sample.isAddressable_hub
  obtain ⟨hbody, hfields⟩ := hcarries first List.mem_cons_self
  refine ⟨reply, s', first, rest, rfl, hgoes.path, hbody, ?_, ?_, ?_, ?_, ?_, ?_⟩
  · rw [hfields "format" (by decide) (by decide)]
    decide +kernel
  · rw [hfields "column_separator" (by decide) (by decide)]
    decide +kernel
  · rw [hfields "strip_outer_array" (by decide) (by decide)]
    decide +kernel
  · rw [hfields "timeout" (by decide) (by decide)]
    decide +kernel
  · rw [hfields "txn_id" (by decide) (by decide)]
    decide +kernel
  · rw [hfields "two_phase_commit" (by decide) (by decide)]
    decide +kernel

end StoreGate
