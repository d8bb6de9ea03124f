import StoreGate.Proofs.Cli.Answer
import StoreGate.Proofs.Engine.Explicit
import StoreGate.Proofs.Json.Members

/-!
# Verdicts that are written again

The server reads the verdict of a load and writes it for its own caller. Nothing is lost on the way:
what the caller reads is what the server read, a status that nobody knows included.

* `LoadVerdict.IsData` — the numbers fit 64 bits, and the status is one that a text is read as.
* `LoadVerdict.isData_of_parse` — whatever is read is data.
* `LoadVerdict.rowsBalanced_iff` — when the rows of data balance.
* `LoadVerdict.parse_members_iff` — a verdict is read back from its members, in whatever order they
  are written, exactly if it is data.
* `verdict_read_back` — no status, no number and no text changes.
-/

namespace StoreGate

open Decode (ReadsBack)

/-! ## Status -/

namespace LoadStatus

/-- Some text is read as this status: an unknown status has none of the known texts. -/
def IsRead (s : LoadStatus) : Prop := ∃ text, ofText text = s

theorem IsRead.ofText_text {s : LoadStatus} (h : s.IsRead) : ofText s.text = s := by
  obtain ⟨text, rfl⟩ := h
  rw [text_ofText]

theorem isRead_of_decode {room : Nat} {d : Document} {s : LoadStatus} (h : decode room d = .ok s) :
    s.IsRead := by
  obtain ⟨text, -, hstatus⟩ := exceptMap_eq_ok.1 h
  exact ⟨text, hstatus⟩

theorem IsRead.readsBack {s : LoadStatus} (h : s.IsRead) : ReadsBack decode s (.str s.text) :=
  fun _ _ => congrArg Except.ok h.ofText_text

end LoadStatus

namespace LoadVerdict

/-- The numbers of the verdict fit 64 bits, and some text is read as its status. -/
structure IsData (v : LoadVerdict) : Prop where
  fits : v.Fits
  status : v.status.IsRead

/-! ## Whatever is read is data -/

/-- The fields keep what they do not store: a number leaves the other numbers and the status alone. -/
theorem keeps_isData : ∀ f ∈ fields, f.Keeps IsData := by
  have hnumber : ∀ {names : List String} {set : Int → LoadVerdict → LoadVerdict},
      (∀ n v, (set n v).status = v.status ∧ ∀ m ∈ (set n v).numbers, m = n ∨ m ∈ v.numbers) →
      (Decode.field names .defaulted Decode.int64 set).Keeps IsData := by
    intro names set hset
    refine Decode.Field.keeps_field fun room d n hread v hv => ⟨fun m hm => ?_, ?_⟩
    · rcases (hset n v).2 m hm with rfl | hm
      · exact Decode.int64_range hread
      · exact hv.fits m hm
    · rw [(hset n v).1]
      exact hv.status
  have hother : ∀ {β : Type} {names : List String} {reader : Decoder β}
      {set : β → LoadVerdict → LoadVerdict},
      (∀ b v, (set b v).status = v.status ∧ (set b v).numbers = v.numbers) →
      (Decode.field names .defaulted reader set).Keeps IsData := by
    intro β names reader set hset
    refine Decode.Field.keeps_field fun room d b _ v hv => ⟨?_, ?_⟩
    · rw [Fits, (hset b v).2]
      exact hv.fits
    · rw [(hset b v).1]
      exact hv.status
  have hstatus : (Decode.field ["Status"] .defaulted LoadStatus.decode
      fun s (v : LoadVerdict) => { v with status := s }).Keeps IsData :=
    Decode.Field.keeps_field fun room d s hread v hv =>
      ⟨hv.fits, LoadStatus.isRead_of_decode hread⟩
  have hlabel : (Decode.field ["Label"] .defaulted Decode.text
      fun s (v : LoadVerdict) => { v with label := s }).Keeps IsData := hother fun _ _ => ⟨rfl, rfl⟩
  have hmessage : (Decode.field ["Message", "msg"] .defaulted Decode.text
      fun s (v : LoadVerdict) => { v with message := s }).Keeps IsData :=
    hother fun _ _ => ⟨rfl, rfl⟩
  have herrorUrl : (Decode.field ["ErrorURL"] .defaulted (Decode.optional Decode.text)
      fun s (v : LoadVerdict) => { v with errorUrl := s }).Keeps IsData :=
    hother fun _ _ => ⟨rfl, rfl⟩
  simp only [fields, List.forall_mem_cons]
  refine ⟨?_, hlabel, hstatus, hmessage, ?_, ?_, ?_, ?_, ?_, ?_, ?_, ?_, ?_, ?_, ?_, herrorUrl,
    List.forall_mem_nil _⟩
  all_goals exact hnumber fun _ _ => ⟨rfl, by simp [numbers]⟩

theorem isData_initial : IsData {} := ⟨by decide, "Fail", rfl⟩

/-- **Whatever is read is data**: a text never gives a number of more than 64 bits, nor an unknown
status with a known text. -/
theorem isData_of_parse {body : String} {v : LoadVerdict} (h : parse body = .ok v) : v.IsData :=
  Decode.keeps_record keeps_isData isData_initial (Document.read_of_decodeText h)

/-- **What balances**: the sum of the counters wraps around, so the rows of data balance up to
multiples of the size of a word. -/
theorem rowsBalanced_iff {v : LoadVerdict} (h : v.IsData) :
    v.rowsBalanced = true ↔
      (UInt64.size : Int) ∣ v.loadedRows + v.filteredRows + v.unselectedRows - v.totalRows := by
  have htotal : -9223372036854775808 ≤ v.totalRows ∧ v.totalRows ≤ 9223372036854775807 :=
    h.fits v.totalRows (by simp [numbers])
  rw [rowsBalanced, beq_iff_eq, Int.bmod_def, show UInt64.size = 18446744073709551616 from rfl]
  split <;> omega

/-- One row more than a word can count. -/
example : rowsBalanced
    { loadedRows := Json.maxInt64, filteredRows := 1, totalRows := Json.minInt64 } = true := by
  decide

/-! ## Data is read back -/

/-- The verdict as far as the given fields are known. -/
def partly (v : LoadVerdict) (seen : List String) : LoadVerdict where
  txnId := if "TxnId" ∈ seen then v.txnId else 0
  label := if "Label" ∈ seen then v.label else ""
  status := if "Status" ∈ seen then v.status else .fail
  message := if "Message" ∈ seen then v.message else ""
  totalRows := if "NumberTotalRows" ∈ seen then v.totalRows else 0
  loadedRows := if "NumberLoadedRows" ∈ seen then v.loadedRows else 0
  filteredRows := if "NumberFilteredRows" ∈ seen then v.filteredRows else 0
  unselectedRows := if "NumberUnselectedRows" ∈ seen then v.unselectedRows else 0
  loadBytes := if "LoadBytes" ∈ seen then v.loadBytes else 0
  loadTimeMs := if "LoadTimeMs" ∈ seen then v.loadTimeMs else 0
  beginTxnTimeMs := if "BeginTxnTimeMs" ∈ seen then v.beginTxnTimeMs else 0
  putTimeMs := if "StreamLoadPutTimeMs" ∈ seen then v.putTimeMs else 0
  readTimeMs := if "ReadDataTimeMs" ∈ seen then v.readTimeMs else 0
  writeTimeMs := if "WriteDataTimeMs" ∈ seen then v.writeTimeMs else 0
  commitTimeMs := if "CommitAndPublishTimeMs" ∈ seen then v.commitTimeMs else 0
  errorUrl := if "ErrorURL" ∈ seen then v.errorUrl else none

variable {v : LoadVerdict}

/-- **Every member** is read into the field that it was written from. -/
theorem fits_members (h : v.IsData) : ∀ m ∈ v.members, Decode.Fits fields v.partly m.1 m := by
  have hnumber : ∀ {key : String} {set : Int → LoadVerdict → LoadVerdict} {n : Int},
      Decode.fieldOf? fields key = some (Decode.field [key] .defaulted Decode.int64 set) →
      n ∈ v.numbers → (∀ seen, set n (v.partly seen) = v.partly (key :: seen)) →
      Decode.Fits fields v.partly key (key, Json.int n) := fun hfield hn hset =>
    Decode.fits_field hfield rfl (Decode.readsBack_int64 (h.fits _ hn)) hset
  have hlabel : Decode.Fits fields v.partly "Label" ("Label", .str v.label) :=
    Decode.fits_field rfl rfl (Decode.readsBack_text _) fun seen => by simp [partly]
  have hstatus : Decode.Fits fields v.partly "Status" ("Status", .str v.status.text) :=
    Decode.fits_field rfl rfl h.status.readsBack fun seen => by simp [partly]
  have hmessage : Decode.Fits fields v.partly "Message" ("Message", .str v.message) :=
    Decode.fits_field rfl rfl (Decode.readsBack_text _) fun seen => by simp [partly]
  have herrorUrl : ∀ m ∈ Json.optionalMember "ErrorURL" (v.errorUrl.map .str),
      Decode.Fits fields v.partly m.1 m :=
    Decode.fits_optional id rfl rfl (fun s _ => Decode.readsBack_text s) (fun s => by simp)
      fun s hs seen => by simp [partly, Option.mem_def.1 hs]
  simp only [members, List.forall_mem_append, List.forall_mem_cons]
  refine ⟨⟨?_, hlabel, hstatus, hmessage, ?_, ?_, ?_, ?_, ?_, ?_, ?_, ?_, ?_, ?_, ?_,
    List.forall_mem_nil _⟩, herrorUrl⟩
  all_goals exact hnumber rfl (by simp [numbers]) fun seen => by simp [partly]

theorem nodup_keys (v : LoadVerdict) : (v.members.map Prod.fst).Nodup := by
  have hsublist : (v.members.map Prod.fst).Sublist (["TxnId", "Label", "Status", "Message",
      "NumberTotalRows", "NumberLoadedRows", "NumberFilteredRows", "NumberUnselectedRows",
      "LoadBytes", "LoadTimeMs", "BeginTxnTimeMs", "StreamLoadPutTimeMs", "ReadDataTimeMs",
      "WriteDataTimeMs", "CommitAndPublishTimeMs"] ++ ["ErrorURL"]) := by
    rw [members, List.map_append]
    exact (List.Sublist.refl _).append (Json.keys_optional_sublist _ _)
  exact hsublist.nodup (by decide)

theorem partly_of_members {seen : List String} (h : ∀ m ∈ v.members, m.1 ∈ seen) :
    v.partly seen = v := by
  simp only [members, List.forall_mem_append, List.forall_mem_cons, Json.forall_mem_optional] at h
  obtain ⟨hfixed, hlast⟩ := h
  have herrorUrl : (if "ErrorURL" ∈ seen then v.errorUrl else none) = v.errorUrl := by
    cases hurl : v.errorUrl with
    | none => simp
    | some url => exact if_pos (hlast (.str url) (by rw [hurl]; rfl))
  simp only [partly, hfixed, herrorUrl, if_true]

/-- **A verdict is read back from its members**, in whatever order they are written, exactly if it is
data. -/
theorem parse_members_iff {ms : List (String × Json)} (hms : ms.Perm v.members) :
    parse (Json.render (.obj ms)) = .ok v ↔ v.IsData := by
  refine ⟨isData_of_parse, fun h => ?_⟩
  have hread : Document.decodeText (Decode.record (partly v []) fields) (Json.render (.obj ms)) =
      .ok v :=
    Decode.decodeText_members (by simp [fields, Decode.field])
      (fun m hm => fits_members h m (hms.mem_iff.1 hm))
      ((hms.map Prod.fst).nodup_iff.2 v.nodup_keys)
      (fun seen hseen => partly_of_members fun m hm => hseen m (hms.mem_iff.2 hm))
      (fun m hm => readableMembers h.fits m (hms.mem_iff.1 hm)) (by decide)
  exact hread

/-- The text is an object of the members of the verdict, in some order. -/
def WrittenAs (v : LoadVerdict) (text : String) : Prop :=
  ∃ ms, ms.Perm v.members ∧ Json.render (.obj ms) = text

theorem writtenAs_json (v : LoadVerdict) : v.WrittenAs v.json.render :=
  ⟨SortedMap.sortEntries v.members, SortedMap.sortEntries_perm v.nodup_keys, rfl⟩

theorem parse_writtenAs_iff {text : String} (h : v.WrittenAs text) :
    parse text = .ok v ↔ v.IsData := by
  obtain ⟨ms, hms, rfl⟩ := h
  exact parse_members_iff hms

/-- A verdict is shown with its own status, and that is the status of the answer if it has one. -/
theorem status_shown (v : LoadVerdict) : v.json.member? "Status" = some (.str v.status.text) := by
  rw [json_eq_object, Json.member?_object, members, SortedMap.lastOf_append]
  cases v.errorUrl with
  | none => simp [Json.optionalMember]
  | some url => simp [Json.optionalMember]

theorem status_given {body : String} (h : parse body = .ok v)
    (hgiven : ∃ d, (Document.parse body).1.Gives 2 "Status" d) :
    (Document.parse body).1.Gives 2 "Status" (.word v.status.text) := by
  have hfrom : statusSlot.From _ _ v := Decode.Slot.of_decodeText h
  obtain ⟨d, hd⟩ := hgiven
  exact (LoadStatus.spelled hfrom rfl).resolve_right fun h => h.2 d hd

end LoadVerdict

/-- **Nothing of a verdict is lost.** A text is read as a status that has just this text, known or
not. A verdict is read back from its members, in whatever order they are written, exactly if its
numbers fit 64 bits and its status is one that a text is read as. So whatever the body that the
server read, its caller reads the same verdict and takes it for as good a one; and the status that
the caller is shown is the text that the body gave. -/
theorem verdict_read_back :
    (∀ text, (LoadStatus.ofText text).text = text) ∧
    (∀ (v : LoadVerdict) (text : String), v.WrittenAs text →
      (LoadVerdict.parse text = .ok v ↔ v.IsData)) ∧
    ∀ (body : String) (v : LoadVerdict), LoadVerdict.parse body = .ok v →
      (∀ text, v.WrittenAs text → LoadVerdict.parse text = .ok v ∧
        ∀ w, LoadVerdict.parse text = .ok w →
          w.isSuccessEquivalent = v.isSuccessEquivalent ∧
            w.needsVerification = v.needsVerification ∧ w.rowsBalanced = v.rowsBalanced) ∧
      v.json.member? "Status" = some (.str v.status.text) ∧
      ((∃ d, (Document.parse body).1.Gives 2 "Status" d) →
        (Document.parse body).1.Gives 2 "Status" (.word v.status.text)) := by
  refine ⟨LoadStatus.text_ofText, fun v text h => LoadVerdict.parse_writtenAs_iff h, ?again⟩
  intro body v hbody
  refine ⟨fun text htext => ?_, v.status_shown, LoadVerdict.status_given hbody⟩
  have hread : LoadVerdict.parse text = .ok v :=
    (LoadVerdict.parse_writtenAs_iff htext).2 (LoadVerdict.isData_of_parse hbody)
  refine ⟨hread, fun w hw => ?_⟩
  obtain rfl : v = w := Except.ok.inj (hread.symm.trans hw)
  exact ⟨rfl, rfl, rfl⟩

namespace Sample

/-- An answer with a status that nobody knows, under the second name of its message. -/
def cancelledBody : String :=
  "\x7b\"Status\":\"Cancelled\",\"msg\":\"by the user\",\"NumberTotalRows\":9223372036854775807," ++
    "\"Extra\":[1],\"ErrorURL\":\"http://be1/rows\"\x7d"

def cancelled : LoadVerdict where
  status := .other "Cancelled"
  message := "by the user"
  totalRows := 9223372036854775807
  errorUrl := some "http://be1/rows"

theorem parse_cancelledBody : LoadVerdict.parse cancelledBody = .ok cancelled := by decide +kernel

end Sample

/-- The caller of the server is shown the unknown status, and reads the whole verdict again. -/
theorem verdict_read_back_of_cancelled :
    LoadVerdict.parse Sample.cancelledBody = .ok Sample.cancelled ∧
      LoadVerdict.parse Sample.cancelled.json.render = .ok Sample.cancelled ∧
      Sample.cancelled.json.member? "Status" = some (.str "Cancelled") := by
  obtain ⟨-, -, hagain⟩ := verdict_read_back
  obtain ⟨hread, hstatus, -⟩ := hagain _ _ Sample.parse_cancelledBody
  exact ⟨Sample.parse_cancelledBody, (hread _ Sample.cancelled.writtenAs_json).1, hstatus⟩

end StoreGate
