import StoreGate.Json.Decode

/-!
# Verdicts of a bulk load

The engine answers a load with one flat record: a status, counters and times. Two statuses count as
a landed load: `Success`, and `Publish Timeout`, whose rows may become visible late.

* `LoadStatus.text_ofText` — the text of a status is kept, known or not.
* `LoadVerdict.decode` — every field may be left out; a missing status is a failure.
-/

namespace StoreGate

/-! ## Status -/

inductive LoadStatus where
  | success
  /-- Committed, but not yet visible on every replica. -/
  | publishTimeout
  | labelAlreadyExists
  | fail
  | other (text : String)
deriving DecidableEq, Repr

namespace LoadStatus

instance : Inhabited LoadStatus := ⟨fail⟩

def text : LoadStatus → String
  | success => "Success"
  | publishTimeout => "Publish Timeout"
  | labelAlreadyExists => "Label Already Exists"
  | fail => "Fail"
  | other s => s

/-- The status of a text; only the exact texts are known ones. -/
def ofText (s : String) : LoadStatus :=
  if s = "Success" then success
  else if s = "Publish Timeout" then publishTimeout
  else if s = "Label Already Exists" then labelAlreadyExists
  else if s = "Fail" then fail
  else other s

/-- The load has landed. -/
def isSuccessEquivalent : LoadStatus → Bool
  | success | publishTimeout => true
  | _ => false

theorem text_ofText (s : String) : (ofText s).text = s := by
  unfold ofText
  split
  · simp_all [text]
  · split
    · simp_all [text]
    · split
      · simp_all [text]
      · split <;> simp_all [text]

def decode : Decoder LoadStatus := fun room d => (Decode.text room d).map ofText

end LoadStatus

/-! ## Verdict -/

/-- The engine's answer to a load. -/
structure LoadVerdict where
  txnId : Int := 0
  label : String := ""
  status : LoadStatus := .fail
  message : String := ""
  totalRows : Int := 0
  loadedRows : Int := 0
  filteredRows : Int := 0
  unselectedRows : Int := 0
  loadBytes : Int := 0
  loadTimeMs : Int := 0
  beginTxnTimeMs : Int := 0
  putTimeMs : Int := 0
  readTimeMs : Int := 0
  writeTimeMs : Int := 0
  commitTimeMs : Int := 0
  /-- Where the rejected rows are listed. -/
  errorUrl : Option String := none
deriving DecidableEq, Repr, Inhabited

namespace LoadVerdict

def isSuccessEquivalent (v : LoadVerdict) : Bool := v.status.isSuccessEquivalent

/-- The rows may not be visible yet. -/
def needsVerification (v : LoadVerdict) : Bool := v.status == .publishTimeout

/-- Every row is accounted for. The counters are words of 64 bits, and so is their sum: it wraps
around. -/
def rowsBalanced (v : LoadVerdict) : Bool :=
  Int.bmod (v.loadedRows + v.filteredRows + v.unselectedRows) UInt64.size == v.totalRows

def json (v : LoadVerdict) : Json :=
  Json.object ([
    ("TxnId", Json.int v.txnId),
    ("Label", .str v.label),
    ("Status", .str v.status.text),
    ("Message", .str v.message),
    ("NumberTotalRows", Json.int v.totalRows),
    ("NumberLoadedRows", Json.int v.loadedRows),
    ("NumberFilteredRows", Json.int v.filteredRows),
    ("NumberUnselectedRows", Json.int v.unselectedRows),
    ("LoadBytes", Json.int v.loadBytes),
    ("LoadTimeMs", Json.int v.loadTimeMs),
    ("BeginTxnTimeMs", Json.int v.beginTxnTimeMs),
    ("StreamLoadPutTimeMs", Json.int v.putTimeMs),
    ("ReadDataTimeMs", Json.int v.readTimeMs),
    ("WriteDataTimeMs", Json.int v.writeTimeMs),
    ("CommitAndPublishTimeMs", Json.int v.commitTimeMs)] ++
    Json.optionalMember "ErrorURL" (v.errorUrl.map .str))

def fields : List (Decode.Field LoadVerdict) := [
  Decode.field ["TxnId"] .defaulted Decode.int64 fun x v => { v with txnId := x },
  Decode.field ["Label"] .defaulted Decode.text fun x v => { v with label := x },
  Decode.field ["Status"] .defaulted LoadStatus.decode fun x v => { v with status := x },
  Decode.field ["Message", "msg"] .defaulted Decode.text fun x v => { v with message := x },
  Decode.field ["NumberTotalRows"] .defaulted Decode.int64 fun x v => { v with totalRows := x },
  Decode.field ["NumberLoadedRows"] .defaulted Decode.int64 fun x v => { v with loadedRows := x },
  Decode.field ["NumberFilteredRows"] .defaulted Decode.int64
    fun x v => { v with filteredRows := x },
  Decode.field ["NumberUnselectedRows"] .defaulted Decode.int64
    fun x v => { v with unselectedRows := x },
  Decode.field ["LoadBytes"] .defaulted Decode.int64 fun x v => { v with loadBytes := x },
  Decode.field ["LoadTimeMs"] .defaulted Decode.int64 fun x v => { v with loadTimeMs := x },
  Decode.field ["BeginTxnTimeMs"] .defaulted Decode.int64
    fun x v => { v with beginTxnTimeMs := x },
  Decode.field ["StreamLoadPutTimeMs"] .defaulted Decode.int64
    fun x v => { v with putTimeMs := x },
  Decode.field ["ReadDataTimeMs"] .defaulted Decode.int64 fun x v => { v with readTimeMs := x },
  Decode.field ["WriteDataTimeMs"] .defaulted Decode.int64 fun x v => { v with writeTimeMs := x },
  Decode.field ["CommitAndPublishTimeMs"] .defaulted Decode.int64
    fun x v => { v with commitTimeMs := x },
  Decode.field ["ErrorURL"] .defaulted (Decode.optional Decode.text)
    fun x v => { v with errorUrl := x }]

def decode : Decoder LoadVerdict := Decode.record {} fields

/-- The verdict that a body spells. -/
def parse (body : String) : Except DecodeError LoadVerdict := Document.decodeText decode body

end LoadVerdict

end StoreGate
