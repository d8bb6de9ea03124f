import StoreGate.Cli.Form
import StoreGate.Hub.Body
import StoreGate.Hub.LoadParameters
import StoreGate.Engine.Transaction
import StoreGate.Search.Request

/-!
# What can be done at the terminal

Every command names something that the server is asked for. `Invocation.read` reads the words of a
command line, the name of the program left out.
-/

namespace StoreGate

namespace Cli

/-- A file that is loaded into a table. -/
structure FileLoad where
  database : String
  table : String
  file : String
  parameters : LoadParameters

/-- The state of the server, a statement, a search, a load, and so on. -/
inductive Action where
  | health
  | query (statement : StatementBody)
  | search (request : SearchRequest)
  | load (what : FileLoad)
  /-- Ingests the events of a file. -/
  | ingest (file : String)
  | beginTxn (body : BeginBody)
  | endTxn (how : Client.Ending) (database : String) (txnId : Int)
  | listTxns (openOnly : Bool)
  | schema (database table : String)

structure Invocation where
  action : Action
  /-- The answer is to be written as JSON. -/
  asJson : Bool

/-! ## Values -/

/-- A text as it stands. -/
def textValue {ρ : Type} (set : String → ρ → ρ) (s : String) : Option (ρ → ρ) := some (set s)

/-- The name of a file, which is never empty. -/
def fileValue {ρ : Type} (set : String → ρ → ρ) (s : String) : Option (ρ → ρ) :=
  if s.isEmpty then none else some (set s)

def word32Value {ρ : Type} (set : UInt32 → ρ → ρ) (s : String) : Option (ρ → ρ) :=
  (Decimal.readIntIn? 0 (UInt32.size - 1) s.toList).map fun n => set (UInt32.ofNat n.toNat)

def nat64Value {ρ : Type} (set : Nat → ρ → ρ) (s : String) : Option (ρ → ρ) :=
  (LoadParameters.readNat64? s).map set

def int64Value {ρ : Type} (set : Int → ρ → ρ) (s : String) : Option (ρ → ρ) :=
  (LoadParameters.readInt64? s).map set

/-- A place that has to be filled. -/
def needed {ρ : Type} (read : String → Option (ρ → ρ)) : Place ρ := ⟨true, read⟩

/-- A setting that may be left out and is given once at most. -/
def setting {ρ : Type} (name : String) (read : String → Option (ρ → ρ)) : Setting ρ :=
  ⟨name, false, false, read⟩

/-! ## Forms -/

/-- A command without words of its own. -/
def bareForm : Form Unit := ⟨[], [], []⟩

def queryForm : Form StatementBody where
  flags := []
  settings := [setting "database" (textValue fun v b => { b with database := some v })]
  places := [needed (textValue fun v b => { b with sql := v })]

def searchForm : Form SearchRequest where
  flags := [⟨"precision", fun r => { r with anyWord := false }⟩]
  settings := [
    ⟨"table", true, true, textValue fun v r => { r with tables := r.tables ++ [v] }⟩,
    ⟨"field", true, true, textValue fun v r => { r with fields := r.fields ++ [v] }⟩,
    setting "page" (word32Value fun v r => { r with page := { r.page with page := v } }),
    setting "page-size" (word32Value fun v r => { r with page := { r.page with size := v } })]
  places := [needed (textValue fun v r => { r with keywords := v })]

/-- Changes the parameters of a load. -/
def parameter {α : Type} (set : α → LoadParameters → LoadParameters) (v : α) (l : FileLoad) :
    FileLoad :=
  { l with parameters := set v l.parameters }

def loadForm : Form FileLoad where
  flags := [⟨"strip-outer-array",
    parameter (fun v p => { p with stripOuterArray := some v }) true⟩]
  settings := [
    ⟨"file", true, false, fileValue fun v l => { l with file := v }⟩,
    setting "format" (textValue (parameter fun v p => { p with format := some v })),
    setting "column-separator"
      (textValue (parameter fun v p => { p with columnSeparator := some v })),
    setting "label" (textValue (parameter fun v p => { p with label := some v })),
    setting "txn-id" (int64Value (parameter fun v p => { p with txnId := some v }))]
  places := [
    needed (textValue fun v l => { l with database := v }),
    needed (textValue fun v l => { l with table := v })]

/-- A load of JSON, unless another format is named. -/
def plainLoad : FileLoad := ⟨"", "", "", { format := some LoadFormat.json.text }⟩

def ingestForm : Form String where
  flags := []
  settings := [⟨"file", true, false, fileValue fun v _ => v⟩]
  places := []

def beginForm : Form BeginBody where
  flags := []
  settings := [setting "timeout" (nat64Value fun v b => { b with timeoutSecs := some v })]
  places := [
    needed (textValue fun v b => { b with database := v }),
    needed (textValue fun v b => { b with table := v }),
    ⟨false, textValue fun v b => { b with label := some v }⟩]

/-- The database and the number of a transaction. -/
def endForm : Form (String × Int) where
  flags := []
  settings := []
  places := [
    needed (textValue fun v t => (v, t.2)),
    needed (int64Value fun v t => (t.1, v))]

def listForm : Form Bool := ⟨[⟨"open", fun _ => true⟩], [], []⟩

/-- A database and a table. -/
def schemaForm : Form (String × String) where
  flags := []
  settings := []
  places := [needed (textValue fun v t => (v, t.2)), needed (textValue fun v t => (t.1, v))]

/-! ## Command lines -/

/-- Reads the words of a command by its form. -/
def readBy {ρ : Type} (form : Form ρ) (initial : ρ) (make : ρ → Action) (words : List String) :
    Except Stop Invocation :=
  (form.read initial words).map fun (value, asJson) => ⟨make value, asJson⟩

def txnNames : List String := ["begin", "commit", "abort", "list", helpCommand]

def topNames : List String :=
  ["health", "query", "search", "load", "ingest", "txn", "schema", helpCommand]

/-- The words after `help` name a command, if there are any. -/
def namesCommand : List String → Bool
  | [] => true
  | [name] => topNames.contains name
  | ["txn", name] => txnNames.contains name
  | _ => false

/-- What comes of asking for the help of a command. -/
def helpOn (words : List String) : Stop := if namesCommand words then .help else .misuse

/-- Output as JSON is asked for before the command or after its name. -/
def Invocation.orJson (asJson : Bool) (i : Invocation) : Invocation :=
  { i with asJson := asJson || i.asJson }

/-- Reads the words after `txn`. -/
def readTxn (words : List String) : Except Stop Invocation := do
  let (name, asJson, words) ← choose false txnNames words
  Invocation.orJson asJson <$>
    match name with
    | "begin" => readBy beginForm default .beginTxn words
    | "commit" => readBy endForm default (fun t => .endTxn .commit t.1 t.2) words
    | "abort" => readBy endForm default (fun t => .endTxn .abort t.1 t.2) words
    | "list" => readBy listForm false .listTxns words
    | _ => .error (helpOn ("txn" :: words))

/-- A search with its page in normal form. -/
def searchAction (r : SearchRequest) : Action := .search { r with page := r.page.normalized }

/-- Reads the words of a command line. -/
def Invocation.read (words : List String) : Except Stop Invocation := do
  let (name, asJson, words) ← choose true topNames words
  Invocation.orJson asJson <$>
    match name with
    | "health" => readBy bareForm () (fun () => .health) words
    | "query" => readBy queryForm default .query words
    | "search" => readBy searchForm default searchAction words
    | "load" => readBy loadForm plainLoad .load words
    | "ingest" => readBy ingestForm "" .ingest words
    | "txn" => readTxn words
    | "schema" => readBy schemaForm default (fun t => .schema t.1 t.2) words
    | _ => .error (helpOn words)

end Cli

end StoreGate
