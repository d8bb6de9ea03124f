import StoreGate.Engine.Query
import StoreGate.Engine.Transaction
import StoreGate.Proofs.Http.Redirect
import StoreGate.Query.Describe

/-!
# Who is to blame for a fault

A call can fail at many depths, and its fault says whether the caller or somebody else is to blame.
What is read from a reply never blames the caller: only checks that are made before the first
request do.

* `Fault.BlamesCaller`, `Spares` — a fault of the caller; a result that is no such fault.
* `Redirect.spares_putFollowing`, `QueryReply.spares_read`, … — what comes from the engine spares
  the caller.
* `Exchange.BlamesEarly`, `Call.BlamesEarly` — an exchange, or a call, that blames the caller has
  sent nothing.
-/

namespace StoreGate

/-- The caller is to blame for the fault. -/
def Fault.BlamesCaller (f : Fault) : Prop := f.kind = .invalidArgument

/-- The result is no fault that the caller is to blame for. -/
def Spares {α : Type} (r : Except Fault α) : Prop := ∀ f, r = .error f → ¬ f.BlamesCaller

section Spares

variable {α β : Type}

theorem spares_ok (a : α) : Spares (.ok a) := by
  intro f h
  cases h

theorem spares_error {f : Fault} (h : ¬ f.BlamesCaller) :
    Spares (.error f : Except Fault α) := by
  rintro f' heq
  cases heq
  exact h

theorem spares_network (text : String) : Spares (.error (.network text) : Except Fault α) :=
  spares_error fun h => by cases h

theorem spares_database (text : String) (load : Option LoadVerdict) :
    Spares (.error (.database text load) : Except Fault α) :=
  spares_error fun h => by cases h

theorem spares_deserialization (text : String) :
    Spares (.error (.deserialization text) : Except Fault α) :=
  spares_error fun h => by cases h

theorem Spares.bind {x : Except Fault α} {f : α → Except Fault β} (hx : Spares x)
    (hf : ∀ a, Spares (f a)) : Spares (x >>= f) := by
  cases x with
  | error fault => exact spares_error (hx fault rfl)
  | ok a => exact hf a

end Spares

/-! ## What comes from the engine -/

theorem Redirect.Ends.spares {purpose : String} {url : Url} {outcome : Outcome}
    {result : Except Fault (Nat × String)} (h : Redirect.Ends purpose url outcome result) :
    Spares result := by
  cases h with
  | unsent f => exact spares_network _
  | answered _ _ => exact spares_ok _
  | unread _ _ => exact spares_network _
  | withoutLocation _ _ => exact spares_database _ _
  | badLocation _ _ _ => exact spares_database _ _

/-- **A request that is sent** spares the caller, wherever it is led to. -/
theorem Redirect.spares_putFollowing (errand : Errand) (url : Url) (network : Nat → Outcome) :
    Spares ((putFollowing errand url).against network).1 := by
  obtain ⟨trail, htrail, -⟩ := follow_trail errand (limit + 1) url network
  rcases htrail.ending with ⟨-, last, -, hends⟩ | ⟨-, last, -, hresult⟩
  · exact hends.spares
  · unfold putFollowing
    rw [hresult]
    exact spares_network _

theorem QueryReply.spares_read (status : Nat) (body : String) : Spares (read status body) := by
  unfold read
  split
  · exact spares_database _ _
  · split
    · exact spares_deserialization _
    · split
      · exact spares_database _ _
      · exact spares_ok _

theorem TableSchema.spares_ofDescription (database table : String) (r : QueryResult) :
    Spares (ofDescription database table r) := by
  unfold ofDescription
  split
  · exact spares_database _ _
  · split
    · exact spares_database _ _
    · exact spares_ok _

namespace Client

theorem spares_queryOutcome (outcome : Outcome) : Spares (queryOutcome outcome) := by
  unfold queryOutcome
  split
  · exact spares_network _
  · split
    · exact spares_network _
    · exact QueryReply.spares_read _ _

theorem spares_loadOutcome (status : Nat) (body : String) : Spares (loadOutcome status body) := by
  unfold loadOutcome
  split
  · exact spares_deserialization _
  · split
    · exact spares_ok _
    · exact spares_database _ _

theorem spares_controlOutcome (purpose : String) (status : Nat) (body : String) :
    Spares (controlOutcome purpose status body) := by
  unfold controlOutcome
  split
  · exact spares_database _ _
  · cases TxnReply.parse body with
    | error e => exact spares_deserialization _
    | ok r => exact spares_ok r

theorem spares_beginOutcome (r : TxnReply) (label : String) : Spares (r.beginOutcome label) := by
  unfold TxnReply.beginOutcome
  split
  · exact spares_ok _
  · exact spares_ok _
  · exact spares_ok _
  · exact spares_database _ _

theorem Ending.spares_outcome (ending : Ending) (txnId : Int) (r : TxnReply) :
    Spares (ending.outcome txnId r) := by
  cases ending with
  | commit =>
      unfold outcome TxnReply.commitOutcome
      dsimp only
      split
      · exact spares_ok _
      · exact spares_database _ _
  | abort => exact spares_ok _

end Client

/-! ## Exchanges -/

/-- On every network, an exchange that blames the caller has sent nothing. -/
def Exchange.BlamesEarly {α : Type} (x : Exchange (Except Fault α)) : Prop :=
  ∀ network f, (x.against network).1 = .error f → f.BlamesCaller → (x.against network).2 = []

namespace Exchange.BlamesEarly

variable {α β : Type}

theorem done (r : Except Fault α) : BlamesEarly (.done r) := fun _ _ _ _ => rfl

theorem of_spares {x : Exchange (Except Fault α)} (h : ∀ network, Spares (x.against network).1) :
    x.BlamesEarly := fun network f hf hblames => absurd hblames (h network f hf)

/-- What is read from the end of an exchange may add faults that spare the caller. -/
theorem read {x : Exchange (Except Fault α)} {f : α → Except Fault β} (hx : x.BlamesEarly)
    (hf : ∀ a, Spares (f a)) : BlamesEarly (x >>= fun r => .done (r >>= f)) := by
  intro network fault hfault hblames
  rw [Exchange.against_map] at hfault ⊢
  dsimp only at hfault ⊢
  cases hr : (x.against network).1 with
  | error fault' =>
      rw [hr] at hfault
      cases hfault
      exact hx network fault hr hblames
  | ok a =>
      rw [hr] at hfault
      exact absurd hblames (hf a fault hfault)

end Exchange.BlamesEarly

/-! ## Calls -/

def Call.BlamesEarly {α : Type} (x : Call α) : Prop := ∀ turn, (x turn).1.BlamesEarly

theorem Call.blamesEarly_refuse {α : Type} (f : Fault) :
    Call.BlamesEarly (Call.refuse f : Call α) := fun _ => .done _

namespace Client

variable (c : Client) (deadline : Option Span)

theorem blamesEarly_ask {α : Type} (role : EndpointRole)
    {exchange : Endpoint → Exchange (Except Fault α)} (h : ∀ e, (exchange e).BlamesEarly) :
    Call.BlamesEarly (c.ask role exchange) := fun turn => h (Turn.next c.selector role turn).1

/-- **A statement blames the caller only before it is sent.** -/
theorem blamesEarly_executeIn (database : Option String) (sql : String) :
    Call.BlamesEarly (c.executeIn deadline database sql) := by
  unfold executeIn
  split
  · exact Call.blamesEarly_refuse _
  · refine c.blamesEarly_ask .query fun e => ?_
    unfold queryExchange
    split
    · exact .done _
    · refine .of_spares fun network => ?_
      rw [Exchange.against_send]
      exact spares_queryOutcome _

/-- **A load blames the caller only before it is sent**, for its time, its header fields, or an
address that cannot be made of its names. -/
theorem blamesEarly_load (database table : String) (payload : ByteArray) (o : LoadOptions) :
    Call.BlamesEarly (c.load deadline database table payload o) := by
  unfold load
  split
  · exact Call.blamesEarly_refuse _
  · split
    · exact Call.blamesEarly_refuse _
    · refine c.blamesEarly_ask .load fun e => ?_
      unfold loadExchange
      split
      · exact .done _
      · exact .read (.of_spares fun network => Redirect.spares_putFollowing _ _ network)
          fun p => spares_loadOutcome p.1 p.2

theorem blamesEarly_control (target : String) (fields : List (String × String))
    (purpose : String) : (c.control deadline target fields purpose).BlamesEarly := by
  unfold control
  split
  · exact .done _
  · split
    · exact .done _
    · exact .read (.of_spares fun network => Redirect.spares_putFollowing _ _ network)
        fun p => spares_controlOutcome purpose p.1 p.2

theorem blamesEarly_beginTxn (database table label : String) (timeoutSecs : Nat) :
    Call.BlamesEarly (c.beginTxn deadline database table label timeoutSecs) := by
  unfold beginTxn
  split
  · exact Call.blamesEarly_refuse _
  · exact c.blamesEarly_ask .load fun e =>
      .read (c.blamesEarly_control deadline _ _ _) fun r => spares_beginOutcome r label

theorem blamesEarly_endTxn (ending : Ending) (database : String) (txnId : Int) :
    Call.BlamesEarly (c.endTxn deadline ending database txnId) :=
  c.blamesEarly_ask .load fun _ =>
    .read (c.blamesEarly_control deadline _ _ _) (ending.spares_outcome txnId)

end Client

end StoreGate
