import StoreGate.Engine.Load
import StoreGate.Proofs.Except
import StoreGate.Proofs.Http.Redirect

/-!
# What a load sends

A load is refused before anything is sent, or its payload goes out with the same fields at every
hop. The fields are those that its options list, in the order of the list: a field that is listed
again, in whatever case, replaces the one before.

* `Client.loadHeaders_eq_ok` — the fields of a load, if each of them may be sent.
* `Client.Accepts`, `Client.load_of_accepts` — the loads that are sent, and what they are then.
* `Client.sent_load_ne_nil_iff` — all other loads send nothing.
* `Client.under_of_mem_sent` — what each request of a load carries under a name.
-/

namespace StoreGate

namespace Client

/-! ## Fields that may be sent -/

/-- The name of a field is a name, and its value has no control characters. -/
def IsSendable (field : String × String) : Prop :=
  (HeaderName.ofText? field.1).isSome = true ∧ HeaderValue.isValid field.2 = true

instance : DecidablePred IsSendable := fun _ => inferInstanceAs (Decidable (_ ∧ _))

/-- A field under its name in lower case. -/
def lowered (field : String × String) : String × String := (Text.lowerAscii field.1, field.2)

theorem setLoadHeader_eq_ok {headers result : Headers} {field : String × String} :
    setLoadHeader headers field = .ok result ↔
      IsSendable field ∧ headers.insert (lowered field).1 (lowered field).2 = result := by
  unfold setLoadHeader IsSendable lowered
  cases hname : HeaderName.ofText? field.1 with
  | none => simp
  | some name =>
      rw [HeaderName.ofText?_eq_some hname]
      by_cases hvalue : HeaderValue.isValid field.2 = true
      · simp [hvalue]
      · simp [hvalue]

/-- Fields are set one after another exactly if each of them may be sent. -/
theorem foldlM_setLoadHeader_eq_ok {fields : List (String × String)} {headers result : Headers} :
    fields.foldlM setLoadHeader headers = .ok result ↔
      (∀ f ∈ fields, IsSendable f) ∧ headers.setAll (fields.map lowered) = result := by
  induction fields generalizing headers with
  | nil =>
      constructor
      · exact fun h => ⟨List.forall_mem_nil _, Except.ok.inj h⟩
      · rintro ⟨-, rfl⟩
        rfl
  | cons f rest ih =>
      rw [List.foldlM_cons, exceptBind_eq_ok, List.forall_mem_cons]
      constructor
      · rintro ⟨next, hnext, hrest⟩
        obtain ⟨hf, rfl⟩ := setLoadHeader_eq_ok.1 hnext
        obtain ⟨hall, hresult⟩ := ih.1 hrest
        exact ⟨⟨hf, hall⟩, hresult⟩
      · rintro ⟨⟨hf, hall⟩, hresult⟩
        exact ⟨_, setLoadHeader_eq_ok.2 ⟨hf, rfl⟩, ih.2 ⟨hall, hresult⟩⟩

/-- The fields of a load with the given options. -/
def loadFields (o : LoadOptions) : Headers :=
  commonLoadHeaders.setAll (o.wireHeaders.map lowered)

/-- **The fields of a load** are all set if each of them may be sent, and none is sent otherwise. -/
theorem loadHeaders_eq_ok {o : LoadOptions} {headers : Headers} :
    loadHeaders o = .ok headers ↔
      (∀ f ∈ o.wireHeaders, IsSendable f) ∧ loadFields o = headers :=
  foldlM_setLoadHeader_eq_ok

theorem loadFields_lowered (o : LoadOptions) : (loadFields o).Lowered := by
  have hcommon : commonLoadHeaders.Lowered := by
    unfold Headers.Lowered
    decide
  refine hcommon.setAll fun f hf => ?_
  obtain ⟨field, -, rfl⟩ := List.mem_map.1 hf
  exact Text.lowerAscii_lowerAscii field.1

theorem authorized_lowered (c : Client) {fields : Headers} (h : fields.Lowered) :
    (c.authorized fields).Lowered :=
  h.overlay (Headers.Lowered.empty.insert c.credentials (by decide))

/-! ## Loads that are sent -/

variable {c : Client} {deadline : Option Span} {turn : Turn} {database table : String}
  {payload : ByteArray} {o : LoadOptions} {network : Nat → Outcome} {q : Request} {url : Url}

/-- The arguments of a load are in order: its timeout is not too long, its fields may be sent, and
its names make an address of the frontend whose turn it is. -/
structure Accepts (c : Client) (turn : Turn) (database table : String) (o : LoadOptions)
    (url : Url) : Prop where
  timeout : o.timeoutSecs ≤ maxTimeoutSecs
  sendable : ∀ f ∈ o.wireHeaders, IsSendable f
  target : Url.parse (loadTarget (Turn.next c.selector .load turn).1 database table) = .ok url

/-- What a load sends at every hop. -/
def loadErrand (c : Client) (deadline : Option Span) (payload : ByteArray) (o : LoadOptions) :
    Redirect.Errand :=
  ⟨c.authorized (loadFields o), payload, some (loadPatience deadline o), loadPurpose⟩

/-- **A load whose arguments are in order** is a followed request whose answer is read. -/
theorem load_of_accepts (h : c.Accepts turn database table o url) :
    (c.load deadline database table payload o turn).1 =
      Redirect.putFollowing (c.loadErrand deadline payload o) url >>= fun answer =>
        .done (answer >>= fun p => loadOutcome p.1 p.2) := by
  unfold load
  rw [if_neg (Nat.not_lt.2 h.timeout), loadHeaders_eq_ok.2 ⟨h.sendable, rfl⟩]
  unfold ask loadExchange
  dsimp only
  rw [h.target]
  rfl

/-- **Any other load** fails before anything is sent. -/
theorem load_of_not_accepts (deadline : Option Span) (payload : ByteArray)
    (h : ¬ ∃ url, c.Accepts turn database table o url) :
    ∃ f, (c.load deadline database table payload o turn).1 = .done (.error f) := by
  unfold load
  split
  · exact ⟨_, rfl⟩
  · next htimeout =>
    cases hheaders : loadHeaders o with
    | error f => exact ⟨f, rfl⟩
    | ok headers =>
        obtain ⟨hsendable, -⟩ := loadHeaders_eq_ok.1 hheaders
        unfold ask loadExchange
        dsimp only
        split
        · exact ⟨_, rfl⟩
        · next url htarget => exact absurd ⟨url, Nat.not_lt.1 htimeout, hsendable, htarget⟩ h

/-- **A load sends something** exactly if its arguments are in order. -/
theorem sent_load_ne_nil_iff :
    ((c.load deadline database table payload o turn).1.against network).2 ≠ [] ↔
      ∃ url, c.Accepts turn database table o url := by
  constructor
  · intro hsent
    by_contra hnot
    obtain ⟨f, hf⟩ := load_of_not_accepts deadline payload hnot
    rw [hf] at hsent
    exact hsent rfl
  · rintro ⟨url, h⟩
    rw [load_of_accepts h, Exchange.against_map, Redirect.putFollowing, Redirect.follow,
      Exchange.against_send]
    exact List.cons_ne_nil _ _

/-- **Every request of a load** is what the load sends at every hop. -/
theorem request_of_mem_sent
    (h : q ∈ ((c.load deadline database table payload o turn).1.against network).2) :
    (∃ url, c.Accepts turn database table o url) ∧
      ∃ url, q = (c.loadErrand deadline payload o).request url := by
  obtain ⟨url, haccepts⟩ := sent_load_ne_nil_iff.1 (List.ne_nil_of_mem h)
  refine ⟨⟨url, haccepts⟩, ?_⟩
  rw [load_of_accepts haccepts, Exchange.against_map, Redirect.putFollowing] at h
  obtain ⟨trail, -, hsent⟩ := Redirect.follow_trail (c.loadErrand deadline payload o)
    (Redirect.limit + 1) url network
  rw [hsent] at h
  obtain ⟨hop, -, rfl⟩ := List.mem_map.1 h
  exact ⟨hop, rfl⟩

/-- **What a request of a load carries under a name**: what its options list last under it, unless
the name belongs to the client. -/
theorem under_of_mem_sent
    (h : q ∈ ((c.load deadline database table payload o turn).1.against network).2) {name : String}
    (hlower : Text.lowerAscii name = name)
    (hname : name ∉ ["authorization", "content-type", "expect"]) :
    q.headers.under name = (SortedMap.lastOf (o.wireHeaders.map lowered) name).toList := by
  obtain ⟨-, url, rfl⟩ := request_of_mem_sent h
  simp only [List.mem_cons, List.not_mem_nil, or_false, not_or] at hname
  obtain ⟨hauthorization, htype, hexpect⟩ := hname
  have hclient : ((SortedMap.empty : Headers).insert "authorization" c.credentials).get? name =
      none := by
    rw [SortedMap.get?_insert_of_ne _ _ (Ne.symm hauthorization), SortedMap.get?_empty]
  have hcommon : commonLoadHeaders.get? name = none := by
    simp [commonLoadHeaders, SortedMap.get?_ofList, Ne.symm htype, Ne.symm hexpect]
  have hlowered : (c.authorized (loadFields o)).Lowered :=
    c.authorized_lowered (loadFields_lowered o)
  show (c.authorized (loadFields o)).under name = _
  rw [hlowered.under_eq, hlower, authorized, Headers.get?_overlay, loadFields, Headers.get?_setAll,
    hclient, hcommon, Option.or_none, Option.or_none]

end Client

end StoreGate
