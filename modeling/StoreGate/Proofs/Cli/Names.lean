import StoreGate.Cli.Action
import StoreGate.Proofs.Decimal.Digits
import StoreGate.Proofs.Hub.Arrival
import StoreGate.Proofs.Hub.Rejected
import StoreGate.Proofs.Url.Pasted

/-!
# Names from the terminal in a path

The names of a database and of a table, and the number of a transaction, are pasted into a path as
they stand, and the server reads them from the path that is left of it. It reads what was meant
exactly if nothing in the names cuts the path or leads elsewhere.

* `Resource.eq_segments_of_ofSegments?` — a resource is under no path but its own.
* `Cli.ApiCall.exists_pasted` — where a call goes, whatever its names are.
* `Cli.Named` — an action that names something; `Cli.Named.Reaches`, `Cli.Named.IsKept` — what it
  comes to, and on which names.
* `named_call_reaches_iff` — a call reaches what it names exactly if its names are kept.
-/

namespace StoreGate

/-! ## Resources -/

namespace Resource

/-- **A resource is under no path but its own.** -/
theorem eq_segments_of_ofSegments? {segments : List String} {r : Resource}
    (h : ofSegments? segments = some r) : segments = r.segments := by
  unfold ofSegments? at h
  split at h
  · cases h
    rfl
  · next rest =>
    have hversioned : ∀ r, ofVersioned? rest = some r → "api" :: "v1" :: rest = r.segments := by
      intro r h
      unfold ofVersioned? at h
      split at h
      case h_4 =>
        split at h
        · cases h
        · cases h
          rfl
      all_goals
        cases h
        try rfl
    exact hversioned r h
  · cases h

/-- No resource is asked for by the method that asks what may be done. -/
theorem text_method_ne (r : Resource) : r.method.text ≠ optionsMethod := by
  cases r.method <;> decide

end Resource

/-! ## Paths -/

theorem Url.withFields_path (u : Url) (fields : List (String × String)) :
    (u.withFields fields).path = u.path := by
  unfold withFields
  split <;> rfl

theorem Url.withFields_host (u : Url) (fields : List (String × String)) :
    (u.withFields fields).host = u.host := by
  unfold withFields
  split <;> rfl

namespace Cli

/-- The address of a server leads to its root. -/
theorem IsAddressOf.isRoot {base : String} {e : Endpoint} (h : IsAddressOf base e) :
    Url.IsRoot (trimBase base) := by
  have htarget : (trimBase base ++ "/").toList =
      e.baseUrl.toList ++ (Url.slashed [""] ++ Url.marked none) := by
    rw [String.toList_append, h.text]
    rfl
  have hwordy : ∀ s ∈ [""], Url.Wordy s.toList := by decide
  have hnone : ∀ text ∈ (none : Option String), ∀ d ∈ text.toList, Url.keptInQuery d = true :=
    fun text h => by cases h
  obtain ⟨url, hparse⟩ := Url.exists_parse_written h.address (by simp) hwordy hnone htarget
  obtain ⟨hpath, hquery, hat⟩ := Url.parse_written h.address.plain (by simp) hwordy hnone htarget
    hparse
  obtain ⟨host, -, hhost⟩ := hat.host
  exact ⟨url, hparse, by rw [hhost]; rfl, hpath, hquery, hat.fragment⟩

/-- **Where a call goes**, whatever its names are: the server finds what is under the path that is
left of them. -/
theorem ApiCall.exists_pasted {base : String} (hbase : Url.IsRoot (trimBase base)) (c : ApiCall)
    {s : String} {rest : List String} (hsegments : c.resource.segments = s :: rest) :
    ∃ q, c.request base = .ok q ∧ q.arriving.method = c.resource.method.text ∧
      Resource.ofPath? q.arriving.tail.path =
        Resource.ofSegments? (Url.leadsTo (s.toList ++ Url.slashed rest)) := by
  obtain ⟨site, hsite, hparse⟩ := hbase.exists_parse
  have hpasted : (trimBase base ++ c.resource.path).toList =
      (trimBase base).toList ++ '/' :: (s.toList ++ Url.slashed rest) := by
    rw [String.toList_append, Resource.toList_path, hsegments]
    rfl
  obtain ⟨sent, hsent, hhost, hpath⟩ : ∃ sent, c.url base = .ok sent ∧ sent.host.isSome = true ∧
      sent.path = Url.leadsTo (s.toList ++ Url.slashed rest) := by
    rw [ApiCall.url, hparse _ _ hpasted]
    refine ⟨_, rfl, ?_⟩
    split
    · exact ⟨hsite, rfl⟩
    · rw [Url.withFields_host, Url.withFields_path]
      exact ⟨hsite, rfl⟩
  have hne : sent.path ≠ [] := by
    rw [hpath]
    exact Url.leadsTo_ne_nil _
  have hclean : ∀ s ∈ sent.path, ∀ c ∈ s.toList, Url.endsAuthority c = false := by
    rw [hpath]
    exact Url.endsAuthority_of_mem_leadsTo
  refine ⟨⟨c.resource.method, sent, c.payload.headers, c.payload.body, none⟩, ?_, rfl, ?_⟩
  · rw [request, hsent]
    rfl
  · rw [Request.tail_eq_splitTail hhost hne, Url.path_splitTail_slashed hclean,
      Resource.ofPath?_of_segments hne, hpath]
    intro s hs hmem
    exact absurd (hclean s hs _ hmem) (by decide)

/-! ## Names -/

/-- An action that names something of the engine: a table to be loaded, a transaction to be ended, a
table to be described. -/
inductive Named where
  | load (database table : String)
  | ending (how : Client.Ending) (database : String) (txnId : Int)
  | schema (database table : String)

def Action.named? : Action → Option Named
  | .load l => some (.load l.database l.table)
  | .endTxn how database txnId => some (.ending how database txnId)
  | .schema database table => some (.schema database table)
  | _ => none

/-- What is asked for, under its names as they stand. -/
def Named.resource : Named → Resource
  | load database table => .load database table
  | ending how database txnId => .ending how database (Decimal.intText txnId)
  | schema database table => .schema database table

theorem Action.resource_of_named? {files : Files} {a : Action} {n : Named} {c : ApiCall}
    (hnamed : a.named? = some n) (hcall : a.call files = .ok c) : c.resource = n.resource := by
  cases a with
  | load l =>
    obtain rfl := Option.some.inj hnamed
    obtain ⟨content, -, rfl⟩ := exceptMap_eq_ok.1 hcall
    rfl
  | endTxn how database txnId =>
    obtain rfl := Option.some.inj hnamed
    obtain rfl := Except.ok.inj hcall
    rfl
  | schema database table =>
    obtain rfl := Option.some.inj hnamed
    obtain rfl := Except.ok.inj hcall
    rfl
  | _ => cases hnamed

namespace Named

/-- The names in a path are read as those that are meant. -/
inductive SpelledBy : Named → Resource → Prop
  | load {database table d t : String} :
      segmentText d = .ok database → segmentText t = .ok table →
      SpelledBy (.load database table) (.load d t)
  | ending {how : Client.Ending} {database : String} {txnId : Int} {d n : String} :
      segmentText d = .ok database → segmentTxnId n = .ok txnId →
      SpelledBy (.ending how database txnId) (.ending how d n)
  | schema {database table d t : String} :
      segmentText d = .ok database → segmentText t = .ok table →
      SpelledBy (.schema database table) (.schema d t)

/-- A request is for what is named: it is under the same kind of path, with the same method, and the
names in its path are read as those that are meant. -/
def Reaches (n : Named) (r : HubRequest) : Prop :=
  ∃ resource, Resource.ofPath? r.tail.path = some resource ∧ resource.takes r.method = true ∧
    n.SpelledBy resource

/-- The names stay what they are in a path: they are segments, the last one in the path ends
visibly, and the number is one of 64 bits. -/
def IsKept : Named → Prop
  | load database table =>
    Url.IsSegment database ∧ Url.IsSegment table ∧ ∃ c ∈ table.toList.getLast?, 0x20 < c.toNat
  | ending _ database txnId =>
    Url.IsSegment database ∧ Json.minInt64 ≤ txnId ∧ txnId ≤ Json.maxInt64
  | schema database table => Url.IsSegment database ∧ Url.IsSegment table

/-! ## Reading -/

theorem length_le_of_segmentText {d s : String} (h : segmentText d = .ok s) :
    s.toList.length + 1 ≤ Url.cost d := by
  unfold segmentText at h
  split at h
  · next cs hdecode =>
    obtain rfl := Except.ok.inj h
    rw [String.toList_ofList]
    exact Nat.succ_le_succ (Utf8.length_le_of_decode? hdecode)
  · cases h

theorem length_le_of_segmentTxnId {n : String} {txnId : Int} (h : segmentTxnId n = .ok txnId) :
    (Decimal.intText txnId).toList.length + 1 ≤ Url.cost n ∧
      Json.minInt64 ≤ txnId ∧ txnId ≤ Json.maxInt64 := by
  unfold segmentTxnId at h
  obtain ⟨s, hs, hnumber⟩ := exceptBind_eq_ok.1 h
  split at hnumber
  · next n hread =>
    obtain rfl := Except.ok.inj hnumber
    obtain ⟨hint, hbounds⟩ := Option.filter_eq_some_iff.1 hread
    rw [Bool.and_eq_true, decide_eq_true_eq, decide_eq_true_eq] at hbounds
    have hle := Decimal.length_intDigits_le hint
    have hcost := length_le_of_segmentText hs
    rw [Decimal.intText, String.toList_ofList]
    exact ⟨by omega, hbounds⟩
  · cases hnumber

theorem segmentText_encodeSegment {s : String} (h : Percent.IsUnescaped s.toList) :
    segmentText (Url.encodeSegment s.toList) = .ok s := by
  rw [segmentText, Url.decode_encodeSegment, Percent.decode_of_unescaped h, Utf8.decode?_bytes]
  exact congrArg Except.ok String.ofList_toList

/-! ## Segments -/

/-- The words that paths are made of. -/
def pathWords : List String := ["api", "v1", "load", "txn", "tables", "schema", "commit", "abort"]

theorem wordy_of_mem_pathWords {word : String} (h : word ∈ pathWords) : Url.Wordy word.toList := by
  have hall : ∀ word ∈ pathWords, Url.Wordy word.toList := by decide
  exact hall word h

theorem text_mem_pathWords (how : Client.Ending) : how.text ∈ pathWords := by
  cases how <;> decide

/-- What is meant and what is read agree in every segment: no fewer characters are left. -/
theorem SpelledBy.forall₂ {n : Named} {r : Resource} (h : n.SpelledBy r) :
    List.Forall₂ (fun s left => s.toList.length + 1 ≤ Url.cost left)
      n.resource.segments r.segments := by
  have hword : ∀ word ∈ pathWords, word.toList.length + 1 ≤ Url.cost word := by decide
  cases h with
  | load hd ht =>
    exact .cons (hword _ (by decide)) (.cons (hword _ (by decide)) (.cons (hword _ (by decide))
      (.cons (length_le_of_segmentText hd) (.cons (length_le_of_segmentText ht) .nil))))
  | ending hd hn =>
    exact .cons (hword _ (by decide)) (.cons (hword _ (by decide)) (.cons (hword _ (by decide))
      (.cons (length_le_of_segmentText hd) (.cons (length_le_of_segmentTxnId hn).1
        (.cons (hword _ (text_mem_pathWords _)) .nil)))))
  | schema hd ht =>
    exact .cons (hword _ (by decide)) (.cons (hword _ (by decide)) (.cons (hword _ (by decide))
      (.cons (length_le_of_segmentText hd) (.cons (length_le_of_segmentText ht)
        (.cons (hword _ (by decide)) .nil)))))

/-- The path of what is named, its names encoded. -/
def written : Named → Resource
  | load database table =>
    .load (Url.encodeSegment database.toList) (Url.encodeSegment table.toList)
  | ending how database txnId =>
    .ending how (Url.encodeSegment database.toList)
      (Url.encodeSegment (Decimal.intText txnId).toList)
  | schema database table =>
    .schema (Url.encodeSegment database.toList) (Url.encodeSegment table.toList)

theorem method_written (n : Named) : n.written.method = n.resource.method := by
  cases n <;> rfl

variable {n : Named}

theorem segments_written :
    n.written.segments = n.resource.segments.map fun s => Url.encodeSegment s.toList := by
  have hword : ∀ word ∈ pathWords, Url.encodeSegment word.toList = word := fun word h =>
    Url.encodeSegment_of_wordy (wordy_of_mem_pathWords h)
  cases n with
  | load database table =>
    show ["api", "v1", "load", _, _] = [_, _, _, _, _]
    dsimp only
    rw [hword "api" (by decide), hword "v1" (by decide), hword "load" (by decide)]
  | ending how database txnId =>
    show ["api", "v1", "txn", _, _, how.text] = [_, _, _, _, _, _]
    dsimp only
    rw [hword "api" (by decide), hword "v1" (by decide), hword "txn" (by decide),
      hword _ (text_mem_pathWords how)]
  | schema database table =>
    show ["api", "v1", "tables", _, _, "schema"] = [_, _, _, _, _, _]
    dsimp only
    rw [hword "api" (by decide), hword "v1" (by decide), hword "tables" (by decide),
      hword "schema" (by decide)]

/-- The path that is pasted to the address of a server, without its first slash. -/
def pasted (n : Named) : List Char :=
  "api".toList ++ Url.slashed ("v1" :: n.resource.versioned)

theorem segments_eq (n : Named) :
    n.resource.segments = "api" :: "v1" :: n.resource.versioned := by
  cases n <;> rfl

/-! ## Kept names -/

/-- The path ends as the last of its segments does. -/
theorem getLast?_pasted (rest : List String) {last : String}
    (hversioned : n.resource.versioned = rest ++ [last]) (h : last ≠ "") :
    n.pasted.getLast? = last.toList.getLast? := by
  rw [pasted, hversioned]
  exact Url.getLast?_pasted "api" ("v1" :: rest) h

namespace IsKept

variable (h : n.IsKept)

include h

theorem isSegment : ∀ s ∈ n.resource.segments, Url.IsSegment s := by
  have hword : ∀ word ∈ pathWords, Url.IsSegment word := fun word hmem =>
    Url.isSegment_of_wordy (wordy_of_mem_pathWords hmem)
  have hfront : ∀ word ∈ pathWords, ∀ rest, (∀ s ∈ rest, Url.IsSegment s) →
      ∀ s ∈ "api" :: "v1" :: word :: rest, Url.IsSegment s := fun word hmem rest hrest =>
    List.forall_mem_cons.2 ⟨hword _ (by decide), List.forall_mem_cons.2 ⟨hword _ (by decide),
      List.forall_mem_cons.2 ⟨hword _ hmem, hrest⟩⟩⟩
  cases n with
  | load database table =>
    refine hfront "load" (by decide) [database, table] ?_
    simpa using ⟨h.1, h.2.1⟩
  | ending how database txnId =>
    refine hfront "txn" (by decide) [database, Decimal.intText txnId, how.text] ?_
    simpa using ⟨h.1, Url.isSegment_of_wordy (Url.wordy_intText txnId),
      hword _ (text_mem_pathWords how)⟩
  | schema database table =>
    refine hfront "tables" (by decide) [database, table, "schema"] ?_
    simpa using ⟨h.1, h.2, hword "schema" (by decide)⟩

/-- The path ends visibly. -/
theorem lt_getLast? : ∀ c ∈ n.pasted.getLast?, 0x20 < c.toNat := by
  have hvisible : ∀ word ∈ pathWords, ∀ c ∈ word.toList.getLast?, 0x20 < c.toNat :=
    fun word hmem c hc =>
      Url.toNat_of_wordy (wordy_of_mem_pathWords hmem) c (List.mem_of_mem_getLast? hc)
  have hne : ∀ word ∈ pathWords, word ≠ "" := by decide
  cases n with
  | load database table =>
    obtain ⟨-, -, c, hc, hlow⟩ := h
    have htable : table ≠ "" := by
      rintro rfl
      cases hc
    rw [getLast?_pasted ["load", database] rfl htable, hc]
    intro d hd
    obtain rfl := Option.some.inj hd
    exact hlow
  | ending how database txnId =>
    rw [getLast?_pasted ["txn", database, Decimal.intText txnId] rfl
      (hne _ (text_mem_pathWords how))]
    exact hvisible _ (text_mem_pathWords how)
  | schema database table =>
    rw [getLast?_pasted ["tables", database, table] rfl (hne "schema" (by decide))]
    exact hvisible "schema" (by decide)

/-- The encoded names are read as those that are meant. -/
theorem spelledBy_written : n.SpelledBy n.written := by
  cases n with
  | load database table =>
    obtain ⟨hdatabase, htable, -⟩ := h
    exact .load (segmentText_encodeSegment hdatabase.unescaped)
      (segmentText_encodeSegment htable.unescaped)
  | ending how database txnId =>
    obtain ⟨hdatabase, hlow, hhigh⟩ := h
    refine .ending (segmentText_encodeSegment hdatabase.unescaped) ?_
    have hdigits := Url.isSegment_of_wordy (Url.wordy_intText txnId)
    have hread : Decimal.readIntIn? Json.minInt64 Json.maxInt64 (Decimal.intText txnId).toList =
        some txnId := by
      rw [Decimal.intText, String.toList_ofList, Decimal.readIntIn?_intDigits hlow hhigh]
    refine exceptBind_eq_ok.2 ⟨_, segmentText_encodeSegment hdigits.unescaped, ?_⟩
    rw [hread]
    rfl
  | schema database table =>
    obtain ⟨hdatabase, htable⟩ := h
    exact .schema (segmentText_encodeSegment hdatabase.unescaped)
      (segmentText_encodeSegment htable.unescaped)

theorem isReachable_written : n.written.isReachable = true := by
  cases n with
  | load database table =>
    obtain ⟨-, htable, c, hc, -⟩ := h
    have hne : Url.encodeSegment table.toList ≠ "" := by
      intro hempty
      have hread := segmentText_encodeSegment htable.unescaped
      rw [hempty] at hread
      obtain rfl : "" = table := Except.ok.inj hread
      cases hc
    simpa [written, Resource.isReachable] using hne
  | ending how database txnId => rfl
  | schema database table => rfl

/-- **Kept names are found where they are pasted.** -/
theorem ofSegments?_leadsTo : Resource.ofSegments? (Url.leadsTo n.pasted) = some n.written := by
  have hleads : Url.leadsTo n.pasted = n.written.segments := by
    rw [segments_written, segments_eq]
    refine Url.leadsTo_of_isSegment ?_ h.lt_getLast?
    rw [← segments_eq]
    exact h.isSegment
  rw [hleads, Resource.ofSegments?_segments h.isReachable_written]

end IsKept

/-- **Names that are read as they are meant** are kept. -/
theorem SpelledBy.isKept {r : Resource} (h : n.SpelledBy r)
    (hfound : Resource.ofSegments? (Url.leadsTo n.pasted) = some r) : n.IsKept := by
  have hagree := h.forall₂
  rw [← Resource.eq_segments_of_ofSegments? hfound, segments_eq] at hagree
  obtain ⟨hsegments, hlast⟩ := Url.isSegment_of_forall₂ hagree
  have hleads := Url.leadsTo_of_isSegment hsegments hlast
  rw [← segments_eq] at hsegments hleads
  rw [← segments_written] at hleads
  cases h with
  | @load database table =>
    have hall : ∀ s ∈ ["api", "v1", "load", database, table], Url.IsSegment s := hsegments
    simp only [List.forall_mem_cons] at hall
    obtain ⟨-, -, -, hdatabase, htable, -⟩ := hall
    -- nothing is found under a path with nothing behind its last slash
    have hne : table ≠ "" := by
      rintro rfl
      rw [pasted, hleads] at hfound
      cases hfound
    have hend := getLast?_pasted (n := Named.load database table) ["load", database] rfl hne
    have hget := List.getLast_mem_getLast? fun hnil => hne (String.toList_inj.1 hnil)
    exact ⟨hdatabase, htable, _, hget, hlast _ (hend.symm ▸ hget)⟩
  | @ending how database txnId _ _ _ hn =>
    have hall : ∀ s ∈ ["api", "v1", "txn", database, Decimal.intText txnId, how.text],
        Url.IsSegment s := hsegments
    simp only [List.forall_mem_cons] at hall
    exact ⟨hall.2.2.2.1, (length_le_of_segmentTxnId hn).2⟩
  | @schema database table =>
    have hall : ∀ s ∈ ["api", "v1", "tables", database, table, "schema"], Url.IsSegment s :=
      hsegments
    simp only [List.forall_mem_cons] at hall
    obtain ⟨-, -, -, hdatabase, htable, -⟩ := hall
    exact ⟨hdatabase, htable⟩

/-- **Letters, digits and underscores are kept.** -/
theorem isKept_of_words {database table : String} (hdatabase : Sql.Word database)
    (htable : Sql.Word table) :
    (load database table).IsKept ∧ (schema database table).IsKept ∧
      ∀ how txnId, Json.minInt64 ≤ txnId → txnId ≤ Json.maxInt64 →
        (ending how database txnId).IsKept := by
  have hd := Url.isSegment_of_wordy (Url.wordy_of_word hdatabase)
  have ht := Url.wordy_of_word htable
  have hlast : ∃ c ∈ table.toList.getLast?, 0x20 < c.toNat := by
    obtain ⟨c, rest, hcs, -⟩ := htable
    have hne : table.toList ≠ [] := by simp [hcs]
    exact ⟨_, List.getLast_mem_getLast? hne, Url.toNat_of_wordy ht _ (List.getLast_mem hne)⟩
  exact ⟨⟨hd, Url.isSegment_of_wordy ht, hlast⟩, ⟨hd, Url.isSegment_of_wordy ht⟩,
    fun _ _ hlow hhigh => ⟨hd, hlow, hhigh⟩⟩

end Named

end Cli

open Cli

/-- **A call reaches what it names exactly if its names are kept.** A load, the end of a transaction
or a description is asked of the server under the very names, and the very number, that were given
at the terminal, if nothing in the names cuts a path or leads elsewhere in it; on all other names
the server is asked for something else, or for nothing that it has. What it cannot read as a
command it refuses, and neither the engine nor a lease notices. -/
theorem named_call_reaches_iff {base : String} (hbase : Url.IsRoot (trimBase base)) {files : Files}
    {a : Action} {n : Named} {c : ApiCall} (hnamed : a.named? = some n)
    (hcall : a.call files = .ok c) :
    ∃ q, c.request base = .ok q ∧ (n.Reaches q.arriving ↔ n.IsKept) ∧
      ∀ rejection, Command.ofRequest q.arriving = .error rejection →
        ∀ (h : Hub) (m : Moment) (s : Session) (network : Nat → Outcome),
          ((h.answer m q.arriving).run s).against network =
            ((⟨rejection.status, none⟩, s), []) := by
  have hresource : c.resource = n.resource := Action.resource_of_named? hnamed hcall
  have hsegments : c.resource.segments = "api" :: "v1" :: n.resource.versioned := by
    rw [hresource, n.segments_eq]
  obtain ⟨q, hq, hmethod, hfound⟩ := c.exists_pasted hbase hsegments
  rw [← Named.pasted] at hfound
  refine ⟨q, hq, ⟨?_, fun hkept => ?_⟩, fun rejection hrejected h m s network => ?_⟩
  · rintro ⟨r, hr, -, hspelled⟩
    exact hspelled.isKept (hfound.symm.trans hr)
  · refine ⟨n.written, hfound.trans hkept.ofSegments?_leadsTo, ?_, hkept.spelledBy_written⟩
    rw [hmethod, hresource, ← n.method_written]
    exact n.written.takes_method
  · exact Hub.answer_of_error (hmethod ▸ c.resource.text_method_ne) hrejected s network

/-- Names that are no identifiers, but hold nothing that cuts a path. -/
theorem named_call_reaches_iff_of_blanks : ∃ c q,
    Action.call (fun name => .error name) (.schema "my-logs" "app logs") = .ok c ∧
      c.request "http://127.0.0.1:8080/" = .ok q ∧
      (Named.schema "my-logs" "app logs").Reaches q.arriving := by
  have hsegment : ∀ s ∈ ["my-logs", "app logs"], Url.IsSegment s := by
    have huncut : ∀ s ∈ ["my-logs", "app logs"],
        s.toList.all (fun c => !Url.cutsPath c && c != '%') = true ∧ s ≠ "." ∧ s ≠ ".." := by
      decide
    intro s hs
    obtain ⟨hall, hdots⟩ := huncut s hs
    rw [List.all_eq_true] at hall
    refine ⟨fun c hc => ?_, hdots, Percent.isUnescaped_of_notMem fun hmem => ?_⟩
    · simpa using (Bool.and_eq_true_iff.1 (hall c hc)).1
    · exact absurd (hall _ hmem) (by decide)
  have hcall : Action.call (fun name => .error name) (.schema "my-logs" "app logs") =
      .ok ⟨.schema "my-logs" "app logs", [], .nothing⟩ := rfl
  obtain ⟨q, hq, hreaches, -⟩ := named_call_reaches_iff Sample.isAddressOf_local.isRoot rfl hcall
  exact ⟨_, q, hcall, hq, hreaches.2 ⟨hsegment _ (by decide), hsegment _ (by decide)⟩⟩

/-- A name with slashes and a mark: what was to commit one transaction aborts another one. -/
theorem commit_aborts_elsewhere : ∃ c q,
    Action.call (fun name => .error name) (.endTxn .commit "logs/7/abort#" 8) = .ok c ∧
      c.request "http://127.0.0.1:8080/" = .ok q ∧
      ¬ (Named.ending .commit "logs/7/abort#" 8).Reaches q.arriving ∧
      Command.ofRequest q.arriving = .ok (.endTxn .abort "logs" 7) ∧
      (((Sample.hub.answer Sample.moment q.arriving).run ⟨Sample.turn, .empty⟩).against
        Sample.willing).2.map (fun sent => (sent.url.path, sent.url.query)) =
        [(["api", "logs", "_stream_load_2pc"], some "txn_action=abort&txn_id=7")] := by
  obtain ⟨q, hq, hmethod, hfound⟩ := ApiCall.exists_pasted Sample.isAddressOf_local.isRoot
    ⟨.ending .commit "logs/7/abort#" (Decimal.intText 8), [], .nothing⟩ rfl
  have hpath : Resource.ofPath? q.arriving.tail.path = some (.ending .abort "logs" "7") := by
    rw [hfound]
    decide +kernel
  have hcommand : Command.ofRequest q.arriving = .ok (.endTxn .abort "logs" 7) := by
    rw [Command.ofRequest, hpath]
    dsimp only
    rw [hmethod, Resource.takes]
    rfl
  refine ⟨_, q, rfl, hq, ?_, hcommand, ?_⟩
  · rintro ⟨r, hr, -, hspelled⟩
    obtain rfl := Option.some.inj (hpath.symm.trans hr)
    cases hspelled
  · rw [Hub.sent_answer (hmethod ▸ Resource.text_method_ne _) hcommand]
    decide +kernel

end StoreGate
