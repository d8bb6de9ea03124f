import Mathlib.Data.List.TakeWhile
import StoreGate.Engine.Transaction
import StoreGate.Proofs.Except
import StoreGate.Proofs.Url.Plain

/-!
# Addresses that differ in one word

The address that ends a transaction says in its query whether to commit or to abort. Told here is
how far that word reaches: whatever stands before the query, the addresses of a commit and of an
abort are read alike, and so is every reference at them.

* `Url.Counterpart`, `Url.Alike` — two addresses that differ in that word; two that differ in it or
  not at all.
* `Url.afterSlashes_marked` — what stands behind the mark of a query changes the query, or the
  fragment if the query is in one, and nothing else.
* `Url.parse_endTarget` — the addresses of a commit and of an abort.
* `Url.join_alike` — a redirect leads from two such addresses to two such addresses.
-/

namespace StoreGate

namespace Url

/-- The first address commits where the second one aborts, in the query or in the fragment, and
both are the same otherwise. -/
inductive Counterpart : Url → Url → Prop
  | query (u : Url) (before after : String) :
      Counterpart { u with query := some (before ++ "txn_action=commit" ++ after) }
        { u with query := some (before ++ "txn_action=abort" ++ after) }
  | fragment (u : Url) (before after : String) :
      Counterpart { u with fragment := some (before ++ "txn_action=commit" ++ after) }
        { u with fragment := some (before ++ "txn_action=abort" ++ after) }

/-- The addresses are the same, unless it is for the word that ends a transaction. -/
def Alike (u v : Url) : Prop := u = v ∨ u.Counterpart v

/-! ## Behind the mark of a query -/

section Marked

variable {q : List Char}

/-- What stands for itself is kept after whatever is encoded before it. -/
theorem Wordy.encode_append {keep : Char → Bool} (h : Wordy q) (hkeep : ∀ c ∈ q, keep c = true)
    (cs : List Char) :
    String.ofList (Percent.encode keep (cs ++ q)) =
      String.ofList (Percent.encode keep cs) ++ String.ofList q := by
  have hq : Percent.encode keep q = q := encode_of_kept fun c hc =>
    ⟨(toNat_of_keptInPath (keptInPath_of_standsForItself (h c hc))).2, hkeep c hc⟩
  rw [Percent.encode, List.flatMap_append, String.ofList_append]
  exact congrArg _ (congrArg String.ofList hq)

theorem Wordy.encodeQuery_append (h : Wordy q) (cs : List Char) :
    encodeQuery (cs ++ q) = encodeQuery cs ++ String.ofList q :=
  h.encode_append (fun c hc => keptInQuery_of_standsForItself (h c hc)) cs

theorem Wordy.encodeFragment_append (h : Wordy q) (cs : List Char) :
    encodeFragment (cs ++ q) = encodeFragment cs ++ String.ofList q :=
  h.encode_append (fun c hc => keptInFragment_of_standsForItself (h c hc)) cs

/-- **A query is cut where it is marked first**, unless it stands in a fragment. -/
theorem splitTail_marked (front : List Char) :
    (∃ path before, ∀ q, '#' ∉ q →
      splitTail (front ++ '?' :: q) = ⟨path, some (before ++ q), none⟩) ∨
    ∃ path query before, ∀ q,
      splitTail (front ++ '?' :: q) = ⟨path, query, some (before ++ q)⟩ := by
  by_cases hnumber : '#' ∈ front
  · obtain ⟨body, rest, rfl, hbody⟩ := List.eq_append_cons_of_mem hnumber
    refine Or.inr ⟨(splitMark '?' body).1, (splitMark '?' body).2, rest ++ ['?'], fun q => ?_⟩
    have hcut : splitMark '#' (body ++ '#' :: (rest ++ '?' :: q)) =
        (body, some (rest ++ '?' :: q)) := splitMark_append hbody
    rw [List.append_assoc, List.cons_append, splitTail, hcut, List.append_assoc]
    rfl
  · have hwhole : ∀ q, '#' ∉ q → splitMark '#' (front ++ '?' :: q) = (front ++ '?' :: q, none) := by
      intro q hq
      refine splitMark_of_notMem ?_
      simp [hnumber, hq]
    by_cases hquestion : '?' ∈ front
    · obtain ⟨path, rest, rfl, hpath⟩ := List.eq_append_cons_of_mem hquestion
      refine Or.inl ⟨path, rest ++ ['?'], fun q hq => ?_⟩
      have hcut : splitMark '?' (path ++ '?' :: (rest ++ '?' :: q)) =
          (path, some (rest ++ '?' :: q)) := splitMark_append hpath
      rw [splitTail, hwhole q hq]
      dsimp only
      rw [List.append_assoc, List.cons_append, hcut, List.append_assoc]
      rfl
    · refine Or.inl ⟨front, [], fun q hq => ?_⟩
      rw [splitTail, hwhole q hq]
      dsimp only
      rw [splitMark_append hquestion]
      rfl

/-- What stands before the first character of a kind does not change with what follows it. -/
theorem cut_marked {p : Char → Bool} {c : Char} (hc : p c = false) (front q : List Char) :
    (front ++ c :: q).takeWhile p = front.takeWhile p ∧
      (front ++ c :: q).dropWhile p = front.dropWhile p ++ c :: q := by
  induction front with
  | nil => simp [hc]
  | cons d front ih =>
      by_cases hd : p d = true
      · simp [hd, ih]
      · simp [hd]

/-- The address with what follows its authority. -/
def withTail (u : Url) (t : Tail) : Url :=
  { u with
    path := rootPath t.path
    query := t.query.map encodeQuery
    fragment := t.fragment.map encodeFragment }

/-- The authority is read by itself, and so is what follows it. -/
theorem afterSlashes_eq_map (scheme : String) (cs : List Char) :
    afterSlashes scheme cs =
      (afterSlashes scheme (cs.takeWhile fun c => !endsAuthority c)).map fun u =>
        u.withTail (splitTail (cs.dropWhile fun c => !endsAuthority c)) := by
  unfold afterSlashes
  rw [List.takeWhile_idem]
  dsimp only
  split
  · rfl
  · split
    · rfl
    · cases readPort scheme _ with
      | error e => rfl
      | ok port => rfl

/-- **What stands behind the mark of a query** changes the query and nothing else, or the fragment
if the query stands in one. -/
theorem afterSlashes_marked (scheme : String) (front : List Char) :
    (∃ e, ∀ q, Wordy q → afterSlashes scheme (front ++ '?' :: q) = .error e) ∨
    (∃ (u : Url) (before : String), ∀ q, Wordy q → afterSlashes scheme (front ++ '?' :: q) =
      .ok { u with query := some (before ++ String.ofList q) }) ∨
    ∃ (u : Url) (before : String), ∀ q, Wordy q → afterSlashes scheme (front ++ '?' :: q) =
      .ok { u with fragment := some (before ++ String.ofList q) } := by
  have hcut := cut_marked (p := fun c => !endsAuthority c) (c := '?') (by decide) front
  cases hsite : afterSlashes scheme (front.takeWhile fun c => !endsAuthority c) with
  | error e =>
      refine Or.inl ⟨e, fun q _ => ?_⟩
      rw [afterSlashes_eq_map, (hcut q).1, hsite]
      rfl
  | ok u =>
      rcases splitTail_marked (front.dropWhile fun c => !endsAuthority c) with
        ⟨path, before, htail⟩ | ⟨path, query, before, htail⟩
      · refine Or.inr (Or.inl ⟨{ u with path := rootPath path, fragment := none },
          encodeQuery before, fun q hq => ?_⟩)
        have hnumber : '#' ∉ q := fun hmem => ne_of_standsForItself (hq _ hmem) (by decide) rfl
        rw [afterSlashes_eq_map, (hcut q).1, (hcut q).2, hsite, htail q hnumber,
          ← hq.encodeQuery_append]
        rfl
      · refine Or.inr (Or.inr ⟨{ u with path := rootPath path, query := query.map encodeQuery },
          encodeFragment before, fun q hq => ?_⟩)
        rw [afterSlashes_eq_map, (hcut q).1, (hcut q).2, hsite, htail q,
          ← hq.encodeFragment_append]
        rfl

end Marked

/-! ## Whole addresses -/

/-- Nothing is passed over in a printed end, nor at a printed start. -/
theorem clean_append {c : Char} (hc : 0x20 < c.toNat) (cs : List Char) {q : List Char}
    (hne : q ≠ []) (hq : ∀ d ∈ q, 0x20 < d.toNat) :
    clean (c :: cs ++ q) =
      (c :: cs).filter (fun d => !(d == '\t' || d == '\n' || d == '\r')) ++ q := by
  have hstart : (c :: cs ++ q).dropWhile (fun d => decide (d.toNat ≤ 0x20)) = c :: cs ++ q := by
    rw [List.cons_append, List.dropWhile_cons_of_neg]
    simpa using hc
  have hend : (c :: cs ++ q).reverse.dropWhile (fun d => decide (d.toNat ≤ 0x20)) =
      (c :: cs ++ q).reverse := by
    rw [List.reverse_append]
    cases hr : q.reverse with
    | nil => exact absurd (List.reverse_eq_nil_iff.1 hr) hne
    | cons d r =>
        have hd : 0x20 < d.toNat := hq d (List.mem_reverse.1 (hr ▸ List.mem_cons_self))
        rw [List.cons_append, List.dropWhile_cons_of_neg]
        simpa using hd
  rw [clean, hstart, hend, List.reverse_reverse, List.filter_append, filter_of_printed hq]

/-- What stands before a query is read without regard to the query. -/
theorem parse_marked (front : List Char) :
    ∃ site, ∀ q, Wordy q → ∀ target : String,
      target.toList = ['h', 't', 't', 'p', ':', '/', '/'] ++ (front ++ '?' :: q) →
        parse target = afterSlashes "http" (site ++ '?' :: q) := by
  let printed := front.filter fun d => !(d == '\t' || d == '\n' || d == '\r')
  refine ⟨printed.dropWhile isSlash, fun q hq target htarget => ?_⟩
  have hprinted : ∀ d ∈ '?' :: q, 0x20 < d.toNat :=
    List.forall_mem_cons.2
    ⟨by decide, fun c hc => (toNat_of_keptInPath (keptInPath_of_standsForItself (hq c hc))).1⟩
  have hclean : clean target.toList =
      ['h', 't', 't', 'p', ':', '/', '/'] ++ (printed ++ '?' :: q) := by
    rw [htarget, ← List.append_assoc]
    exact clean_append (by decide) _ (List.cons_ne_nil _ _) hprinted
  have hscheme : splitScheme? (['h', 't', 't', 'p', ':', '/', '/'] ++ (printed ++ '?' :: q)) =
      some (['h', 't', 't', 'p'], ['/', '/'] ++ (printed ++ '?' :: q)) := rfl
  have hskip : (['/', '/'] ++ (printed ++ '?' :: q)).dropWhile isSlash =
      (printed ++ '?' :: q).dropWhile isSlash := rfl
  unfold parse parseChars
  rw [hclean, hscheme]
  dsimp only
  unfold afterScheme
  rw [if_pos (by decide), hskip, (cut_marked (by decide) printed q).2]

/-! ## Where a transaction ends -/

/-- The query of the address that ends a transaction. -/
def endQuery (ending : Client.Ending) (txnId : Int) : List Char :=
  ("txn_action=" ++ ending.text ++ "&txn_id=" ++ Decimal.intText txnId).toList

theorem wordy_endQuery (ending : Client.Ending) (txnId : Int) : Wordy (endQuery ending txnId) := by
  have haction : Wordy "txn_action=".toList := by decide
  have htext : Wordy ending.text.toList := by cases ending <;> decide
  have hid : Wordy "&txn_id=".toList := by decide
  rw [endQuery, String.toList_append, String.toList_append, String.toList_append]
  exact ((haction.append htext).append hid).append (wordy_intText txnId)

/-- **The addresses of a commit and of an abort** are both read or both rejected, and if they are
read, they differ in the word for the ending. -/
theorem parse_endTarget (e : Endpoint) (database : String) (txnId : Int) :
    ExceptRel Eq Counterpart (parse (Client.endTarget e database .commit txnId))
      (parse (Client.endTarget e database .abort txnId)) := by
  obtain ⟨site, hsite⟩ := parse_marked
    (e.text ++ "/api/" ++ database ++ "/_stream_load_2pc").toList
  have hparse : ∀ ending, parse (Client.endTarget e database ending txnId) =
      afterSlashes "http" (site ++ '?' :: endQuery ending txnId) := by
    intro ending
    refine hsite _ (wordy_endQuery ending txnId) _ ?_
    simp [Client.endTarget, Endpoint.baseUrl, endQuery]
  have htext : ∀ ending before, before ++ String.ofList (endQuery ending txnId) =
      before ++ ("txn_action=" ++ ending.text) ++ ("&txn_id=" ++ Decimal.intText txnId) := by
    intro ending before
    rw [endQuery, String.ofList_toList]
    simp only [String.append_assoc]
  rw [hparse, hparse]
  rcases afterSlashes_marked "http" site with ⟨f, h⟩ | ⟨u, before, h⟩ | ⟨u, before, h⟩
  · rw [h _ (wordy_endQuery _ _), h _ (wordy_endQuery _ _)]
    exact .error rfl
  · rw [h _ (wordy_endQuery _ _), h _ (wordy_endQuery _ _), htext, htext]
    exact .ok (.query u before _)
  · rw [h _ (wordy_endQuery _ _), h _ (wordy_endQuery _ _), htext, htext]
    exact .ok (.fragment u before _)

/-! ## Redirects -/

section Redirects

variable {u v : Url}

theorem alike_self (x : Except UrlFault Url) : ExceptRel Eq Alike x x := by
  cases x with
  | error f => exact .error rfl
  | ok u => exact .ok (Or.inl rfl)

theorem Counterpart.scheme_eq (h : u.Counterpart v) : u.scheme = v.scheme := by
  cases h <;> rfl

theorem Counterpart.joinPath_eq (h : u.Counterpart v) (path : List Char) :
    u.joinPath path = v.joinPath path := by
  have hpath : u.path = v.path := by cases h <;> rfl
  unfold joinPath
  rw [hpath]

/-- A reference keeps the query of the address that it is read at, or it gives its own. -/
theorem Counterpart.joinRelative (h : u.Counterpart v) (cs : List Char) :
    ExceptRel Eq Alike (u.joinRelative cs) (v.joinRelative cs) := by
  unfold Url.joinRelative
  rw [h.scheme_eq]
  split
  · exact alike_self _
  · split
    · exact alike_self _
    · refine .ok ?_
      rw [h.joinPath_eq]
      generalize v.joinPath (splitTail cs).path = path
      cases h with
      | query u before after =>
          cases (splitTail cs).query with
          | some q => exact Or.inl rfl
          | none =>
              by_cases hpath : (splitTail cs).path.isEmpty = true
              · simp only [hpath, if_true]
                exact Or.inr (.query
                  { u with
                    path := path
                    fragment := (splitTail cs).fragment.map encodeFragment } before after)
              · simp only [hpath]
                exact Or.inl rfl
      | fragment u before after => exact Or.inl rfl

/-- **A reference at two addresses that are alike** means two addresses that are alike. -/
theorem join_alike (h : u.Alike v) (reference : String) :
    ExceptRel Eq Alike (u.join reference) (v.join reference) := by
  rcases h with rfl | h
  · exact alike_self _
  · unfold join
    dsimp only
    rw [h.scheme_eq]
    split
    · exact h.joinRelative _
    · split
      · exact h.joinRelative _
      · exact alike_self _

end Redirects

end Url

end StoreGate
