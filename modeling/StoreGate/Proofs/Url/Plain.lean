import Mathlib.Data.List.Basic
import StoreGate.Engine.Endpoint
import StoreGate.Proofs.Decimal.Digits
import StoreGate.Proofs.Except
import StoreGate.Proofs.Sql.Name
import StoreGate.Url.Parser

/-!
# Addresses made of words

A frontend with a plain host name, a path whose segments are words, and a query of characters that
queries keep: such an address is read as it was put together. Nothing in it is taken for a mark that
cuts, for a dot that goes up, or for a character that has to be written otherwise.

* `Endpoint.IsPlain` — the host name has no forbidden character.
* `Endpoint.IsAddressable` — there is an address of the frontend.
* `Url.rootPath_slashed`, `Url.splitTail_written` — the path and the query of an address.
* `Url.IsAt` — the address is one of a frontend.
* `Url.parse_written`, `Url.exists_parse_written` — the whole address.
-/

namespace StoreGate

/-! ## Written numbers -/

namespace Decimal

theorem isLetterOrDigit_of_mem_natDigits {n : Nat} {c : Char} (h : c ∈ natDigits n) :
    Sql.isLetterOrDigit c = true := by
  rw [Sql.isLetterOrDigit, Bool.or_eq_true]
  exact .inr (isDigit_of_mem_natDigits h)

end Decimal

/-! ## Characters -/

/-- What holds of all characters of ASCII is found by trying them. -/
theorem forall_ascii {p : Char → Bool} (h : ∀ n < 0x80, p (Char.ofNat n) = true) {c : Char}
    (hc : c.toNat < 0x80) : p c = true := by
  have hofNat := h c.toNat hc
  rwa [Char.ofNat_toNat] at hofNat

namespace Url

/-- A character that stands for itself wherever it is in an address after the host. -/
def standsForItself (c : Char) : Bool :=
  keptInPath c && keptInQuery c && !endsAuthority c && c != '.' && c != '%'

/-- **Letters, digits and underscores stand for themselves.** -/
theorem standsForItself_of_isLetterOrDigit {c : Char} (h : Sql.isLetterOrDigit c = true) :
    standsForItself c = true := by
  have hall : (!Sql.isLetterOrDigit c || standsForItself c) = true :=
    forall_ascii (p := fun c => !Sql.isLetterOrDigit c || standsForItself c) (by decide +kernel)
      (Sql.toNat_lt_of_isLetterOrDigit h)
  simpa [h] using hall

/-- All characters stand for themselves. -/
def Wordy (cs : List Char) : Prop := ∀ c ∈ cs, standsForItself c = true

instance (cs : List Char) : Decidable (Wordy cs) := List.decidableBAll _ cs

theorem Wordy.append {cs ds : List Char} (hc : Wordy cs) (hd : Wordy ds) : Wordy (cs ++ ds) :=
  List.forall_mem_append.2 ⟨hc, hd⟩

theorem wordy_of_word {s : String} (h : Sql.Word s) : Wordy s.toList :=
  fun c hc => standsForItself_of_isLetterOrDigit (h.forall_mem c hc)

section Characters

variable {c : Char}

theorem isSlash_of_endsAuthority (h : endsAuthority c = false) : isSlash c = false := by
  simp only [endsAuthority, Bool.or_eq_false_iff] at h
  exact h.1.1

theorem toNat_of_keptInPath (h : keptInPath c = true) : 0x20 < c.toNat ∧ c.toNat < 0x80 := by
  simp only [keptInPath, keptInFragment, Bool.and_eq_true, decide_eq_true_eq] at h
  omega

theorem toNat_of_keptInQuery (h : keptInQuery c = true) : 0x20 < c.toNat ∧ c.toNat < 0x80 := by
  simp only [keptInQuery, Bool.and_eq_true, decide_eq_true_eq] at h
  omega

theorem ne_of_keptInQuery {d : Char} (h : keptInQuery c = true) (hd : keptInQuery d = false) :
    c ≠ d := by
  rintro rfl
  rw [hd] at h
  cases h

variable (h : standsForItself c = true)

include h

theorem keptInPath_of_standsForItself : keptInPath c = true := by
  simp only [standsForItself, Bool.and_eq_true] at h
  exact h.1.1.1.1

theorem keptInQuery_of_standsForItself : keptInQuery c = true := by
  simp only [standsForItself, Bool.and_eq_true] at h
  exact h.1.1.1.2

theorem keptInFragment_of_standsForItself : keptInFragment c = true := by
  have hpath := keptInPath_of_standsForItself h
  simp only [keptInPath, Bool.and_eq_true] at hpath
  exact hpath.1

theorem endsAuthority_of_standsForItself : endsAuthority c = false := by
  simp only [standsForItself, Bool.and_eq_true, Bool.not_eq_true'] at h
  exact h.1.1.2

theorem isSlash_of_standsForItself : isSlash c = false :=
  isSlash_of_endsAuthority (endsAuthority_of_standsForItself h)

theorem ne_of_standsForItself {d : Char} (hd : standsForItself d = false) : c ≠ d := by
  rintro rfl
  rw [hd] at h
  cases h

end Characters

/-! ## Paths -/

theorem encode_of_kept {keep : Char → Bool} {cs : List Char}
    (h : ∀ c ∈ cs, c.toNat < 0x80 ∧ keep c = true) : Percent.encode keep cs = cs := by
  induction cs with
  | nil => rfl
  | cons c cs ih =>
      obtain ⟨⟨hascii, hkept⟩, hrest⟩ := List.forall_mem_cons.1 h
      have hc : Percent.encodeChar keep c = [c] := by simp [Percent.encodeChar, hascii, hkept]
      have hcons : Percent.encode keep (c :: cs) =
          Percent.encodeChar keep c ++ Percent.encode keep cs := rfl
      rw [hcons, hc, ih hrest]
      rfl

theorem encodeSegment_of_wordy {s : String} (h : Wordy s.toList) :
    encodeSegment s.toList = s := by
  have hkept : ∀ c ∈ s.toList, c.toNat < 0x80 ∧ keptInPath c = true := by
    intro c hc
    have hpath := keptInPath_of_standsForItself (h c hc)
    exact ⟨(toNat_of_keptInPath hpath).2, hpath⟩
  rw [encodeSegment, encode_of_kept hkept, String.ofList_toList]

/-- The text of a path: every segment after a slash. -/
def slashed (segments : List String) : List Char := segments.flatMap fun s => '/' :: s.toList

theorem splitPath_eq (cs : List Char) : splitPath cs = cs.splitOnP isSlash := by
  induction cs with
  | nil => rfl
  | cons c cs ih =>
      rw [splitPath, ih, List.splitOnP_cons_eq_if_modifyHead]
      split
      · rfl
      · cases hparts : cs.splitOnP isSlash with
        | nil => exact absurd hparts (List.splitOnP_ne_nil _ cs)
        | cons part parts => rfl

/-- A path is cut at every slash. -/
theorem splitPath_append {c : Char} (hc : isSlash c = true) (front rest : List Char) :
    splitPath (front ++ c :: rest) = splitPath front ++ splitPath rest := by
  rw [splitPath_eq, splitPath_eq, splitPath_eq, List.splitOnP_append_cons front rest hc]

theorem splitPath_of_no_slash {cs : List Char} (h : ∀ c ∈ cs, isSlash c = false) :
    splitPath cs = [cs] := by
  rw [splitPath_eq, List.splitOnP_eq_singleton h]

/-- **A path is cut into its segments**, if they have no slashes. -/
theorem splitPath_slashed {s : String} {segments : List String}
    (h : ∀ s' ∈ s :: segments, ∀ c ∈ s'.toList, isSlash c = false) :
    splitPath (s.toList ++ slashed segments) = (s :: segments).map String.toList := by
  induction segments generalizing s with
  | nil =>
      rw [slashed, List.flatMap_nil, List.append_nil, splitPath_of_no_slash (h s (by simp))]
      rfl
  | cons s' segments ih =>
      obtain ⟨hs, hrest⟩ := List.forall_mem_cons.1 h
      have hcons : slashed (s' :: segments) = '/' :: (s'.toList ++ slashed segments) := rfl
      rw [hcons, splitPath_append (by decide), ih hrest, splitPath_of_no_slash hs]
      rfl

theorem dots_of_wordy {cs : List Char} (h : Wordy cs) : dots cs = some 0 ∨ dots cs = none := by
  cases cs with
  | nil => exact .inl rfl
  | cons c cs =>
      have hc := (List.forall_mem_cons.1 h).1
      have hdot : c ≠ '.' := ne_of_standsForItself hc (by decide)
      have hpercent : c ≠ '%' := ne_of_standsForItself hc (by decide)
      refine .inr ?_
      unfold dots
      split <;> simp_all

/-- **No word goes up or stays where it is.** -/
theorem resolve_of_wordy {before segments : List String} (h : ∀ s ∈ segments, Wordy s.toList) :
    resolve before (segments.map String.toList) = before ++ segments := by
  induction segments generalizing before with
  | nil => exact (List.append_nil before).symm
  | cons s segments ih =>
      obtain ⟨hs, hrest⟩ := List.forall_mem_cons.1 h
      have hstep : resolve before ((s :: segments).map String.toList) =
          resolve (before ++ [encodeSegment s.toList]) (segments.map String.toList) := by
        rw [List.map_cons, resolve]
        rcases dots_of_wordy hs with hdots | hdots
        · rw [hdots]
          rfl
        · rw [hdots]
      rw [hstep, ih hrest, encodeSegment_of_wordy hs, List.append_assoc]
      rfl

theorem rootPath_slashed {segments : List String} (hne : segments ≠ [])
    (h : ∀ s ∈ segments, Wordy s.toList) : rootPath (slashed segments) = segments := by
  cases segments with
  | nil => exact absurd rfl hne
  | cons s segments =>
      have hroot : rootPath (slashed (s :: segments)) =
          resolve [] (splitPath (s.toList ++ slashed segments)) := rfl
      rw [hroot, splitPath_slashed fun s' hs' c hc => isSlash_of_standsForItself (h s' hs' c hc),
        resolve_of_wordy h]
      rfl

/-! ## Queries -/

/-- A query after its mark, if there is one. -/
def marked : Option String → List Char
  | none => []
  | some query => '?' :: query.toList

theorem splitMark_of_notMem {mark : Char} {cs : List Char} (h : mark ∉ cs) :
    splitMark mark cs = (cs, none) := by
  have hne : ∀ c ∈ cs, (c != mark) = true := by
    intro c hc
    exact bne_iff_ne.2 fun heq => h (heq ▸ hc)
  have hnil : (cs ++ []).dropWhile (fun c => c != mark) = [] := List.dropWhile_append_of_pos hne
  rw [List.append_nil] at hnil
  rw [splitMark, hnil]

theorem splitMark_append {mark : Char} {cs rest : List Char} (h : mark ∉ cs) :
    splitMark mark (cs ++ mark :: rest) = (cs, some rest) := by
  have hne : ∀ c ∈ cs, (c != mark) = true := by
    intro c hc
    exact bne_iff_ne.2 fun heq => h (heq ▸ hc)
  rw [splitMark, List.dropWhile_append_of_pos hne, List.takeWhile_append_of_pos hne]
  simp

theorem notMem_slashed {segments : List String} (h : ∀ s ∈ segments, Wordy s.toList) {mark : Char}
    (hmark : standsForItself mark = false) (hslash : mark ≠ '/') : mark ∉ slashed segments := by
  intro hmem
  obtain ⟨s, hs, hc⟩ := List.mem_flatMap.1 hmem
  rcases List.mem_cons.1 hc with hc | hc
  · exact hslash hc
  · exact ne_of_standsForItself (h s hs mark hc) hmark rfl

/-- **Path and query are cut where the query is marked.** -/
theorem splitTail_written {segments : List String} (h : ∀ s ∈ segments, Wordy s.toList)
    {query : Option String} (hquery : ∀ q ∈ query, ∀ c ∈ q.toList, keptInQuery c = true) :
    splitTail (slashed segments ++ marked query) =
      ⟨slashed segments, query.map String.toList, none⟩ := by
  have hquestion : '?' ∉ slashed segments := notMem_slashed h (by decide) (by decide)
  have hnumber : '#' ∉ slashed segments := notMem_slashed h (by decide) (by decide)
  cases query with
  | none =>
      rw [marked, List.append_nil, splitTail, splitMark_of_notMem hnumber]
      dsimp only
      rw [splitMark_of_notMem hquestion]
      rfl
  | some q =>
      have hall : '#' ∉ slashed segments ++ marked (some q) := by
        intro hmem
        rcases List.mem_append.1 hmem with hmem | hmem
        · exact hnumber hmem
        · rcases List.mem_cons.1 hmem with hmem | hmem
          · exact absurd hmem (by decide)
          · exact ne_of_keptInQuery (hquery q rfl _ hmem) (by decide) rfl
      rw [splitTail, splitMark_of_notMem hall]
      dsimp only
      rw [marked, splitMark_append hquestion]
      rfl

theorem encodeQuery_of_kept {q : String} (h : ∀ c ∈ q.toList, keptInQuery c = true) :
    encodeQuery q.toList = q := by
  have hkept : ∀ c ∈ q.toList, c.toNat < 0x80 ∧ keptInQuery c = true :=
    fun c hc => ⟨(toNat_of_keptInQuery (h c hc)).2, h c hc⟩
  rw [encodeQuery, encode_of_kept hkept, String.ofList_toList]

/-- A number stands for itself. -/
theorem wordy_intText (n : Int) : Wordy (Decimal.intText n).toList := by
  have hdigits : ∀ m, Wordy (Decimal.natDigits m) := fun m c hc =>
    standsForItself_of_isLetterOrDigit (Decimal.isLetterOrDigit_of_mem_natDigits hc)
  rw [Decimal.intText, String.toList_ofList]
  cases n with
  | ofNat n => exact hdigits n
  | negSucc n => exact List.forall_mem_cons.2 ⟨by decide, hdigits (n + 1)⟩

/-! ## Authorities -/

theorem splitUser_of_notMem {cs : List Char} (h : '@' ∉ cs) : splitUser cs = ("", "", cs) := by
  have hcontains : cs.contains '@' = false := by simpa using h
  rw [splitUser, hcontains]
  rfl

theorem splitHost_append {host rest : List Char}
    (h : ∀ c ∈ host, c ≠ ':' ∧ c ≠ '[' ∧ c ≠ ']') :
    splitHost false (host ++ ':' :: rest) = (host, ':' :: rest) := by
  induction host with
  | nil => simp [splitHost]
  | cons c host ih =>
      obtain ⟨⟨hcolon, hopen, hclose⟩, hrest⟩ := List.forall_mem_cons.1 h
      rw [List.cons_append, splitHost]
      simp [hcolon, hopen, hclose, ih hrest]

/-- The authority ends where the path begins. -/
theorem cut_authority {authority : List Char} (h : ∀ c ∈ authority, (!endsAuthority c) = true)
    (rest : List Char) :
    (authority ++ '/' :: rest).takeWhile (fun c => !endsAuthority c) = authority ∧
      (authority ++ '/' :: rest).dropWhile (fun c => !endsAuthority c) = '/' :: rest := by
  have hslash : endsAuthority '/' = true := by decide
  rw [List.takeWhile_append_of_pos h, List.dropWhile_append_of_pos h]
  simp [hslash]

/-- The address is one of a frontend, in which nothing is said of a user and of a fragment. -/
structure IsAt (url : Url) (e : Endpoint) : Prop where
  scheme : url.scheme = "http"
  username : url.username = ""
  password : url.password = ""
  host : ∃ host, Host.parse e.host.toList = .ok host ∧ url.host = some host
  port : url.port = if e.port = 80 then none else some e.port
  fragment : url.fragment = none

end Url

/-! ## Host names -/

/-- The host name has no character that host names cannot have. -/
def Endpoint.IsPlain (e : Endpoint) : Prop :=
  ∀ c ∈ e.host.toList, HostName.isForbidden c = false

/-- The host name is plain and a name indeed, and there is such a port. -/
structure Endpoint.IsAddressable (e : Endpoint) : Prop where
  plain : e.IsPlain
  host : ∃ host, Host.parse e.host.toList = .ok host
  port : e.port ≤ 65535

theorem HostName.ne_of_allowed {c d : Char} (h : isForbidden c = false)
    (hd : isForbidden d = true) : c ≠ d := by
  rintro rfl
  rw [hd] at h
  cases h

theorem HostName.toNat_of_allowed {c : Char} (h : isForbidden c = false) : 0x20 < c.toNat := by
  simp only [isForbidden, Bool.or_eq_false_iff, decide_eq_false_iff_not] at h
  omega

namespace Url

theorem endsAuthority_of_allowed {c : Char} (h : HostName.isForbidden c = false) :
    endsAuthority c = false := by
  have hne : ∀ d, HostName.isForbidden d = true → c ≠ d := fun d hd => HostName.ne_of_allowed h hd
  simp [endsAuthority, isSlash, hne '/' (by decide), hne '\\' (by decide), hne '?' (by decide),
    hne '#' (by decide)]

/-- What is printed does not begin with what is passed over. -/
theorem dropWhile_of_printed {cs : List Char} (h : ∀ c ∈ cs, 0x20 < c.toNat) :
    cs.dropWhile (fun c => decide (c.toNat ≤ 0x20)) = cs := by
  cases cs with
  | nil => rfl
  | cons c cs =>
      have hc := (List.forall_mem_cons.1 h).1
      rw [List.dropWhile_cons_of_neg]
      simpa using hc

/-- There is no tab and no line end in what is printed. -/
theorem filter_of_printed {cs : List Char} (h : ∀ c ∈ cs, 0x20 < c.toNat) :
    cs.filter (fun c => !(c == '\t' || c == '\n' || c == '\r')) = cs := by
  refine List.filter_eq_self.2 fun c hc => ?_
  have hlow := h c hc
  have hne : ∀ d : Char, d.toNat ≤ 0x20 → c ≠ d := by
    rintro d hd rfl
    omega
  simp [hne '\t' (by decide), hne '\n' (by decide), hne '\r' (by decide)]

theorem clean_of_printed {cs : List Char} (h : ∀ c ∈ cs, 0x20 < c.toNat) : clean cs = cs := by
  have hreverse : ∀ c ∈ cs.reverse, 0x20 < c.toNat := fun c hc => h c (List.mem_reverse.1 hc)
  rw [clean, dropWhile_of_printed h, dropWhile_of_printed hreverse, List.reverse_reverse]
  exact filter_of_printed h

/-- The port is the frontend's, and the default one is left out. -/
theorem readPort_natDigits {n : Nat} {port : Option Nat}
    (h : readPort "http" (':' :: Decimal.natDigits n) = .ok port) :
    port = if n = 80 then none else some n := by
  have hne : (Decimal.natDigits n).isEmpty = false := by
    simp [Decimal.natDigits, Nat.toDigits_ne_nil]
  rw [readPort, hne, Decimal.readNat?_natDigits] at h
  by_cases hn : n ≤ 65535
  · have hfilter : (some n).filter (fun n => decide (n ≤ 65535)) = some n := by simp [hn]
    have hdefault : defaultPort? "http" = some 80 := by decide
    rw [hfilter] at h
    simp only [Bool.false_eq_true, if_false, hdefault, Option.some.injEq, Except.ok.injEq] at h
    rw [← h]
    simp only [eq_comm]
  · have hfilter : (some n).filter (fun n => decide (n ≤ 65535)) = none := by
      simpa using hn
    rw [hfilter] at h
    cases h

theorem readPort_of_le {n : Nat} (hn : n ≤ 65535) :
    readPort "http" (':' :: Decimal.natDigits n) = .ok (if n = 80 then none else some n) := by
  have hdigits : (Decimal.natDigits n).isEmpty = false := by
    simp [Decimal.natDigits_ne_nil]
  have hfilter : (some n).filter (fun n => decide (n ≤ 65535)) = some n := by simp [hn]
  have hread : ∃ port, readPort "http" (':' :: Decimal.natDigits n) = .ok port := by
    rw [readPort, hdigits, Decimal.readNat?_natDigits, hfilter]
    exact ⟨_, rfl⟩
  obtain ⟨port, hread⟩ := hread
  rw [hread, readPort_natDigits hread]

variable {e : Endpoint} {segments : List String} {query : Option String}

/-- The text of a frontend's address from its host on. -/
def fromHost (e : Endpoint) (segments : List String) (query : Option String) : List Char :=
  (e.host.toList ++ ':' :: Decimal.natDigits e.port) ++ (slashed segments ++ marked query)

/-- Nothing in a plain host name and a port is taken for the end of a user's name or of the
authority. -/
theorem authority_fromHost (he : e.IsPlain) :
    ∀ c ∈ e.host.toList ++ ':' :: Decimal.natDigits e.port,
      c ≠ '@' ∧ (!endsAuthority c) = true := by
  refine List.forall_mem_append.2
    ⟨fun c hc => ?host, List.forall_mem_cons.2 ⟨?colon, fun c hc => ?port⟩⟩
  case host =>
    rw [endsAuthority_of_allowed (he c hc)]
    exact ⟨HostName.ne_of_allowed (he c hc) (by decide), rfl⟩
  case colon => decide
  case port =>
    have hdigit := Decimal.isLetterOrDigit_of_mem_natDigits hc
    rw [endsAuthority_of_standsForItself (standsForItself_of_isLetterOrDigit hdigit)]
    refine ⟨?_, rfl⟩
    rintro rfl
    exact absurd hdigit (by decide)

/-- What is read after the slashes of an address that is made of words, if host and port are
read. -/
theorem afterSlashes_eq (he : e.IsPlain) (hne : segments ≠ [])
    (hsegments : ∀ s ∈ segments, Wordy s.toList)
    (hquery : ∀ q ∈ query, ∀ c ∈ q.toList, keptInQuery c = true) :
    afterSlashes "http" (fromHost e segments query) =
      if e.host.toList.isEmpty then .error .emptyHost
      else (Host.parse e.host.toList).bind fun host =>
        (readPort "http" (':' :: Decimal.natDigits e.port)).map fun port =>
          ⟨"http", "", "", some host, port, segments, query, none⟩ := by
  have hauthority := authority_fromHost he
  have hat : '@' ∉ e.host.toList ++ ':' :: Decimal.natDigits e.port :=
    fun hmem => (hauthority '@' hmem).1 rfl
  have hhost : ∀ c ∈ e.host.toList, c ≠ ':' ∧ c ≠ '[' ∧ c ≠ ']' := by
    intro c hc
    exact ⟨HostName.ne_of_allowed (he c hc) (by decide),
      HostName.ne_of_allowed (he c hc) (by decide), HostName.ne_of_allowed (he c hc) (by decide)⟩
  have htail : ∃ rest, slashed segments ++ marked query = '/' :: rest := by
    cases segments with
    | nil => exact absurd rfl hne
    | cons s segments => exact ⟨_, rfl⟩
  obtain ⟨rest, htail⟩ := htail
  obtain ⟨htake, hdrop⟩ := cut_authority (fun c hc => (hauthority c hc).2) rest
  rw [← htail] at htake hdrop
  have hkept : (query.map String.toList).map
      (fun q => String.ofList (Percent.encode keptInQuery q)) = query := by
    cases query with
    | none => rfl
    | some q => exact congrArg some (encodeQuery_of_kept (hquery q rfl))
  unfold afterSlashes fromHost
  rw [htake, hdrop, splitTail_written hsegments hquery]
  dsimp only
  rw [splitUser_of_notMem hat]
  dsimp only
  rw [splitHost_append hhost]
  dsimp only
  rw [rootPath_slashed hne hsegments, hkept]
  cases Host.parse e.host.toList with
  | error f => rfl
  | ok host => rfl

/-- **What is read after the slashes** of an address that is made of words. -/
theorem afterSlashes_fromHost (he : e.IsPlain) (hne : segments ≠ [])
    (hsegments : ∀ s ∈ segments, Wordy s.toList)
    (hquery : ∀ q ∈ query, ∀ c ∈ q.toList, keptInQuery c = true) {url : Url}
    (h : afterSlashes "http" (fromHost e segments query) = .ok url) :
    url.path = segments ∧ url.query = query ∧ url.IsAt e := by
  rw [afterSlashes_eq he hne hsegments hquery] at h
  split at h
  · cases h
  · obtain ⟨host, hparse, h⟩ := exceptBind_eq_ok.1 h
    obtain ⟨port, hport, rfl⟩ := exceptMap_eq_ok.1 h
    exact ⟨rfl, rfl, rfl, rfl, rfl, ⟨host, hparse, rfl⟩, readPort_natDigits hport, rfl⟩

/-- The text of a frontend's address before its path. -/
theorem baseUrl_toList (e : Endpoint) :
    e.baseUrl.toList = ['h', 't', 't', 'p', ':', '/', '/'] ++
      (e.host.toList ++ ':' :: Decimal.natDigits e.port) := by
  simp [Endpoint.baseUrl, Endpoint.text, Decimal.natText]

/-- Neither a host name nor a port begins with a slash. -/
theorem dropSlashes_fromHost (he : e.IsPlain) :
    (['/', '/'] ++ fromHost e segments query).dropWhile isSlash = fromHost e segments query := by
  have hskip : ∀ cs, (['/', '/'] ++ cs).dropWhile isSlash = cs.dropWhile isSlash := fun _ => rfl
  rw [hskip]
  cases hname : e.host.toList with
  | nil =>
      rw [fromHost, hname]
      rfl
  | cons c cs =>
      have hallowed := he c (by rw [hname]; exact List.mem_cons_self)
      have hslash := isSlash_of_endsAuthority (endsAuthority_of_allowed hallowed)
      rw [fromHost, hname, List.cons_append, List.cons_append, List.dropWhile_cons_of_neg]
      rw [hslash]
      decide

theorem printed_fromHost (he : e.IsPlain) (hsegments : ∀ s ∈ segments, Wordy s.toList)
    (hquery : ∀ q ∈ query, ∀ c ∈ q.toList, keptInQuery c = true) :
    ∀ c ∈ fromHost e segments query, 0x20 < c.toNat := by
  have hself : ∀ c, standsForItself c = true → 0x20 < c.toNat :=
    fun c hc => (toNat_of_keptInPath (keptInPath_of_standsForItself hc)).1
  have hdigits : ∀ c ∈ Decimal.natDigits e.port, 0x20 < c.toNat := fun c hc =>
    hself c (standsForItself_of_isLetterOrDigit (Decimal.isLetterOrDigit_of_mem_natDigits hc))
  have hpath : ∀ c ∈ slashed segments, 0x20 < c.toNat := by
    intro c hc
    obtain ⟨s, hs, hc⟩ := List.mem_flatMap.1 hc
    rcases List.mem_cons.1 hc with rfl | hc
    · decide
    · exact hself c (hsegments s hs c hc)
  have hmarked : ∀ c ∈ marked query, 0x20 < c.toNat := by
    cases query with
    | none => exact fun c hc => by cases hc
    | some q =>
        exact List.forall_mem_cons.2
          ⟨by decide, fun c hc => (toNat_of_keptInQuery (hquery q rfl c hc)).1⟩
  refine List.forall_mem_append.2 ⟨List.forall_mem_append.2 ⟨?_, ?_⟩, ?_⟩
  · exact fun c hc => HostName.toNat_of_allowed (he c hc)
  · exact List.forall_mem_cons.2 ⟨by decide, hdigits⟩
  · exact List.forall_mem_append.2 ⟨hpath, hmarked⟩

/-- An address that is made of words is one of the web. -/
theorem parse_eq_afterSlashes (he : e.IsPlain) (hsegments : ∀ s ∈ segments, Wordy s.toList)
    (hquery : ∀ q ∈ query, ∀ c ∈ q.toList, keptInQuery c = true) {target : String}
    (htarget : target.toList = e.baseUrl.toList ++ (slashed segments ++ marked query)) :
    parse target = afterSlashes "http" (fromHost e segments query) := by
  have hcs : target.toList =
      ['h', 't', 't', 'p', ':', '/', '/'] ++ fromHost e segments query := by
    rw [htarget, baseUrl_toList, List.append_assoc]
    rfl
  have hclean : clean target.toList = target.toList := by
    refine clean_of_printed ?_
    rw [hcs]
    exact List.forall_mem_append.2 ⟨by simp, printed_fromHost he hsegments hquery⟩
  have hscheme : splitScheme? (['h', 't', 't', 'p', ':', '/', '/'] ++ fromHost e segments query) =
      some (['h', 't', 't', 'p'], ['/', '/'] ++ fromHost e segments query) := rfl
  unfold parse parseChars
  rw [hclean, hcs, hscheme]
  dsimp only
  unfold afterScheme
  rw [if_pos (by decide), dropSlashes_fromHost he]

/-- **An address that is made of words is read as it was put together.** -/
theorem parse_written (he : e.IsPlain) (hne : segments ≠ [])
    (hsegments : ∀ s ∈ segments, Wordy s.toList)
    (hquery : ∀ q ∈ query, ∀ c ∈ q.toList, keptInQuery c = true) {target : String}
    (htarget : target.toList = e.baseUrl.toList ++ (slashed segments ++ marked query)) {url : Url}
    (h : parse target = .ok url) : url.path = segments ∧ url.query = query ∧ url.IsAt e := by
  rw [parse_eq_afterSlashes he hsegments hquery htarget] at h
  exact afterSlashes_fromHost he hne hsegments hquery h

/-- **It is an address**, if the host is one and there is such a port. -/
theorem exists_parse_written (he : e.IsAddressable) (hne : segments ≠ [])
    (hsegments : ∀ s ∈ segments, Wordy s.toList)
    (hquery : ∀ q ∈ query, ∀ c ∈ q.toList, keptInQuery c = true) {target : String}
    (htarget : target.toList = e.baseUrl.toList ++ (slashed segments ++ marked query)) :
    ∃ url, parse target = .ok url := by
  obtain ⟨hplain, ⟨host, hhost⟩, hport⟩ := he
  have hempty : ¬ e.host.toList.isEmpty = true := by
    intro hnil
    rw [List.isEmpty_iff.1 hnil] at hhost
    cases hhost
  rw [parse_eq_afterSlashes hplain hsegments hquery htarget,
    afterSlashes_eq hplain hne hsegments hquery, if_neg hempty, hhost, readPort_of_le hport]
  exact ⟨_, rfl⟩

end Url

end StoreGate
