import StoreGate.Proofs.Engine.Frontend
import StoreGate.Proofs.Text.Trim

/-!
# Decorated frontends

A frontend may be written with blanks around it, with `http://` before it in letters of any case,
and with slashes behind it. None of this makes a difference, and what is printed of an endpoint is
read as that endpoint again. A text is cut at its last colon: what stands behind it has to be a port.
So a host in brackets keeps its colons.

* `Endpoint.Lead`, `Endpoint.Trail` — what may stand before and behind a frontend.
* `Endpoint.splitScheme?_eq_some`, `Endpoint.splitScheme?_eq_none` — where a scheme ends.
* `Endpoint.parse_of_bare` — a text is read by what is left without its decoration.
* `Endpoint.parse_host_port` — a host is cut from the port behind it, colons or not.
* `decorated_frontend_parses` — decorated frontends, printed endpoints, hosts in brackets, other
  schemes and what is no port.
* `inner_colons_accepted` — colons that no port stands behind.
-/

namespace StoreGate

namespace Endpoint

/-! ## Schemes -/

/-- What stands between a scheme and the rest. -/
def schemeEnd : List Char := [':', '/', '/']

theorem splitScheme?_eq_none {cs : List Char} : splitScheme? cs = none ↔ ¬ schemeEnd <:+: cs := by
  fun_induction splitScheme? cs with
  | case1 => simp [schemeEnd]
  | case2 rest => simp [schemeEnd, List.infix_cons_iff]
  | case3 c rest hnot ih =>
    have hfirst : ¬ schemeEnd <+: c :: rest := by
      rintro ⟨r, hr⟩
      obtain ⟨rfl, rfl⟩ := List.cons.inj hr
      exact hnot r rfl rfl
    rw [Option.map_eq_none_iff, ih, List.infix_cons_iff]
    simp [hfirst]

/-- **A scheme ends where it ends first.** -/
theorem splitScheme?_eq_some {cs s rest : List Char} :
    splitScheme? cs = some (s, rest) ↔ cs = s ++ schemeEnd ++ rest ∧ ¬ schemeEnd <:+: s := by
  fun_induction splitScheme? cs generalizing s with
  | case1 => simp [schemeEnd]
  | case2 after =>
    constructor
    · intro h
      obtain ⟨rfl, rfl⟩ := Prod.mk.inj (Option.some.inj h)
      exact ⟨rfl, by simp [schemeEnd]⟩
    · rintro ⟨heq, hnot⟩
      -- a longer scheme would begin with the end of a scheme
      match s, heq with
      | [], heq => simp_all [schemeEnd]
      | [a], heq => simp [schemeEnd] at heq
      | [a, b], heq => simp [schemeEnd] at heq
      | a :: b :: c :: s, heq =>
        simp only [List.cons_append, List.cons.injEq] at heq
        obtain ⟨rfl, rfl, rfl, -⟩ := heq
        exact absurd ⟨[], s, rfl⟩ hnot
  | case3 c after hnot ih =>
    constructor
    · intro h
      obtain ⟨⟨s', rest'⟩, hsplit, heq⟩ := Option.map_eq_some_iff.1 h
      obtain ⟨rfl, rfl⟩ := Prod.mk.inj heq
      obtain ⟨rfl, hno⟩ := ih.1 hsplit
      refine ⟨rfl, fun hinner => ?_⟩
      rcases List.infix_cons_iff.1 hinner with ⟨r, hr⟩ | hinner
      · obtain ⟨rfl, rfl⟩ := List.cons.inj hr
        exact hnot _ rfl rfl
      · exact hno hinner
    · rintro ⟨heq, hno⟩
      cases s with
      | nil =>
        obtain ⟨rfl, rfl⟩ := List.cons.inj heq
        exact absurd rfl (hnot _ rfl)
      | cons d s =>
        obtain ⟨rfl, rfl⟩ := List.cons.inj heq
        have hinner : ¬ schemeEnd <:+: s := fun h => hno (List.infix_cons_iff.2 (.inr h))
        rw [ih.2 ⟨rfl, hinner⟩]
        rfl

/-- Behind a text without slashes, a colon begins the end of a scheme or not. -/
theorem schemeEnd_infix_append_iff {front : List Char} (h : '/' ∉ front) (rest : List Char) :
    schemeEnd <:+: front ++ ':' :: rest ↔ ['/', '/'] <+: rest ∨ schemeEnd <:+: rest := by
  induction front with
  | nil => simp [schemeEnd, List.infix_cons_iff]
  | cons c front ih =>
    have hfirst : ¬ schemeEnd <+: c :: (front ++ ':' :: rest) := by
      rintro ⟨r, hr⟩
      have hslash : (front ++ ':' :: rest).head? = some '/' := by
        rw [← (List.cons.inj hr).2]
        rfl
      cases front with
      | nil => cases hslash
      | cons d front =>
        obtain rfl : d = '/' := Option.some.inj hslash
        exact h (List.mem_cons_of_mem c List.mem_cons_self)
    rw [List.cons_append, List.infix_cons_iff, ih fun hmem => h (List.mem_cons_of_mem _ hmem)]
    simp [hfirst]

/-- The first colon of a text is one. -/
theorem append_colon_inj {front before rest after : List Char} (hfront : ':' ∉ front)
    (hbefore : ':' ∉ before) (h : front ++ ':' :: rest = before ++ ':' :: after) :
    front = before ∧ rest = after := by
  induction front generalizing before with
  | nil =>
    cases before with
    | nil => exact ⟨rfl, (List.cons.inj h).2⟩
    | cons d before => exact absurd ((List.cons.inj h).1 ▸ List.mem_cons_self) hbefore
  | cons c front ih =>
    cases before with
    | nil => exact absurd ((List.cons.inj h).1 ▸ List.mem_cons_self) hfront
    | cons d before =>
      obtain ⟨rfl, htail⟩ := List.cons.inj h
      obtain ⟨rfl, rfl⟩ := ih (fun hmem => hfront (List.mem_cons_of_mem c hmem))
        (fun hmem => hbefore (List.mem_cons_of_mem c hmem)) htail
      exact ⟨rfl, rfl⟩

theorem not_schemeEnd_of_notMem {cs : List Char} (h : ':' ∉ cs) : ¬ schemeEnd <:+: cs :=
  fun hinner => h (hinner.subset List.mem_cons_self)

/-! ## Decoration -/

/-- The scheme of plain HTTP, in letters of any case. -/
def IsHttp (scheme : List Char) : Prop := scheme.map Char.toLower = ['h', 't', 't', 'p']

/-- Blanks and perhaps `http://`. -/
structure Lead where
  blanks : List Char
  scheme : Option (List Char)
  isBlank_of_mem : ∀ c ∈ blanks, Text.isBlank c = true
  isHttp_of_mem : ∀ s ∈ scheme, IsHttp s

/-- Slashes and blanks. -/
structure Trail where
  slashes : Nat
  blanks : List Char
  isBlank_of_mem : ∀ c ∈ blanks, Text.isBlank c = true

namespace Lead

/-- The scheme, if there is one. -/
def mark (l : Lead) : List Char := (l.scheme.map fun s => s ++ schemeEnd).getD []

def chars (l : Lead) : List Char := l.blanks ++ l.mark

def text (l : Lead) : String := String.ofList l.chars

/-- No decoration, and nothing but the scheme. -/
def none : Lead := ⟨[], Option.none, by simp, by simp⟩

def http : Lead where
  blanks := []
  scheme := some ['h', 't', 't', 'p']
  isBlank_of_mem := by simp
  isHttp_of_mem s hs := by
    cases hs
    rfl

end Lead

theorem IsHttp.apart {s : List Char} (hs : IsHttp s) {c : Char} (hc : c ∈ s) :
    c ≠ ':' ∧ Text.isBlank c = false := by
  have hmem : c.toLower ∈ ['h', 't', 't', 'p'] := by
    rw [← hs]
    exact List.mem_map_of_mem hc
  constructor
  · rintro rfl
    exact absurd hmem (by decide)
  · by_contra hblank
    rw [Bool.not_eq_false] at hblank
    rw [Text.toLower_of_isBlank hblank] at hmem
    have hall : ['h', 't', 't', 'p'].all (fun d => !Text.isBlank d) = true := by decide
    have hnot := List.all_eq_true.1 hall c hmem
    rw [hblank] at hnot
    cases hnot

namespace Lead

variable (l : Lead)

theorem mark_of_none (h : l.scheme = Option.none) : l.mark = [] := by
  rw [mark, h]
  rfl

theorem mark_of_some {s : List Char} (h : l.scheme = some s) : l.mark = s ++ schemeEnd := by
  rw [mark, h]
  rfl

/-- **Blanks before a text and its scheme** are taken off, and none in it. -/
theorem trimChars_chars {c : Char} (hc : Text.isBlank c = false) (cs : List Char) :
    Text.trimChars (l.chars ++ c :: cs) = l.mark ++ c :: Text.trimEnd cs := by
  rw [chars, List.append_assoc]
  cases hscheme : l.scheme with
  | none =>
    rw [l.mark_of_none hscheme]
    exact Text.trimChars_append l.isBlank_of_mem hc cs
  | some s =>
    cases s with
    | nil => cases l.isHttp_of_mem [] (by rw [hscheme]; rfl)
    | cons d s =>
      have hd := ((l.isHttp_of_mem (d :: s) (by rw [hscheme]; rfl)).apart List.mem_cons_self).2
      have hrest : (d :: s ++ schemeEnd) ++ c :: cs = d :: ((s ++ schemeEnd) ++ c :: cs) := rfl
      rw [l.mark_of_some hscheme, hrest, Text.trimChars_append l.isBlank_of_mem hd,
        Text.trimEnd_eq, Text.rdropWhile_append_cons hc]
      rfl

/-- **The scheme goes**, or there is none. -/
theorem withoutScheme_mark {cs : List Char} (h : l.scheme = Option.none → ¬ schemeEnd <:+: cs) :
    withoutScheme (l.mark ++ cs) = .ok cs := by
  unfold withoutScheme
  cases hscheme : l.scheme with
  | none =>
    rw [l.mark_of_none hscheme, List.nil_append, splitScheme?_eq_none.2 (h hscheme)]
  | some s =>
    have hs : IsHttp s := l.isHttp_of_mem s (by rw [hscheme]; rfl)
    have hno : ¬ schemeEnd <:+: s := not_schemeEnd_of_notMem fun hmem => (hs.apart hmem).1 rfl
    rw [l.mark_of_some hscheme, splitScheme?_eq_some.2 ⟨rfl, hno⟩]
    exact if_pos hs

end Lead

namespace Trail

def chars (t : Trail) : List Char := List.replicate t.slashes '/' ++ t.blanks

def text (t : Trail) : String := String.ofList t.chars

def none : Trail := ⟨0, [], by simp⟩

theorem colon_notMem (t : Trail) : ':' ∉ List.replicate t.slashes '/' := fun hmem =>
  absurd (List.eq_of_mem_replicate hmem) (by decide)

end Trail

/-! ## Ports -/

theorem splitPort?_of_notMem {cs : List Char} (h : ':' ∉ cs) : splitPort? cs = none := by
  cases hsplit : splitPort? cs with
  | none => rfl
  | some p => exact absurd (by rw [(splitPort?_eq_some hsplit).1]; simp) h

/-- **The port stands behind the last colon.** -/
theorem splitPort?_append {port : List Char} (h : ':' ∉ port) (host : List Char) :
    splitPort? (host ++ ':' :: port) = some (host, port) := by
  have hkept : ∀ c ∈ port.reverse, (c != ':') = true := fun c hc =>
    bne_iff_ne.2 fun heq => h (heq ▸ List.mem_reverse.1 hc)
  unfold splitPort?
  simp only [List.reverse_append, List.reverse_cons, List.append_assoc, List.singleton_append]
  rw [List.takeWhile_append_of_pos hkept, List.dropWhile_append_of_pos hkept]
  simp

/-- The port of a text is what stands behind its last colon. -/
theorem exists_splitPort? (front rest : List Char) :
    ∃ before, splitPort? (front ++ ':' :: rest) =
      some (before, rest.rtakeWhile fun c => c != ':') := by
  have hcut := List.rdropWhile_append_rtakeWhile (p := fun c : Char => c != ':') (l := rest)
  have hcolon : ':' ∉ rest.rtakeWhile fun c => c != ':' := fun hmem =>
    absurd (List.mem_rtakeWhile_imp hmem) (by decide)
  rcases List.eq_nil_or_concat (rest.rdropWhile fun c => c != ':') with hnil | ⟨before, d, hlast⟩
  · rw [hnil, List.nil_append] at hcut
    rw [hcut] at hcolon ⊢
    exact ⟨front, splitPort?_append hcolon front⟩
  · have hd : d = ':' := by
      have hnot := List.rdropWhile_last_not (fun c : Char => c != ':') rest (by rw [hlast]; simp)
      simpa [hlast] using hnot
    have hrest : front ++ ':' :: rest =
        (front ++ ':' :: before) ++ ':' :: rest.rtakeWhile fun c => c != ':' := by
      conv_lhs => rw [← hcut, hlast, hd]
      simp
    exact ⟨front ++ ':' :: before, by rw [hrest, splitPort?_append hcolon]⟩

/-! ## Reading -/

/-- One piece without colons and slashes. -/
structure IsHostText (host : String) : Prop where
  ne : host ≠ ""
  apart : ∀ c ∈ host.toList, c ≠ ':' ∧ c ≠ '/' ∧ Text.isBlank c = false

theorem isHostText_of_all {host : String} (hne : host ≠ "")
    (h : host.toList.all (fun c => c != ':' && c != '/' && !Text.isBlank c) = true) :
    IsHostText host where
  ne := hne
  apart c hc := by simpa [and_assoc] using List.all_eq_true.1 h c hc

/-- The text is read as this port. -/
def IsPortText (port : String) (n : Nat) : Prop :=
  Decimal.readNatUpTo? greatestPort port.toList = some n

theorem isPortText_natText {n : Nat} (hn : n ≤ greatestPort) :
    IsPortText (Decimal.natText n) n := by
  rw [IsPortText, Decimal.natText, String.toList_ofList]
  exact Decimal.readNatUpTo?_natDigits hn

/-- The text is no frontend, and the configuration is to blame. -/
def IsRefused (raw : String) (defaultPort : Nat) (role : EndpointRole) : Prop :=
  ∃ f, parse raw defaultPort role = .error f ∧ f.fault.kind = .config

variable {raw : String} {defaultPort : Nat} {role : EndpointRole}

/-- **A text is read by what is left** without blanks, scheme and slashes. -/
theorem parse_of_bare {rest bare : List Char}
    (hrest : withoutScheme (Text.trimChars raw.toList) = .ok rest) (hbare : dropSlashes rest = bare)
    (hne : bare ≠ []) : parse raw defaultPort role =
      (hostAndPort defaultPort bare).map fun p => ⟨p.1, p.2, role⟩ := by
  rw [parse, parseChars, hrest]
  dsimp only
  rw [hbare, if_neg (by simpa using hne)]

/-- **Decoration makes no difference** to a text without blanks and slashes. -/
theorem parse_decorated (l : Lead) (t : Trail) {core : List Char} (hne : core ≠ [])
    (hcore : ∀ c ∈ core, c ≠ '/' ∧ Text.isBlank c = false)
    (hscheme : ¬ schemeEnd <:+: core ++ List.replicate t.slashes '/')
    (hraw : raw.toList = l.chars ++ core ++ t.chars) : parse raw defaultPort role =
      (hostAndPort defaultPort core).map fun p => ⟨p.1, p.2, role⟩ := by
  have hslashes : ∀ c ∈ List.replicate t.slashes '/', c = '/' := fun c hc =>
    List.eq_of_mem_replicate hc
  have hprinted : ∀ c ∈ core ++ List.replicate t.slashes '/', Text.isBlank c = false := by
    refine List.forall_mem_append.2 ⟨fun c hc => (hcore c hc).2, fun c hc => ?_⟩
    rw [hslashes c hc]
    rfl
  have hend : Text.trimEnd (core ++ t.chars) = core ++ List.replicate t.slashes '/' := by
    rw [Trail.chars, ← List.append_assoc, Text.trimEnd_eq,
      Text.rdropWhile_append_of_all t.isBlank_of_mem, Text.rdropWhile_of_none hprinted]
  have htrim : Text.trimChars raw.toList = l.mark ++ (core ++ List.replicate t.slashes '/') := by
    obtain ⟨c, cs, rfl⟩ := List.exists_cons_of_ne_nil hne
    have hc := (hcore c List.mem_cons_self).2
    have hfirst : Text.trimEnd (c :: (cs ++ t.chars)) = c :: Text.trimEnd (cs ++ t.chars) :=
      Text.rdropWhile_append_cons hc [] _
    rw [hraw, List.append_assoc, List.cons_append, l.trimChars_chars hc, ← hfirst,
      ← List.cons_append, hend]
  have hbare : dropSlashes (core ++ List.replicate t.slashes '/') = core := by
    have hkept : ∀ c ∈ core, (c == '/') = false := fun c hc => by simp [(hcore c hc).1]
    have hgone : ∀ c ∈ List.replicate t.slashes '/', (c == '/') = true := fun c hc => by
      simp [hslashes c hc]
    calc dropSlashes (core ++ List.replicate t.slashes '/')
        = (core ++ List.replicate t.slashes '/').rdropWhile (fun c => c == '/') := rfl
      _ = core := by rw [Text.rdropWhile_append_of_all hgone, Text.rdropWhile_of_none hkept]
  refine parse_of_bare ?_ hbare hne
  rw [htrim]
  exact l.withoutScheme_mark fun _ => hscheme

/-! ## Hosts -/

/-- **A host is cut from the port behind it**, whatever colons it has. -/
theorem parse_host_port {host port : String} {n : Nat} (l : Lead) (t : Trail)
    (hhost : ∀ c ∈ host.toList, c ≠ '/' ∧ Text.isBlank c = false) (hport : IsPortText port n)
    (hraw : raw = l.text ++ host ++ ":" ++ port ++ t.text) :
    parse raw defaultPort role = .ok ⟨host, n, role⟩ := by
  obtain ⟨-, hne, hdigits⟩ := Decimal.readNatUpTo?_eq_some hport
  have hmarks : ∀ c, c = '+' ∨ Decimal.isDigit c = true →
      c ≠ ':' ∧ c ≠ '/' ∧ Text.isBlank c = false := by
    rintro c (rfl | hdigit)
    · decide
    · refine ⟨?_, ?_, Text.isBlank_of_isDigit hdigit⟩
      · rintro rfl
        exact absurd hdigit (by decide)
      · rintro rfl
        exact absurd hdigit (by decide)
  have hapart : ∀ c ∈ port.toList, c ≠ ':' ∧ c ≠ '/' ∧ Text.isBlank c = false :=
    fun c hc => hmarks c (hdigits c hc)
  have hcolon : ':' ∉ port.toList := fun hmem => (hapart ':' hmem).1 rfl
  have hcore : ∀ c ∈ host.toList ++ ':' :: port.toList, c ≠ '/' ∧ Text.isBlank c = false :=
    List.forall_mem_append.2 ⟨hhost,
      List.forall_mem_cons.2 ⟨by decide, fun c hc => (hapart c hc).2⟩⟩
  have hscheme :
      ¬ schemeEnd <:+: (host.toList ++ ':' :: port.toList) ++ List.replicate t.slashes '/' := by
    obtain ⟨d, ds, hcs⟩ := List.exists_cons_of_ne_nil hne
    have hd : d ≠ '/' := (hapart d (by rw [hcs]; exact List.mem_cons_self)).2.1
    have hslash : '/' ∉ host.toList := fun hmem => (hhost '/' hmem).1 rfl
    rw [List.append_assoc, List.cons_append, schemeEnd_infix_append_iff hslash, not_or]
    constructor
    · rw [hcs]
      rintro ⟨r, hr⟩
      exact hd (List.cons.inj hr).1.symm
    · exact not_schemeEnd_of_notMem fun hmem => (List.mem_append.1 hmem).elim hcolon t.colon_notMem
  rw [parse_decorated l t (by simp) hcore hscheme (by simp [hraw, Lead.text, Trail.text]),
    hostAndPort, splitPort?_append hcolon]
  dsimp only
  rw [show Decimal.readNatUpTo? greatestPort port.toList = some n from hport, String.ofList_toList]
  rfl

/-- **Eight pieces between brackets** keep their colons. -/
theorem parse_bracketed {host port : String} {pieces : List Nat} {n : Nat} (l : Lead) (t : Trail)
    (hhost : Host.parse host.toList = .ok (.ipv6 pieces)) (hport : IsPortText port n)
    (hraw : raw = l.text ++ host ++ ":" ++ port ++ t.text) :
    parse raw defaultPort role = .ok ⟨host, n, role⟩ := by
  refine parse_host_port l t (fun c hc => ?_) hport hraw
  obtain ⟨-, -, hends, hblank⟩ := Url.uncut_of_host hhost hc
  refine ⟨?_, hblank⟩
  rintro rfl
  exact absurd hends (by decide)

section Host

variable {host : String} (hhost : IsHostText host) (l : Lead) (t : Trail)

include hhost

theorem IsHostText.colon_notMem : ':' ∉ host.toList := fun hmem => (hhost.apart ':' hmem).1 rfl

/-- **A host alone** is given the default port. -/
theorem parse_host (hraw : raw = l.text ++ host ++ t.text) :
    parse raw defaultPort role = .ok ⟨host, defaultPort, role⟩ := by
  have hcolon := hhost.colon_notMem
  have hne : host.toList ≠ [] := by simpa using hhost.ne
  have hscheme : ¬ schemeEnd <:+: host.toList ++ List.replicate t.slashes '/' :=
    not_schemeEnd_of_notMem fun hmem => (List.mem_append.1 hmem).elim hcolon t.colon_notMem
  rw [parse_decorated l t hne (fun c hc => (hhost.apart c hc).2) hscheme
    (by simp [hraw, Lead.text, Trail.text]), hostAndPort, splitPort?_of_notMem hcolon,
    String.ofList_toList]
  rfl

/-- **What is printed of an endpoint** is read as the endpoint, whatever the default port. -/
theorem parse_printed {n : Nat} (hn : n ≤ greatestPort) :
    parse (text ⟨host, n, role⟩) defaultPort role = .ok ⟨host, n, role⟩ ∧
      parse (baseUrl ⟨host, n, role⟩) defaultPort role = .ok ⟨host, n, role⟩ := by
  have hport := isPortText_natText hn
  have hapart : ∀ c ∈ host.toList, c ≠ '/' ∧ Text.isBlank c = false :=
    fun c hc => (hhost.apart c hc).2
  constructor
  · refine parse_host_port .none .none hapart hport ?_
    rw [← String.toList_inj]
    simp [text, Lead.text, Trail.text, Lead.chars, Lead.mark, Lead.none, Trail.chars, Trail.none]
  · refine parse_host_port .http .none hapart hport ?_
    rw [← String.toList_inj]
    simp [baseUrl, text, Lead.text, Trail.text, Lead.chars, Lead.mark, Lead.http, Trail.chars,
      Trail.none, schemeEnd]

/-! ## What is refused -/

/-- What has to be a port in what follows the colon of a host: the text behind the last colon,
without blanks and slashes at its end. -/
def portOf (suffix : String) : List Char :=
  (dropSlashes (Text.trimEnd suffix.toList)).rtakeWhile fun c => c != ':'

omit hhost in
theorem hostAndPort_of_no_port (defaultPort : Nat) (front : List Char) {suffix : String}
    (h : Decimal.readNatUpTo? greatestPort (portOf suffix) = Option.none) :
    hostAndPort defaultPort (front ++ ':' :: dropSlashes (Text.trimEnd suffix.toList)) = .error
      (.port (String.ofList (front ++ ':' :: dropSlashes (Text.trimEnd suffix.toList)))) := by
  obtain ⟨before, hsplit⟩ := exists_splitPort? front (dropSlashes (Text.trimEnd suffix.toList))
  rw [portOf] at h
  rw [hostAndPort, hsplit]
  dsimp only
  rw [h]

omit hhost in
/-- **Another scheme** is refused. -/
theorem isRefused_of_scheme {s rest : List Char}
    (hraw : Text.trimChars raw.toList = s ++ schemeEnd ++ rest) (hfirst : ¬ schemeEnd <:+: s)
    (hs : ¬ IsHttp s) : IsRefused raw defaultPort role := by
  have hscheme : withoutScheme (Text.trimChars raw.toList) =
      .error (.scheme (String.ofList s) (String.ofList (Text.trimChars raw.toList))) := by
    rw [withoutScheme, splitScheme?_eq_some.2 ⟨hraw, hfirst⟩]
    exact if_neg hs
  exact ⟨_, by rw [parse, parseChars, hscheme], rfl⟩

/-- **A host with what is no port** is refused, unless the colon is that of the scheme. -/
theorem isRefused_of_port {suffix : String}
    (hhttp : l.scheme = Option.none → ¬ (IsHttp host.toList ∧ ['/', '/'] <+: suffix.toList))
    (hport : Decimal.readNatUpTo? greatestPort (portOf suffix) = Option.none)
    (hraw : raw = l.text ++ host ++ ":" ++ suffix) : IsRefused raw defaultPort role := by
  have htrim : Text.trimChars raw.toList =
      l.mark ++ (host.toList ++ ':' :: Text.trimEnd suffix.toList) := by
    have hne : host.toList ≠ [] := by simpa using hhost.ne
    obtain ⟨c, cs, hcs⟩ := List.exists_cons_of_ne_nil hne
    have hc : Text.isBlank c = false := (hhost.apart c (by simp [hcs])).2.2
    have hrest : raw.toList = l.chars ++ c :: (cs ++ ':' :: suffix.toList) := by
      simp [hraw, Lead.text, hcs]
    rw [hrest, l.trimChars_chars hc, hcs, Text.trimEnd_eq, Text.rdropWhile_append_cons (by decide)]
    rfl
  have hread := hostAndPort_of_no_port defaultPort host.toList hport
  have hkept : Text.trimEnd suffix.toList <+: suffix.toList := List.rdropWhile_prefix _ _
  rw [portOf] at hport
  generalize Text.trimEnd suffix.toList = kept at htrim hread hkept
  by_cases hscheme : l.scheme = Option.none → ¬ schemeEnd <:+: host.toList ++ ':' :: kept
  · -- the colon stands behind the host
    have hbare : dropSlashes (host.toList ++ ':' :: kept) =
        host.toList ++ ':' :: dropSlashes kept :=
      Text.rdropWhile_append_cons (by decide) host.toList kept
    refine ⟨.port (String.ofList (host.toList ++ ':' :: dropSlashes kept)), ?_, rfl⟩
    rw [parse_of_bare (by rw [htrim, l.withoutScheme_mark hscheme]) hbare (by simp), hread]
    rfl
  · -- the colon may belong to a scheme, and that is not the one of plain HTTP
    rw [Classical.not_imp, not_not] at hscheme
    obtain ⟨hnone, hinner⟩ := hscheme
    rw [l.mark_of_none hnone, List.nil_append] at htrim
    cases hsplit : splitScheme? (host.toList ++ ':' :: kept) with
    | none => exact absurd hinner (splitScheme?_eq_none.1 hsplit)
    | some cut =>
      obtain ⟨s, rest⟩ := cut
      obtain ⟨hcut, hfirst⟩ := splitScheme?_eq_some.1 hsplit
      refine isRefused_of_scheme (htrim.trans hcut) hfirst fun hs => hhttp hnone ?_
      have hno : ':' ∉ s := fun hmem => (hs.apart hmem).1 rfl
      have heq : host.toList ++ ':' :: kept = s ++ ':' :: '/' :: '/' :: rest := by
        rw [hcut]
        simp [schemeEnd]
      obtain ⟨hhosts, hrest⟩ := append_colon_inj hhost.colon_notMem hno heq
      exact ⟨hhosts ▸ hs, .trans ⟨rest, hrest.symm⟩ hkept⟩

end Host

end Endpoint

open Endpoint

/-- **Decoration makes no difference.** A host without colons, slashes and blanks is read as it is,
with the default port or with the port behind it, whatever blanks and slashes are around it and
however `http://` is written before it; and what is printed of such an endpoint is read as this
endpoint, whatever the default port. Such a host with a colon is refused if what stands behind the
last colon is no port, unless the colon is that of the scheme. Eight pieces between brackets are a
host with colons of its own, and are read with the port behind it. Another scheme is refused. -/
theorem decorated_frontend_parses (defaultPort : UInt16) (role : EndpointRole) :
    (∀ host, IsHostText host → ∀ l : Lead,
      (∀ t : Trail,
        parse (l.text ++ host ++ t.text) defaultPort.toNat role =
          .ok ⟨host, defaultPort.toNat, role⟩ ∧
        ∀ port (n : UInt16), IsPortText port n.toNat →
          parse (l.text ++ host ++ ":" ++ port ++ t.text) defaultPort.toNat role =
            .ok ⟨host, n.toNat, role⟩) ∧
      (∀ n : UInt16, IsPortText (Decimal.natText n.toNat) n.toNat ∧
        parse (text ⟨host, n.toNat, role⟩) defaultPort.toNat role = .ok ⟨host, n.toNat, role⟩ ∧
        parse (baseUrl ⟨host, n.toNat, role⟩) defaultPort.toNat role = .ok ⟨host, n.toNat, role⟩) ∧
      ∀ suffix, (l.scheme = none → ¬ (IsHttp host.toList ∧ ['/', '/'] <+: suffix.toList)) →
        Decimal.readNatUpTo? greatestPort (portOf suffix) = none →
        IsRefused (l.text ++ host ++ ":" ++ suffix) defaultPort.toNat role) ∧
    (∀ host pieces, Host.parse host.toList = .ok (.ipv6 pieces) → ∀ (l : Lead) (t : Trail) port,
      ∀ n : UInt16, IsPortText port n.toNat →
        parse (l.text ++ host ++ ":" ++ port ++ t.text) defaultPort.toNat role =
          .ok ⟨host, n.toNat, role⟩) ∧
    ∀ raw s rest, Text.trimChars raw.toList = s ++ schemeEnd ++ rest → ¬ schemeEnd <:+: s →
      ¬ IsHttp s → IsRefused raw defaultPort.toNat role := by
  refine ⟨fun host hhost l => ⟨fun t => ⟨?_, fun port n hport => ?_⟩, fun n => ⟨?_, ?_⟩,
    fun suffix hhttp hport => ?_⟩, fun host pieces hhost l t port n hport => ?_,
    fun raw s rest => isRefused_of_scheme⟩
  · exact parse_host hhost l t rfl
  · exact parse_host_port l t (fun c hc => (hhost.apart c hc).2) hport rfl
  · exact isPortText_natText (Nat.le_of_lt_succ n.toNat_lt)
  · exact parse_printed hhost (Nat.le_of_lt_succ n.toNat_lt)
  · exact isRefused_of_port hhost l hhttp hport rfl
  · exact parse_bracketed l t hhost hport rfl

/-- Capitals, a port with a leading zero, a port that is too great, brackets, and another scheme. -/
theorem decorated_frontend_parses_of_capitals :
    parse " HTTP://fe1:08031// " (8030 : UInt16).toNat .query = .ok ⟨"fe1", 8031, .query⟩ ∧
      IsRefused "fe1:65536/" (8030 : UInt16).toNat .query ∧
      parse "HTTP://[::1]:9030/" (8030 : UInt16).toNat .query = .ok ⟨"[::1]", 9030, .query⟩ ∧
      IsRefused "https://fe1" (8030 : UInt16).toNat .query := by
  have hhost : IsHostText "fe1" := isHostText_of_all (by decide) (by decide)
  have hpieces : Host.parse "[::1]".toList = .ok (.ipv6 [0, 0, 0, 0, 0, 0, 0, 1]) := by
    decide +kernel
  have hblank : ∀ c ∈ [' '], Text.isBlank c = true := List.forall_mem_singleton.2 rfl
  obtain ⟨hread, hbracketed, hscheme⟩ := decorated_frontend_parses 8030 .query
  refine ⟨?_, ?_, ?_, ?_⟩
  · exact ((hread "fe1" hhost ⟨[' '], some ['H', 'T', 'T', 'P'], hblank, by simp [IsHttp]⟩).1
      ⟨2, [' '], hblank⟩).2 "08031" 8031 rfl
  · exact (hread "fe1" hhost .none).2.2 "65536/" (fun _ h => absurd h.1 (by simp [IsHttp])) rfl
  · exact hbracketed "[::1]" _ hpieces ⟨[], some ['H', 'T', 'T', 'P'], by simp, by simp [IsHttp]⟩
      ⟨1, [], by simp⟩ "9030" 9030 rfl
  · exact hscheme "https://fe1" ['h', 't', 't', 'p', 's'] ['f', 'e', '1'] rfl (by decide)
      (by simp [IsHttp])

/-- What follows the first colon of the bracketed host is no port, and neither is what follows the
scheme. -/
theorem inner_colons_accepted :
    (IsHostText "[" ∧
      Decimal.readNatUpTo? greatestPort (dropSlashes ":1]:9030".toList) = none ∧
      parse "[::1]:9030" 8030 .query = .ok ⟨"[::1]", 9030, .query⟩) ∧
    IsHostText "http" ∧ Decimal.readNatUpTo? greatestPort (dropSlashes "//fe1".toList) = none ∧
      parse "http://fe1" 8030 .query = .ok ⟨"fe1", 8030, .query⟩ :=
  ⟨⟨isHostText_of_all (by decide) (by decide), rfl, rfl⟩,
    isHostText_of_all (by decide) (by decide), rfl, rfl⟩

end StoreGate
