import Mathlib.Data.List.Induction
import StoreGate.Cli.Action
import StoreGate.Proofs.Except

/-!
# Options in any order

A command is read from its options, in whatever order they are given, and from the words after two
dashes, whatever they look like. What is read is what the options change, one after another.

* `Cli.Given` — an option as it is given; `Cli.Given.For` — one that a form knows.
* `Cli.Form.readFrom_givens` — all options of a command line.
* `Cli.Form.readFrom_escape` — the words after two dashes.
* `Cli.Form.read_givens` — a whole command line.
* `Cli.Form.keeps_of_read` — what holds of everything that is read by a form.
* `Cli.Made`, `Cli.made_of_read` — every action comes of words that a form reads.
* `Cli.get_foldl_or`, `Cli.get_foldl_set`, `Cli.get_foldl_add` — a part of what has been read.
-/

namespace StoreGate

namespace Cli

/-! ## Words -/

namespace Word

/-- A long word by its name and what follows it. -/
def ofParts (name : String) : List Char → Word
  | [] => .long name none
  | _ :: value => .long name (some (String.ofList value))

theorem ofText_dashes {s : String} {c : Char} {cs : List Char}
    (h : s.toList = '-' :: '-' :: c :: cs) :
    ofText s = ofParts (String.ofList ((c :: cs).takeWhile fun c => c != '='))
      ((c :: cs).dropWhile fun c => c != '=') := by
  unfold ofText
  rw [h]
  split
  · next heq => cases heq
  · next heq =>
    cases heq
    cases (c :: cs).dropWhile fun c => c != '=' <;> rfl
  · next hlong heq => exact absurd (List.cons.inj (List.cons.inj heq).2).1.symm hlong
  · next hplain => exact absurd rfl (hplain _ _)

variable {name : String} (hne : name ≠ "") (hname : '=' ∉ name.toList)

include hne hname

/-- A name is told from its value by the first equals sign. -/
theorem exists_cut (rest : List Char) (hrest : rest = [] ∨ ∃ value, rest = '=' :: value) :
    ∃ c cs, name.toList ++ rest = c :: cs ∧
      (c :: cs).takeWhile (fun c => c != '=') = name.toList ∧
      (c :: cs).dropWhile (fun c => c != '=') = rest := by
  have hkept : ∀ d ∈ name.toList, (d != '=') = true := fun d hd =>
    bne_iff_ne.2 fun heq => hname (heq ▸ hd)
  obtain ⟨c, cs, hcs⟩ : ∃ c cs, name.toList ++ rest = c :: cs := by
    refine List.exists_cons_of_ne_nil fun hnil => hne ?_
    exact String.toList_inj.1 (List.append_eq_nil_iff.1 hnil).1
  refine ⟨c, cs, hcs, ?_, ?_⟩
  · rw [← hcs, List.takeWhile_append_of_pos hkept]
    rcases hrest with rfl | ⟨value, rfl⟩ <;> simp
  · rw [← hcs, List.dropWhile_append_of_pos hkept]
    rcases hrest with rfl | ⟨value, rfl⟩ <;> simp

theorem ofText_setting (value : String) :
    ofText ("--" ++ name ++ "=" ++ value) = .long name (some value) := by
  obtain ⟨c, cs, hcs, htake, hdrop⟩ := exists_cut hne hname ('=' :: value.toList) (.inr ⟨_, rfl⟩)
  have htext : ("--" ++ name ++ "=" ++ value).toList = '-' :: '-' :: c :: cs := by
    rw [← hcs]
    simp
  rw [ofText_dashes htext, hdrop, htake, String.ofList_toList]
  exact congrArg (fun s => long name (some s)) String.ofList_toList

theorem ofText_flag : ofText ("--" ++ name) = .long name none := by
  obtain ⟨c, cs, hcs, htake, hdrop⟩ := exists_cut hne hname [] (.inl rfl)
  have htext : ("--" ++ name).toList = '-' :: '-' :: c :: cs := by
    rw [← hcs]
    simp
  rw [ofText_dashes htext, hdrop, htake, String.ofList_toList]
  rfl

end Word

/-! ## Options -/

variable {ρ : Type}

/-- An option as it is given: its name, its value unless it is a flag, and what it changes. -/
structure Given (ρ : Type) where
  name : String
  value : Option String
  /-- It may be given more than once. -/
  repeatable : Bool
  set : ρ → ρ

namespace Given

/-- The word of an option. -/
def word (g : Given ρ) : String :=
  match g.value with
  | some value => "--" ++ g.name ++ "=" ++ value
  | none => "--" ++ g.name

/-- The form knows the option. -/
inductive For (form : Form ρ) (g : Given ρ) : Prop
  | setting (s : Setting ρ) (value : String) : form.setting? g.name = some s → s.name = g.name →
    s.repeatable = g.repeatable → g.value = some value → s.read value = some g.set → For form g
  | flag (f : Flag ρ) : form.setting? g.name = none → g.value = none → g.repeatable = false →
    (form.flags.find? fun f => f.name == g.name) = some f → f.set = g.set →
    g.name ≠ helpFlag → g.name ≠ jsonFlag → For form g

end Given

namespace Form

/-- Every name can be told from what follows it. -/
def IsNamed (form : Form ρ) : Prop :=
  ∀ name ∈ form.settings.map Setting.name ++ form.flags.map Flag.name, name ≠ "" ∧ '=' ∉ name.toList

variable {form : Form ρ} {p : Progress ρ}

theorem mem_settings_of_setting? {name : String} {s : Setting ρ} (h : form.setting? name = some s) :
    s ∈ form.settings := List.mem_of_find?_eq_some h

theorem IsNamed.of_for (h : form.IsNamed) {g : Given ρ} (hg : g.For form) :
    g.name ≠ "" ∧ '=' ∉ g.name.toList := by
  refine h g.name ?_
  cases hg with
  | setting s value hsetting hs =>
      rw [← hs]
      exact List.mem_append_left _ (List.mem_map_of_mem (mem_settings_of_setting? hsetting))
  | flag f hsetting hvalue hrepeatable hflag =>
      have hname : f.name = g.name := by simpa using List.find?_some hflag
      rw [← hname]
      exact List.mem_append_right _ (List.mem_map_of_mem (List.mem_of_find?_eq_some hflag))

theorem once_eq {name : String} (h : name ∉ p.seen) :
    p.once name = .ok { p with seen := name :: p.seen } := by
  rw [Progress.once, if_neg (by simpa using h)]

/-- **One option** is read, if it may be given once more. -/
theorem readFrom_given (hform : form.IsNamed) {g : Given ρ} (h : g.For form)
    (honce : g.repeatable = true ∨ g.name ∉ p.seen) (rest : List String) :
    form.readFrom p (g.word :: rest) =
      form.readFrom { p with value := g.set p.value, seen := g.name :: p.seen } rest := by
  have hname := hform.of_for h
  cases h with
  | setting s value hsetting hs hrepeatable hvalue hread =>
      have htake : takeValue p s value =
          .ok { p with value := g.set p.value, seen := g.name :: p.seen } := by
        unfold takeValue
        rw [hrepeatable, hs]
        by_cases hrepeat : g.repeatable = true
        · rw [if_pos hrepeat, hread]
          rfl
        · rw [if_neg hrepeat, once_eq (honce.resolve_left hrepeat), hread]
          rfl
      have hword : g.word = "--" ++ g.name ++ "=" ++ value := by rw [Given.word, hvalue]
      rw [hword, readFrom, Word.ofText_setting hname.1 hname.2]
      simp only [hsetting, htake]
  | flag f hsetting hvalue hrepeatable hflag hset hhelp hjson =>
      have hnew : g.name ∉ p.seen := honce.resolve_left (by rw [hrepeatable]; decide)
      have htake : form.takeFlag p g.name =
          .ok { p with value := g.set p.value, seen := g.name :: p.seen } := by
        rw [takeFlag, if_neg hhelp, once_eq hnew, hflag]
        simp only [if_neg hjson]
        rw [Option.map_some, hset]
        rfl
      have hword : g.word = "--" ++ g.name := by rw [Given.word, hvalue]
      rw [hword, readFrom, Word.ofText_flag hname.1 hname.2]
      simp only [hsetting, htake]

/-- **All options** are read, in whatever order they are given. -/
theorem readFrom_givens (hform : form.IsNamed) {gs : List (Given ρ)} (h : ∀ g ∈ gs, g.For form)
    (honce : gs.Pairwise fun g g' => g'.repeatable = true ∨ g'.name ≠ g.name)
    (hseen : ∀ g ∈ gs, g.repeatable = true ∨ g.name ∉ p.seen) (rest : List String) :
    form.readFrom p (gs.map Given.word ++ rest) =
      form.readFrom { p with
        value := gs.foldl (fun v g => g.set v) p.value
        seen := (gs.map Given.name).reverse ++ p.seen } rest := by
  induction gs generalizing p with
  | nil => rfl
  | cons g gs ih =>
      obtain ⟨hg, hgs⟩ := List.forall_mem_cons.1 h
      obtain ⟨hbefore, honce⟩ := List.pairwise_cons.1 honce
      obtain ⟨hfirst, hlater⟩ := List.forall_mem_cons.1 hseen
      rw [List.map_cons, List.cons_append, readFrom_given hform hg hfirst, ih hgs honce]
      · simp
      · intro g' hg'
        rcases hbefore g' hg' with hrepeat | hne
        · exact .inl hrepeat
        · refine (hlater g' hg').imp_right fun hnot hmem => ?_
          rcases List.mem_cons.1 hmem with heq | hmem
          · exact hne heq
          · exact hnot hmem

/-- **The words after two dashes** fill places, whatever they look like. -/
theorem readFrom_escape {words : List String} {p' : Progress ρ}
    (h : words.foldlM Progress.fill p = .ok p') :
    form.readFrom p ("--" :: words) = form.finish p' := by
  have hescape : Word.ofText "--" = .escape := by decide
  rw [readFrom, hescape]
  simp only [h]

/-- **A whole command line** of options, two dashes and words is read as what the options change, if
no required setting is missing and the words fill the places. -/
theorem read_givens (hform : form.IsNamed) {gs : List (Given ρ)} (h : ∀ g ∈ gs, g.For form)
    (honce : gs.Pairwise fun g g' => g'.repeatable = true ∨ g'.name ≠ g.name)
    (hrequired : ∀ s ∈ form.settings, s.required = true → s.name ∈ gs.map Given.name)
    {initial v : ρ} {words : List String}
    (hplaces : ∀ seen, words.foldlM Progress.fill
        ⟨gs.foldl (fun v g => g.set v) initial, false, seen, form.places⟩ =
      .ok ⟨v, false, seen, []⟩) :
    form.read initial (gs.map Given.word ++ "--" :: words) = .ok (v, false) := by
  have hmissing : form.settings.any (fun s => s.required &&
      !((gs.map Given.name).reverse ++ []).contains s.name) = false := by
    rw [List.any_eq_false]
    intro s hs
    by_cases hneeded : s.required = true
    · have hmem := hrequired s hs hneeded
      simpa [hneeded] using hmem
    · simp [hneeded]
  rw [read, readFrom_givens hform h honce fun g _ => .inr List.not_mem_nil,
    readFrom_escape (hplaces _), finish, hmissing]
  rfl

/-! ## Everything that is read -/

/-- Whatever the form reads keeps `P`. -/
structure Keeps (form : Form ρ) (P : ρ → Prop) : Prop where
  flags : ∀ f ∈ form.flags, ∀ v, P v → P (f.set v)
  settings : ∀ s ∈ form.settings, ∀ text change, s.read text = some change → ∀ v, P v → P (change v)
  places : ∀ s ∈ form.places, ∀ text change, s.read text = some change → ∀ v, P v → P (change v)

/-- `P` holds of what has been read, and the empty places are those of the form. -/
structure Holds (form : Form ρ) (P : ρ → Prop) (p : Progress ρ) : Prop where
  value : P p.value
  places : ∀ place ∈ p.places, place ∈ form.places

variable {P : ρ → Prop} {p' : Progress ρ}

theorem Holds.once {name : String} (hp : form.Holds P p) (h : p.once name = .ok p') :
    form.Holds P p' := by
  unfold Progress.once at h
  split at h
  · cases h
  · cases h
    exact ⟨hp.value, hp.places⟩

theorem Holds.update {change : Option (ρ → ρ)} (hp : form.Holds P p)
    (hchange : ∀ f, change = some f → ∀ v, P v → P (f v)) (h : p.update change = .ok p') :
    form.Holds P p' := by
  cases change with
  | none => cases h
  | some f =>
      cases h
      exact ⟨hchange f rfl p.value hp.value, hp.places⟩

theorem Holds.fill {word : String} (hkeeps : form.Keeps P) (hp : form.Holds P p)
    (h : p.fill word = .ok p') : form.Holds P p' := by
  unfold Progress.fill at h
  split at h
  · cases h
  · next place places hplaces =>
    have hall := hp.places
    rw [hplaces] at hall
    obtain ⟨hplace, hrest⟩ := List.forall_mem_cons.1 hall
    have hnext : form.Holds P { p with places := places } := ⟨hp.value, hrest⟩
    exact hnext.update (hkeeps.places place hplace word) h

theorem Holds.takeValue {s : Setting ρ} {text : String} (hkeeps : form.Keeps P)
    (hs : s ∈ form.settings) (hp : form.Holds P p) (h : Form.takeValue p s text = .ok p') :
    form.Holds P p' := by
  unfold Form.takeValue at h
  split at h
  · have hnext : form.Holds P { p with seen := s.name :: p.seen } := ⟨hp.value, hp.places⟩
    exact hnext.update (hkeeps.settings s hs text) h
  · split at h
    · cases h
    · next honce => exact (hp.once honce).update (hkeeps.settings s hs text) h

theorem Holds.takeFlag {name : String} (hkeeps : form.Keeps P) (hp : form.Holds P p)
    (h : form.takeFlag p name = .ok p') : form.Holds P p' := by
  unfold Form.takeFlag at h
  split at h
  · cases h
  · split at h
    · cases h
    · next honce =>
      split at h
      · cases h
        exact ⟨(hp.once honce).value, (hp.once honce).places⟩
      · refine (hp.once honce).update (fun set hset => ?_) h
        obtain ⟨f, hf, rfl⟩ := Option.map_eq_some_iff.1 hset
        exact hkeeps.flags f (List.mem_of_find?_eq_some hf)

theorem Holds.foldlM_fill {words : List String} (hkeeps : form.Keeps P) (hp : form.Holds P p)
    (h : words.foldlM Progress.fill p = .ok p') : form.Holds P p' := by
  induction words generalizing p with
  | nil =>
      cases h
      exact hp
  | cons word words ih =>
      obtain ⟨p₁, hfill, hrest⟩ := exceptBind_eq_ok.1 h
      exact ih (hp.fill hkeeps hfill) hrest

theorem finish_eq_ok {v : ρ} {asJson : Bool} (h : form.finish p = .ok (v, asJson)) :
    v = p.value := by
  unfold finish at h
  split at h
  · cases h
  · cases h
    rfl

theorem keeps_of_readFrom (hkeeps : form.Keeps P) {words : List String} {v : ρ} {asJson : Bool}
    (hp : form.Holds P p) (h : form.readFrom p words = .ok (v, asJson)) : P v := by
  fun_induction readFrom form p words with
  | case1 p => exact finish_eq_ok h ▸ hp.value
  | case3 p word rest hword p' hfill =>
      exact finish_eq_ok h ▸ (hp.foldlM_fill hkeeps hfill).value
  | case6 p word rest hword p' hfill ih => exact ih (hp.fill hkeeps hfill) h
  | case9 p word rest name value hword s hs p' htake ih =>
      exact ih (hp.takeValue hkeeps (mem_settings_of_setting? hs) htake) h
  | case11 p word rest name hword hs p' htake ih => exact ih (hp.takeFlag hkeeps htake) h
  | case15 p word name hword s hs value rest hplain p' htake ih =>
      exact ih (hp.takeValue hkeeps (mem_settings_of_setting? hs) htake) h
  -- the other words end the reading
  | _ => cases h

/-- **What every option and every place keeps** holds of all that is read. -/
theorem keeps_of_read (hkeeps : form.Keeps P) {initial v : ρ} {words : List String} {asJson : Bool}
    (hinitial : P initial) (h : form.read initial words = .ok (v, asJson)) : P v :=
  keeps_of_readFrom hkeeps ⟨hinitial, fun _ hplace => hplace⟩ h

end Form

/-! ## Parts of what is read -/

section Parts

variable {ι β : Type} (set : ι → ρ → ρ)

/-- A part that may be missing and that options replace is what the last of them says. -/
theorem get_foldl_or (get : ρ → Option β) (given? : ι → Option β)
    (h : ∀ o v, get (set o v) = (given? o).or (get v)) (os : List ι) (v : ρ) :
    get (os.foldl (fun v o => set o v) v) = ((os.filterMap given?).getLast?).or (get v) := by
  induction os using List.reverseRecOn with
  | nil => rfl
  | append_singleton os o ih =>
      rw [List.foldl_append, List.foldl_cons, List.foldl_nil, h, ih, List.filterMap_append,
        List.filterMap_cons, List.filterMap_nil]
      cases given? o with
      | none => simp
      | some b => simp

/-- A part that options replace is what the last of them says. -/
theorem get_foldl_set (get : ρ → β) (given? : ι → Option β)
    (h : ∀ o v, get (set o v) = (given? o).getD (get v)) (os : List ι) (v : ρ) :
    get (os.foldl (fun v o => set o v) v) = ((os.filterMap given?).getLast?).getD (get v) := by
  have hor := get_foldl_or set (fun v => some (get v)) given? (fun o v => by rw [h]; simp) os v
  rw [Option.or_some] at hor
  exact Option.some.inj hor

/-- A part that options add to is all that they say, in order. -/
theorem get_foldl_add (get : ρ → List β) (given? : ι → Option β)
    (h : ∀ o v, get (set o v) = get v ++ (given? o).toList) (os : List ι) (v : ρ) :
    get (os.foldl (fun v o => set o v) v) = get v ++ os.filterMap given? := by
  induction os generalizing v with
  | nil => simp
  | cons o os ih =>
      rw [List.foldl_cons, ih, h, List.append_assoc, List.filterMap_cons]
      cases given? o with
      | none => rfl
      | some b => rfl

/-- A part that no option changes is as at the start. -/
theorem get_foldl_same (get : ρ → β) (h : ∀ o v, get (set o v) = get v) (os : List ι) (v : ρ) :
    get (os.foldl (fun v o => set o v) v) = get v := by
  induction os generalizing v with
  | nil => rfl
  | cons o os ih => rw [List.foldl_cons, ih, h]

/-- What one option says is said if it is given. -/
theorem getLast?_filterMap_ite [DecidableEq ι] (o : ι) (b : β) (os : List ι) :
    (os.filterMap fun o' => if o' = o then some b else none).getLast? =
      if o ∈ os then some b else none := by
  induction os using List.reverseRecOn with
  | nil => rfl
  | append_singleton os o' ih =>
      rw [List.filterMap_append, List.filterMap_cons, List.filterMap_nil]
      by_cases h : o' = o
      · simp [h]
      · simpa [h, Ne.symm h] using ih

end Parts

/-! ## Actions -/

/-- Every action comes of words that the form of its command reads. -/
inductive Made : Action → Prop
  | health {asJson : Bool} {words : List String} (h : bareForm.read () words = .ok ((), asJson)) :
      Made .health
  | query {b : StatementBody} {asJson : Bool} {words : List String}
      (h : queryForm.read default words = .ok (b, asJson)) : Made (.query b)
  | search {r : SearchRequest} {asJson : Bool} {words : List String}
      (h : searchForm.read default words = .ok (r, asJson)) :
      Made (.search { r with page := r.page.normalized })
  | load {l : FileLoad} {asJson : Bool} {words : List String}
      (h : loadForm.read plainLoad words = .ok (l, asJson)) : Made (.load l)
  | ingest {file : String} {asJson : Bool} {words : List String}
      (h : ingestForm.read "" words = .ok (file, asJson)) : Made (.ingest file)
  | beginTxn {b : BeginBody} {asJson : Bool} {words : List String}
      (h : beginForm.read default words = .ok (b, asJson)) : Made (.beginTxn b)
  | endTxn (how : Client.Ending) {t : String × Int} {asJson : Bool} {words : List String}
      (h : endForm.read default words = .ok (t, asJson)) : Made (.endTxn how t.1 t.2)
  | listTxns {openOnly asJson : Bool} {words : List String}
      (h : listForm.read false words = .ok (openOnly, asJson)) : Made (.listTxns openOnly)
  | schema {t : String × String} {asJson : Bool} {words : List String}
      (h : schemaForm.read default words = .ok (t, asJson)) : Made (.schema t.1 t.2)

theorem readBy_eq_ok {form : Form ρ} {initial : ρ} {make : ρ → Action} {words : List String}
    {i : Invocation} (h : readBy form initial make words = .ok i) :
    ∃ v asJson, form.read initial words = .ok (v, asJson) ∧ i = ⟨make v, asJson⟩ := by
  obtain ⟨⟨v, asJson⟩, hread, rfl⟩ := exceptMap_eq_ok.1 h
  exact ⟨v, asJson, hread, rfl⟩

theorem made_of_readTxn {words : List String} {i : Invocation} (h : readTxn words = .ok i) :
    Made i.action := by
  unfold readTxn at h
  obtain ⟨⟨name, early, rest⟩, -, hchosen⟩ := exceptBind_eq_ok.1 h
  obtain ⟨i', hcommand, rfl⟩ := exceptMap_eq_ok.1 hchosen
  show Made i'.action
  split at hcommand
  · obtain ⟨b, asJson, hread, rfl⟩ := readBy_eq_ok hcommand
    exact .beginTxn hread
  · obtain ⟨t, asJson, hread, rfl⟩ := readBy_eq_ok hcommand
    exact .endTxn .commit hread
  · obtain ⟨t, asJson, hread, rfl⟩ := readBy_eq_ok hcommand
    exact .endTxn .abort hread
  · obtain ⟨openOnly, asJson, hread, rfl⟩ := readBy_eq_ok hcommand
    exact .listTxns hread
  · cases hcommand

/-- **What a command line asks for** is what the form of its command reads. -/
theorem made_of_read {words : List String} {i : Invocation} (h : Invocation.read words = .ok i) :
    Made i.action := by
  unfold Invocation.read at h
  obtain ⟨⟨name, early, rest⟩, -, hchosen⟩ := exceptBind_eq_ok.1 h
  obtain ⟨i', hcommand, rfl⟩ := exceptMap_eq_ok.1 hchosen
  show Made i'.action
  split at hcommand
  · obtain ⟨⟨⟩, asJson, hread, rfl⟩ := readBy_eq_ok hcommand
    exact .health hread
  · obtain ⟨b, asJson, hread, rfl⟩ := readBy_eq_ok hcommand
    exact .query hread
  · obtain ⟨r, asJson, hread, rfl⟩ := readBy_eq_ok hcommand
    exact .search hread
  · obtain ⟨l, asJson, hread, rfl⟩ := readBy_eq_ok hcommand
    exact .load hread
  · obtain ⟨file, asJson, hread, rfl⟩ := readBy_eq_ok hcommand
    exact .ingest hread
  · exact made_of_readTxn hcommand
  · obtain ⟨t, asJson, hread, rfl⟩ := readBy_eq_ok hcommand
    exact .schema hread
  · cases hcommand

/-- What is read as a text keeps what every text keeps. -/
theorem keeps_textValue {P : ρ → Prop} {set : String → ρ → ρ} (h : ∀ s v, P v → P (set s v))
    (text : String) (change : ρ → ρ) (hread : textValue set text = some change) (v : ρ)
    (hv : P v) : P (change v) := by
  obtain rfl := Option.some.inj hread
  exact h text v hv

end Cli

end StoreGate
