/-!
# Command lines

A command line is a list of words. A word that begins with two dashes names a flag or a setting,
whose value follows an equals sign or is the next word; all other words fill places in order.
After a word of two dashes alone every word fills a place. One flag, `--json`, is known everywhere.

* `Form` — the flags, settings and places of a command.
* `Form.read` — reads the words of a command; the first word that is wrong, or asks for help, ends
  the reading.
* `choose` — reads up to the name of a command.
-/

namespace StoreGate

namespace Cli

/-! ## Words -/

/-- A word by its dashes. -/
inductive Word where
  | plain
  /-- Two dashes, a name, and a value after an equals sign. -/
  | long (name : String) (value : Option String)
  /-- One dash and a letter, whatever follows. -/
  | short (letter : Char)
  /-- Two dashes alone. -/
  | escape
deriving DecidableEq, Repr

namespace Word

def ofText (s : String) : Word :=
  match s.toList with
  | ['-', '-'] => .escape
  | '-' :: '-' :: rest =>
    let name := String.ofList (rest.takeWhile fun c => c != '=')
    match rest.dropWhile fun c => c != '=' with
    | [] => .long name none
    | _ :: value => .long name (some (String.ofList value))
  | '-' :: letter :: _ => .short letter
  | _ => .plain

end Word

/-- Why a command line is not carried out. -/
inductive Stop where
  | help
  | version
  | misuse
deriving DecidableEq, Repr

/-! ## Forms -/

structure Flag (ρ : Type) where
  name : String
  set : ρ → ρ

/-- A named value. -/
structure Setting (ρ : Type) where
  name : String
  required : Bool
  repeatable : Bool
  read : String → Option (ρ → ρ)

/-- A value without a name. -/
structure Place (ρ : Type) where
  required : Bool
  read : String → Option (ρ → ρ)

/-- What the words of a command may be. -/
structure Form (ρ : Type) where
  flags : List (Flag ρ)
  settings : List (Setting ρ)
  places : List (Place ρ)

/-- What has been read so far. -/
structure Progress (ρ : Type) where
  value : ρ
  /-- Output as JSON is asked for. -/
  asJson : Bool
  /-- The flags and settings that were given. -/
  seen : List String
  /-- The places that are still empty. -/
  places : List (Place ρ)

/-- The flag that is known everywhere. -/
def jsonFlag : String := "json"

def helpFlag : String := "help"

def helpLetter : Char := 'h'

namespace Progress

variable {ρ : Type}

/-- Notes a name that may be given once. -/
def once (p : Progress ρ) (name : String) : Except Stop (Progress ρ) :=
  if p.seen.contains name then .error .misuse else .ok { p with seen := name :: p.seen }

/-- Changes the value, if the word could be read. -/
def update (p : Progress ρ) (change : Option (ρ → ρ)) : Except Stop (Progress ρ) :=
  match change with
  | some f => .ok { p with value := f p.value }
  | none => .error .misuse

/-- Fills the next place. -/
def fill (p : Progress ρ) (word : String) : Except Stop (Progress ρ) :=
  match p.places with
  | [] => .error .misuse
  | place :: places => { p with places := places }.update (place.read word)

end Progress

namespace Form

variable {ρ : Type}

/-- Takes a flag without a value. -/
def takeFlag (form : Form ρ) (p : Progress ρ) (name : String) : Except Stop (Progress ρ) :=
  if name = helpFlag then .error .help
  else
    match p.once name with
    | .error e => .error e
    | .ok p =>
      if name = jsonFlag then .ok { p with asJson := true }
      else p.update ((form.flags.find? fun f => f.name == name).map Flag.set)

/-- Takes the value of a setting. -/
def takeValue (p : Progress ρ) (s : Setting ρ) (value : String) : Except Stop (Progress ρ) :=
  if s.repeatable then { p with seen := s.name :: p.seen }.update (s.read value)
  else
    match p.once s.name with
    | .error e => .error e
    | .ok p => p.update (s.read value)

def setting? (form : Form ρ) (name : String) : Option (Setting ρ) :=
  form.settings.find? fun s => s.name == name

/-- Nothing that is required is missing. -/
def finish (form : Form ρ) (p : Progress ρ) : Except Stop (ρ × Bool) :=
  if form.settings.any (fun s => s.required && !p.seen.contains s.name) ||
      p.places.any (fun place => place.required) then .error .misuse
  else .ok (p.value, p.asJson)

/-- Reads words in turn. -/
def readFrom (form : Form ρ) (p : Progress ρ) : List String → Except Stop (ρ × Bool)
  | [] => form.finish p
  | word :: rest =>
    match Word.ofText word with
    | .escape =>
      match rest.foldlM Progress.fill p with
      | .error e => .error e
      | .ok p => form.finish p
    | .short letter => .error (if letter = helpLetter then .help else .misuse)
    | .plain =>
      match p.fill word with
      | .error e => .error e
      | .ok p => readFrom form p rest
    | .long name (some value) =>
      match form.setting? name with
      | none => .error .misuse
      | some s =>
        match takeValue p s value with
        | .error e => .error e
        | .ok p => readFrom form p rest
    | .long name none =>
      match form.setting? name with
      | none =>
        match form.takeFlag p name with
        | .error e => .error e
        | .ok p => readFrom form p rest
      | some s =>
        match rest with
        | [] => .error .misuse
        | value :: rest =>
          if Word.ofText value ≠ .plain then .error .misuse
          else
            match takeValue p s value with
            | .error e => .error e
            | .ok p => readFrom form p rest

/-- Reads the words of a command: its value, and whether output as JSON is asked for. -/
def read (form : Form ρ) (initial : ρ) (words : List String) : Except Stop (ρ × Bool) :=
  form.readFrom ⟨initial, false, [], form.places⟩ words

end Form

/-! ## Names of commands -/

/-- The command that shows the help of another one. -/
def helpCommand : String := "help"

/-- Reads up to the name of a command: the name, whether output as JSON is asked for, and the words
that follow. `hasVersion` tells whether the version may be asked for here. -/
def chooseFrom (hasVersion : Bool) (names : List String) (asJson : Bool) :
    List String → Except Stop (String × Bool × List String)
  | [] => .error .misuse
  | word :: rest =>
    if names.contains word then .ok (word, asJson, rest)
    else
      match Word.ofText word with
      | .long name none =>
        if name = helpFlag then .error .help
        else if hasVersion && name == "version" then .error .version
        else if name = jsonFlag ∧ !asJson then chooseFrom hasVersion names true rest
        else .error .misuse
      | .short letter =>
        .error (if letter = helpLetter then .help
          else if hasVersion && letter == 'V' then .version
          else .misuse)
      | _ => .error .misuse

def choose (hasVersion : Bool) (names words : List String) :
    Except Stop (String × Bool × List String) :=
  chooseFrom hasVersion names false words

end Cli

end StoreGate
