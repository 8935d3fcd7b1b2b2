import PictureTransfer.Config.Basic
import PictureTransfer.Numeral

/-!
# Command lines

A command line is a run of options, a command, and the command's own options
and words.  An option with a value has it in the next argument or behind an
equals sign; short options may share an argument, and the last of them may
have its value right behind it.  Each option may be given once.

`Invocation.ofArguments` says what a command line asks for.  The first thing
that is wrong, or that asks for help, decides.
-/

namespace PictureTransfer

/-- What to do with a responder. -/
inductive Command where
  | info
  | storages
  | objects (storageId : UInt32)
  | get (handle : UInt32) (output : String) (thumb : Bool)
  | capture (storageId : UInt32) (seconds : UInt64)
  | listen (seconds : UInt64)
  | probe
  deriving DecidableEq, Repr

/-- The commands by name, and the command that explains the others. -/
inductive CommandName where
  | info | storages | objects | get | capture | listen | probe | help
  deriving DecidableEq, Repr

namespace CommandName

/-- Every command, in the order in which they are listed. -/
def all : List CommandName := [info, storages, objects, get, capture, listen, probe, help]

/-- The word for a command. -/
def text : CommandName → String
  | info => "info"
  | storages => "storages"
  | objects => "objects"
  | get => "get"
  | capture => "capture"
  | listen => "listen"
  | probe => "probe"
  | help => "help"

/-- The command of a word. -/
def ofText? (text : String) : Option CommandName := all.find? (·.text = text)

end CommandName

/-- What a command line sets; what it leaves out is up to the configuration. -/
structure Settings where
  config : Option String := none
  host : Option String := none
  port : Option UInt16 := none
  guid : Option Guid := none
  name : Option String := none
  sessionId : Option UInt32 := none
  verbose : Bool := false
  deriving DecidableEq

/-- What a command line asks for. -/
inductive Invocation where
  | run (settings : Settings) (command : Command)
  /-- Help on a command, or on all of them. -/
  | help (topic : Option CommandName)
  | version
  | misuse
  deriving DecidableEq

/-- How an option is written, and whether a value comes with it. -/
structure OptionForm where
  long : String
  short : Option Char := none
  valued : Bool := true
  deriving DecidableEq, Repr

/-- The options and words of one level of a command line, with what they do to
what has been gathered so far.  Nothing comes of an option or a word that has
no place there. -/
structure Level (σ : Type) where
  forms : List OptionForm
  set : OptionForm → String → σ → Option σ
  word : String → σ → Option σ
  /-- True when the version may be asked for. -/
  versioned : Bool := false
  /-- True for words that open the next level. -/
  opens : String → Bool := fun _ => false

/-- Where the reading of a level stops. -/
inductive Stop (σ : Type) where
  | done (gathered : σ)
  /-- At a word that opens the next level.  The value of the last option may
  not have been looked at yet. -/
  | opened (gathered : σ) (pending : Option (OptionForm × String)) (word : String)
      (rest : List String)
  | help
  | version
  | misuse

namespace Level

variable {σ : Type}

/-- The form that asks for help. -/
def helpForm : OptionForm := ⟨"help", some 'h', false⟩

/-- The form that asks for the version. -/
def versionForm : OptionForm := ⟨"version", some 'V', false⟩

/-- Every form of a level. -/
def allForms (level : Level σ) : List OptionForm :=
  level.forms ++ [helpForm] ++ if level.versioned then [versionForm] else []

/-- Looks at the value of an option that is still to be looked at. -/
def resolve (level : Level σ) (pending : Option (OptionForm × String)) (gathered : σ) :
    Option σ :=
  match pending with
  | some (form, value) => level.set form value gathered
  | none => some gathered

/-- What an argument of short options comes to. -/
inductive Cluster (σ : Type) where
  | flags (gathered : σ)
  /-- The last option still needs its value. -/
  | waits (gathered : σ) (form : OptionForm)
  | stop (stop : Stop σ)

/-- Reads an argument of short options. -/
def cluster (level : Level σ) (gathered : σ) : List Char → Cluster σ
  | [] => .flags gathered
  | c :: rest =>
      match level.allForms.find? (·.short = some c) with
      | none => .stop .misuse
      | some form =>
          if form = helpForm then .stop .help
          else if form = versionForm then .stop .version
          else if form.valued then
            match rest with
            | [] => .waits gathered form
            | '=' :: value | value =>
                match level.set form (String.ofList value) gathered with
                | some gathered => .flags gathered
                | none => .stop .misuse
          else
            match level.set form "" gathered with
            | some gathered => cluster level gathered rest
            | none => .stop .misuse

/-- The name of a long option, and the value behind its equals sign. -/
def longParts (text : List Char) : String × Option String :=
  let name := text.takeWhile (· ≠ '=')
  match text.dropWhile (· ≠ '=') with
  | _ :: value => (String.ofList name, some (String.ofList value))
  | [] => (String.ofList name, none)

/-- Reads an argument with a long option. -/
def long (level : Level σ) (gathered : σ) (text : List Char) : Cluster σ :=
  let (name, attached) := longParts text
  match level.allForms.find? (·.long = name), attached with
  | none, _ => .stop .misuse
  | some form, some value =>
      if form.valued then
        match level.set form value gathered with
        | some gathered => .flags gathered
        | none => .stop .misuse
      else .stop .misuse
  | some form, none =>
      if form = helpForm then .stop .help
      else if form = versionForm then .stop .version
      else if form.valued then .waits gathered form
      else
        match level.set form "" gathered with
        | some gathered => .flags gathered
        | none => .stop .misuse

/-- True for an argument that holds options, and not a value or a word. -/
def isOption (argument : String) : Bool :=
  argument.toList.head? = some '-' && argument ≠ "-"

/-- Takes words alone, as behind a double hyphen. -/
def words (level : Level σ) (gathered : σ) : List String → Stop σ
  | [] => .done gathered
  | argument :: rest =>
      match level.word argument gathered with
      | some gathered => words level gathered rest
      | none => .misuse

/-- Reads a level, the value of the last option pending. -/
def read (level : Level σ) (pending : Option (OptionForm × String)) (gathered : σ) :
    List String → Stop σ
  | [] =>
      match level.resolve pending gathered with
      | some gathered => .done gathered
      | none => .misuse
  | argument :: rest =>
      if !isOption argument && level.opens argument then
        .opened gathered pending argument rest
      else
        match level.resolve pending gathered with
        | none => .misuse
        | some gathered =>
            if argument = "--" then words level gathered rest
            else if isOption argument then
              let found := match argument.toList with
                | '-' :: '-' :: text => long level gathered text
                | text => cluster level gathered (text.drop 1)
              match found, rest with
              | .stop stop, _ => stop
              | .flags gathered, rest => read level none gathered rest
              | .waits gathered form, value :: rest =>
                  if isOption value then .misuse
                  else read level (some (form, value)) gathered rest
              | .waits _ _, [] => .misuse
            else
              match level.word argument gathered with
              | some gathered => read level none gathered rest
              | none => .misuse

end Level

/-! Values of options. -/

/-- A number of a given size, in decimal with a sign or none. -/
def sized? (limit : Nat) (text : String) : Option Nat :=
  match Numeral.integer? text.toList with
  | some n => if 0 ≤ n then Numeral.below limit n.toNat else none
  | none => none

/-- A count, in decimal without a minus sign. -/
def count? (text : String) : Option UInt64 :=
  ((Numeral.natural? 10 text.toList).bind (Numeral.below UInt64.size)).map UInt64.ofNat

/-- A storage or an object, in decimal or in hexadecimal behind `0x`. -/
def handle? (text : String) : Option UInt32 :=
  let n := match text.toList with
    | '0' :: 'x' :: ds | '0' :: 'X' :: ds => Numeral.natural? 16 ds
    | ds => Numeral.natural? 10 ds
  (n.bind (Numeral.below UInt32.size)).map UInt32.ofNat

/-- The name of a file, which cannot be empty. -/
def path? (text : String) : Option String := if text.isEmpty then none else some text

/-- Gives an option its value, once. -/
def once {α : Type} (old : Option α) (value : Option α) : Option (Option α) :=
  match old with
  | some _ => none
  | none => value.map some

namespace Settings

/-- Gives one of the options that all commands share its value. -/
def set (form : OptionForm) (value : String) (s : Settings) : Option Settings :=
  match form.long with
  | "config" => do pure { s with config := ← once s.config (path? value) }
  | "host" => do pure { s with host := ← once s.host (some value) }
  | "port" => do
      pure { s with port := ← once s.port ((sized? UInt16.size value).map UInt16.ofNat) }
  | "guid" => do pure { s with guid := ← once s.guid (Guid.ofText? value) }
  | "name" => do pure { s with name := ← once s.name (some value) }
  | "session-id" => do
      pure { s with sessionId := ← once s.sessionId ((sized? UInt32.size value).map UInt32.ofNat) }
  | "verbose" => if s.verbose then none else some { s with verbose := true }
  | _ => none

/-- The level in front of the command. -/
def level : Level Settings where
  forms :=
    [⟨"config", some 'c', true⟩, ⟨"host", none, true⟩, ⟨"port", none, true⟩,
      ⟨"guid", none, true⟩, ⟨"name", none, true⟩, ⟨"session-id", none, true⟩,
      ⟨"verbose", some 'v', false⟩]
  set := set
  word := fun _ _ => none
  versioned := true
  opens := fun word => (CommandName.ofText? word).isSome

/-- The configuration with what the command line sets. -/
def applyTo (s : Settings) (c : Config) : Config :=
  { c with
    host := s.host.getD c.host
    port := s.port.getD c.port
    guid := s.guid.getD c.guid
    name := s.name.getD c.name }

/-- The number to open a session with. -/
def openedSession (s : Settings) : UInt32 := s.sessionId.getD 1

end Settings

namespace Command

/-- What has been gathered for a command: its number, its time, its word, the
file it writes, and whether it is about thumbnails. -/
structure Draft where
  storage : Option UInt32 := none
  seconds : Option UInt64 := none
  handle : Option UInt32 := none
  output : Option String := none
  thumb : Bool := false

/-- The option that names a storage. -/
def storageForm : OptionForm := { long := "storage" }

/-- The options of a command. -/
def forms : CommandName → List OptionForm
  | .objects => [storageForm]
  | .get => [⟨"output", some 'o', true⟩, ⟨"thumb", none, false⟩]
  | .capture => [storageForm, { long := "wait" }]
  | .listen => [{ long := "seconds" }]
  | _ => []

/-- Gives an option of a command its value. -/
def set (form : OptionForm) (value : String) (d : Draft) : Option Draft :=
  match form.long with
  | "storage" => do pure { d with storage := ← once d.storage (handle? value) }
  | "wait" | "seconds" => do pure { d with seconds := ← once d.seconds (count? value) }
  | "output" => do pure { d with output := ← once d.output (path? value) }
  | "thumb" => if d.thumb then none else some { d with thumb := true }
  | _ => none

/-- The level behind a command. -/
def level (name : CommandName) : Level Draft where
  forms := forms name
  set := set
  word := fun word d =>
    if name = .get then do pure { d with handle := ← once d.handle (handle? word) } else none

/-- The command that a draft makes, if nothing is missing. -/
def ofDraft? (name : CommandName) (d : Draft) : Option Command :=
  match name with
  | .info => some info
  | .storages => some storages
  | .objects => some (objects (d.storage.getD 0xFFFFFFFF))
  | .get => do pure (get (← d.handle) (← d.output) d.thumb)
  | .capture => some (capture (d.storage.getD 0) (d.seconds.getD 10))
  | .listen => some (listen (d.seconds.getD 30))
  | .probe => some probe
  | .help => none

end Command

namespace Invocation

/-- What the words behind the command that explains ask for. -/
def ofHelp : List String → Invocation
  | [] => help none
  | [word] =>
      match CommandName.ofText? word with
      | some name => help (some name)
      | none => misuse
  | _ => misuse

/-- What a command with its arguments asks for, once the options in front of
it are settled. -/
def ofCommand (settings : Option Settings) (name : CommandName) (arguments : List String) :
    Invocation :=
  if name = .help then ofHelp arguments
  else
    match (Command.level name).read none {} arguments with
    | .done draft =>
        match Command.ofDraft? name draft, settings with
        | some command, some settings => run settings command
        | _, _ => misuse
    | .help => help (some name)
    | _ => misuse

/-- What a command line asks for.  A command is needed. -/
def ofArguments (arguments : List String) : Invocation :=
  match Settings.level.read none {} arguments with
  | .opened settings pending word rest =>
      match CommandName.ofText? word with
      | some name => ofCommand (Settings.level.resolve pending settings) name rest
      | none => misuse
  | .help => help none
  | .version => version
  | .done _ | .misuse => misuse

end Invocation

end PictureTransfer
