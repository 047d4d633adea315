import AgentTrial.Config.Harness
import AgentTrial.Text.Digit

/-!
# Command-line arguments

The arguments of the program, word by word: options by a short or a long name, values attached to
an option or in the word after it, and values by their place.

- `Arguments` is what a run is told.
- `Word.of` says what a word looks like, `Scan.word` what it does.
- `Arguments.ofWords` reads all words.

A value is looked at only when the next option or the next value by place turns up, or the words end;
so of two mistakes the later one can be the one that is told.
-/

namespace AgentTrial.CommandLine

/-- Why there is no run: help or the version is asked for, or the words make no sense. -/
inductive Refusal where
  | help
  | version
  /-- No word says anything. -/
  | nothingGiven
  | missingCommand
  | unknownCommand
  | unknownArgument
  /-- A value that has no default is not given. -/
  | missingArgument
  /-- An option that takes a value is given none. -/
  | missingValue
  /-- A value does not read as what it should be. -/
  | invalidValue
  /-- An option that takes no value is given one. -/
  | unexpectedValue
  /-- An option is given twice. -/
  | repeated
  deriving DecidableEq, Repr

/-- What a run is told. -/
structure Arguments where
  logLevel : String := "info"
  tasksDir : String := ""
  parallelism : Nat := 1
  agentConfig : String := "agent.yaml"
  config : Option String := none
  output : String := "result.json"
  testTimeout : Option Nat := none
  uploadStrategy : Option UploadStrategy := none
  keepSandbox : Bool := false
  json : Bool := false
  deriving DecidableEq, Repr

/-- What can be given. -/
inductive Slot where
  | help
  | version
  | logLevel
  | tasksDir
  | parallelism
  | agentConfig
  | config
  | output
  | testTimeout
  | uploadStrategy
  | keepSandbox
  | json
  deriving DecidableEq, Repr

/-- Numbers among the arguments are words of 64 bits. -/
def numberBound : Nat := Nat.pow 2 64

/-- The arguments with a slot set to the value that a text writes. -/
def Arguments.set (args : Arguments) (text : String) : Slot → Except Refusal Arguments
  | .help => .error .help
  | .version => .error .version
  | .logLevel => .ok { args with logLevel := text }
  | .tasksDir => .ok { args with tasksDir := text }
  | .parallelism =>
    match Text.boundedNat? numberBound text.toList with
    | some n => .ok { args with parallelism := n }
    | none => .error .invalidValue
  | .agentConfig => .ok { args with agentConfig := text }
  | .config => .ok { args with config := some text }
  | .output => .ok { args with output := text }
  | .testTimeout =>
    match Text.boundedNat? numberBound text.toList with
    | some n => .ok { args with testTimeout := some n }
    | none => .error .invalidValue
  | .uploadStrategy =>
    match UploadStrategy.ofText text with
    | .ok strategy => .ok { args with uploadStrategy := some strategy }
    | .error _ => .error .invalidValue
  | .keepSandbox => .ok { args with keepSandbox := true }
  | .json => .ok { args with json := true }

/-! ## What is understood -/

/-- An option by its names. -/
structure Switch where
  slot : Slot
  short : Option Char
  long : String
  takesValue : Bool

/-- The program itself, and its one command. -/
inductive Command where
  | top
  | run
  deriving DecidableEq, Repr

namespace Command

def helpSwitch : Switch := ⟨.help, some 'h', "help", false⟩

def logLevelSwitch : Switch := ⟨.logLevel, some 'l', "log-level", true⟩

/-- The options of a command. -/
def switches : Command → List Switch
  | .top => [helpSwitch, ⟨.version, some 'V', "version", false⟩, logLevelSwitch]
  | .run =>
    [helpSwitch, logLevelSwitch, ⟨.config, some 'c', "config", true⟩,
      ⟨.output, some 'o', "output", true⟩, ⟨.testTimeout, none, "test-timeout", true⟩,
      ⟨.uploadStrategy, none, "upload-strategy", true⟩,
      ⟨.keepSandbox, none, "keep-sandbox", false⟩, ⟨.json, some 'j', "json", false⟩]

/-- The values of a command that are told apart by their place. -/
def places : Command → List Slot
  | .top => []
  | .run => [.tasksDir, .parallelism, .agentConfig]

end Command

/-- What a word after the program's own options can start. -/
inductive Verb where
  | run
  | help
  deriving DecidableEq, Repr

/-- The verb that a word is. -/
def Verb.ofWord? : String → Option Verb
  | "run" => some .run
  | "eval" => some .run
  | "help" => some .help
  | _ => none

/-- Why a word with no place left is refused. -/
def Command.surplus (command : Command) (trailing : Bool) (word : String) : Refusal :=
  match command with
  | .run => .unknownArgument
  | .top =>
    if trailing && (Verb.ofWord? word).isSome then .unknownArgument else .unknownCommand

/-! ## Words -/

/-- What a word looks like. -/
inductive Word where
  /-- After it there are no more options. -/
  | separator
  /-- An option by its long name, with the value after an equals sign. -/
  | long (name : String) (value : Option String)
  /-- Options by their short names, and maybe a value for the last one. -/
  | short (flags : List Char)
  | plain
  deriving DecidableEq, Repr

def Word.of (word : String) : Word :=
  match word.toList with
  | ['-', '-'] => .separator
  | '-' :: '-' :: rest =>
    let name := String.ofList (rest.takeWhile (· ≠ '='))
    match rest.dropWhile (· ≠ '=') with
    | [] => .long name none
    | _ :: value => .long name (some (String.ofList value))
  | '-' :: c :: rest => .short (c :: rest)
  | _ => .plain

/-- How far the words have been read. -/
structure Scan where
  args : Arguments := {}
  given : List Slot := []
  /-- A slot whose value has not been looked at, or is still to come. -/
  pending : Option (Slot × Option String) := none
  places : List Slot
  /-- Whether the separator has been met. -/
  trailing : Bool := false

namespace Scan

def begin (command : Command) : Scan := { places := command.places }

/-- Gives a slot its value. -/
def give (s : Scan) (slot : Slot) (text : String) : Except Refusal Scan :=
  if slot ∈ s.given then .error .repeated
  else match s.args.set text slot with
    | .ok args => .ok { s with args, given := slot :: s.given }
    | .error refusal => .error refusal

/-- Looks at the value that is pending. -/
def settle (s : Scan) : Except Refusal Scan :=
  match s.pending with
  | none => .ok s
  | some (_, none) => .error .missingValue
  | some (slot, some text) => { s with pending := none }.give slot text

/-- Whether the next word is the value of an option. -/
def awaitsValue (s : Scan) : Bool :=
  match s.pending with
  | some (_, none) => true
  | _ => false

/-- An option without a value, or with the value in the next word. -/
def switch (s : Scan) (switch : Switch) : Except Refusal Scan := do
  let s ← s.settle
  if switch.takesValue then return { s with pending := some (switch.slot, none) }
  else s.give switch.slot ""

/-- An option with its value. -/
def attached (s : Scan) (switch : Switch) (text : String) : Except Refusal Scan := do
  (← s.settle).give switch.slot text

/-- An option by its long name. -/
def long (command : Command) (s : Scan) (name : String) (value : Option String) :
    Except Refusal Scan :=
  match command.switches.find? (·.long = name) with
  | none => .error .unknownArgument
  | some found =>
    match value with
    | none => s.switch found
    | some text => if found.takesValue then s.attached found text else .error .unexpectedValue

/-- Options by their short names. What follows one that takes a value is its value. -/
def short (command : Command) : Scan → List Char → Except Refusal Scan
  | s, [] => .ok s
  | s, c :: rest =>
    match command.switches.find? (·.short = some c) with
    | none => .error .unknownArgument
    | some found =>
      if found.takesValue && !rest.isEmpty then
        s.attached found (String.ofList (if rest.head? = some '=' then rest.tail else rest))
      else match s.switch found with
        | .ok s => short command s rest
        | .error refusal => .error refusal

/-- A value by its place. -/
def place (command : Command) (s : Scan) (word : String) : Except Refusal Scan :=
  match s.places with
  | [] => .error (command.surplus s.trailing word)
  | slot :: places => do
    let s ← s.settle
    return { s with pending := some (slot, some word), places }

/-- Reads a word. -/
def word (command : Command) (s : Scan) (word : String) : Except Refusal Scan :=
  if s.trailing then s.place command word
  else match Word.of word with
    | .separator => .ok { s with trailing := true }
    | .long name value => s.long command name value
    | .short flags => s.short command flags
    | .plain =>
      match s.pending with
      | some (slot, none) => .ok { s with pending := some (slot, some word) }
      | _ => s.place command word

end Scan

/-! ## All words -/

/-- Reads the words of a run. Where no option names the settings, `config` from outside does. -/
def Scan.ofRun (config : Option String) (words : List String) : Except Refusal Scan := do
  let s ← (← words.foldlM (Scan.word .run) (.begin .run)).settle
  let s := if .config ∈ s.given then s else { s with args := { s.args with config } }
  if .tasksDir ∈ s.given then return s else throw .missingArgument

/-- What becomes of a request for help on some words. -/
def helpOn : List String → Refusal
  | [] => .help
  | [word] => if (Verb.ofWord? word).isSome then .help else .unknownCommand
  | _ => .unknownCommand

/-- Reads the words from the program's own options on. The log level of the run goes before that of
the program. -/
def Scan.ofProgram (config : Option String) : Scan → List String → Except Refusal Arguments
  | s, [] => do
    let s ← s.settle
    throw (if s.given.isEmpty then .nothingGiven else .missingCommand)
  | s, word :: rest =>
    match if s.trailing || s.awaitsValue then none else Verb.ofWord? word with
    | some .help => .error (helpOn rest)
    | some .run => do
      let run ← Scan.ofRun config rest
      let top ← s.settle
      if .logLevel ∈ run.given then return run.args
      else return { run.args with logLevel := top.args.logLevel }
    | none =>
      match s.word .top word with
      | .ok s => Scan.ofProgram config s rest
      | .error refusal => .error refusal

/-- Reads the words of a command line; `config` names the settings where no option does. -/
def Arguments.ofWords (config : Option String) (words : List String) : Except Refusal Arguments :=
  Scan.ofProgram config (.begin .top) words

end AgentTrial.CommandLine
