import DialogueTree.Decimal.Whole
import DialogueTree.Player.Agent

/-!
# Arguments of the command line

A command is named by one or two words; its options follow, each at most once, as `--name value`
or `--name=value`. Where the value is an argument of its own it must not look like an option. At
every level `--verbose` may be given once, and the first request for help ends the reading.

* `Command.parse`: the command that arguments give.
-/

namespace DialogueTree

/-- Why there is no command to run. -/
inductive Refusal where
  /-- Help has been asked for. -/
  | help
  /-- The arguments make no command. -/
  | invalid
  deriving DecidableEq

/-- What a command line asks for. -/
inductive Command where
  | start (b : Beginning) (stateOut : Path)
  | next (stateIn stateOut : Path)
  | choose (stateIn : Path) (choice : Nat) (stateOut : Path)
  | play (b : Beginning) (saveFile : Path)
  deriving DecidableEq

/-- An option and what its value must be. -/
structure OptionRule where
  name : String
  accepts : String → Bool := fun _ => true

/-- Values of options by name. -/
abbrev Options := List (String × String)

namespace Options

/-- Whether an argument is a request for help: the long form, or a group of short ones that
starts with it. -/
def isHelp (arg : String) : Bool := arg == "--help" || ['-', 'h'].isPrefixOf arg.toList

/-- Whether an argument can be a value that stands by itself. -/
def isValue (arg : String) : Bool := arg == "-" || arg.toList.head? != some '-'

/-- The name and the value of an argument that joins them with an equals sign. -/
def joined? (arg : String) : Option (String × String) :=
  let cs := arg.toList
  match cs.dropWhile (· != '=') with
  | [] => none
  | _ :: value => some (String.ofList (cs.takeWhile (· != '=')), String.ofList value)

/-- Adds a value if the option is known, not given yet, and takes it. -/
def give (rules : List OptionRule) (given : Options) (arg value : String) :
    Except Refusal Options :=
  match rules.find? (fun r => "--" ++ r.name == arg) with
  | some r =>
    if (given.lookup r.name).isNone && r.accepts value then .ok ((r.name, value) :: given)
    else .error .invalid
  | none => .error .invalid

/-- Reads options up to the end of the arguments. -/
def read (rules : List OptionRule) : Options → Bool → List String → Except Refusal Options
  | given, _, [] => .ok given
  | given, verbose, arg :: rest =>
    if isHelp arg then .error .help
    else if arg = "--" then if rest = [] then .ok given else .error .invalid
    else if arg = "--verbose" then
      if verbose then .error .invalid else read rules given true rest
    else match joined? arg with
      | some (name, value) => do read rules (← give rules given name value) verbose rest
      | none => match rest with
        | value :: rest =>
          if isValue value then do read rules (← give rules given arg value) verbose rest
          else .error .invalid
        | [] => .error .invalid

/-- The value of an option that must be given. -/
def required (given : Options) (name : String) : Except Refusal String :=
  match given.lookup name with
  | some value => .ok value
  | none => .error .invalid

end Options

namespace Command

/-- A whole number as the value of an option. -/
def numberRule : OptionRule := ⟨"start-id", fun s => (Whole.int32? s).isSome⟩

/-- The number of a choice as the value of an option. -/
def choiceRule : OptionRule := ⟨"choice", fun s => (Whole.index? s).isSome⟩

/-- The options that say which conversation to start. -/
def beginningRules : List OptionRule :=
  [⟨"trees-dir", fun _ => true⟩, ⟨"tree", fun _ => true⟩, numberRule, ⟨"globals", fun _ => true⟩]

/-- Which conversation to start. -/
def beginning (given : Options) : Except Refusal Beginning := do
  return {
    directory := ← given.required "trees-dir"
    tree := given.lookup "tree"
    start := (given.lookup "start-id").bind Whole.int32?
    globals := given.lookup "globals" }

/-- Reads the options of the command `start`. -/
def readStart (args : List String) : Except Refusal Command := do
  let given ← Options.read (beginningRules ++ [⟨"state-out", fun _ => true⟩]) [] false args
  return .start (← beginning given) (← given.required "state-out")

/-- Reads the options of the command `next`. -/
def readNext (args : List String) : Except Refusal Command := do
  let given ← Options.read [⟨"state-in", fun _ => true⟩, ⟨"state-out", fun _ => true⟩] [] false args
  return .next (← given.required "state-in") (← given.required "state-out")

/-- Reads the options of the command `choose`. -/
def readChoose (args : List String) : Except Refusal Command := do
  let given ← Options.read
    [⟨"state-in", fun _ => true⟩, choiceRule, ⟨"state-out", fun _ => true⟩] [] false args
  let choice := (Whole.index? (← given.required "choice")).getD 0
  return .choose (← given.required "state-in") choice (← given.required "state-out")

/-- Where a play is saved if no file is named (`DEFAULT_STATE_FILE`). -/
def defaultSaveFile : Path := ".bd-cli/save.json"

/-- Reads the options of the command `play`. -/
def readPlay (args : List String) : Except Refusal Command := do
  let given ← Options.read (beginningRules ++ [⟨"state-file", fun _ => true⟩]) [] false args
  return .play (← beginning given) ((given.lookup "state-file").getD defaultSaveFile)

/-- Words after `help`: the names of a command, or of `help` itself. -/
def helpTopics : List (List String) :=
  [[], ["help"], ["play"], ["agent"], ["agent", "help"], ["agent", "start"], ["agent", "next"],
    ["agent", "choose"]]

/-- A request for help on the command whose names follow those of `level`. -/
def help (level topic : List String) : Except Refusal Command :=
  .error (if helpTopics.contains (level ++ topic) then .help else .invalid)

/-- Reads the name of a command that leads a conversation stop by stop, and its options. -/
def readAgent : Bool → List String → Except Refusal Command
  | _, [] => .error .invalid
  | verbose, arg :: rest =>
    if Options.isHelp arg then .error .help
    else match arg with
      | "--verbose" => if verbose then .error .invalid else readAgent true rest
      | "start" => readStart rest
      | "next" => readNext rest
      | "choose" => readChoose rest
      | "help" => help ["agent"] rest
      | _ => .error .invalid

/-- Reads the name of a command and its options. -/
def readCommand : Bool → List String → Except Refusal Command
  | _, [] => .error .invalid
  | verbose, arg :: rest =>
    if Options.isHelp arg then .error .help
    else match arg with
      | "--verbose" => if verbose then .error .invalid else readCommand true rest
      | "agent" => readAgent false rest
      | "play" => readPlay rest
      | "help" => help [] rest
      | _ => .error .invalid

/-- The command that the arguments after the name of the program give. -/
def parse (args : List String) : Except Refusal Command := readCommand false args

end Command

end DialogueTree
