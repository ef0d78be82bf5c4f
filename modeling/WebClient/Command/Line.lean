import WebClient.Text.Dict
import WebClient.Text.Pieces

/-!
# Line — command lines

A program has options and commands, and each command has options and operands of its own.  The words
of a command line are read from left to right: options of the program, the name of a command, and
then the options and operands of the command in any order.

* An option is written `--name value` or `--name=value`, a flag `--name`; neither may be repeated.
* Words that begin with a hyphen are options, except the single hyphen and all words after `--`.
* `--help`, `-h` and the command `help` ask for a help screen.
* Values are checked from left to right, but one that stands right before the name of a command is
  checked last, so that a help screen of the command comes first.
-/

namespace WebClient

/-- An option of a program or command. -/
structure OptionSpec where
  name : String
  /-- What the value is called; nothing for a flag. -/
  valueName : Option String := none
  isRequired : Bool := false
  /-- Which values are admitted. -/
  accepts : String → Bool := fun _ => true
  about : String := ""

/-- A command of a program. -/
structure CommandSpec where
  name : String
  about : String := ""
  options : List OptionSpec := []
  /-- What the operands are called; all of them are required. -/
  operands : List String := []

/-- A program with commands. -/
structure ProgramSpec where
  name : String
  about : String := ""
  options : List OptionSpec := []
  commands : List CommandSpec

/-- What was given for a program or command. -/
structure Given where
  /-- The values of options; a flag that was given has the empty value. -/
  options : Dict String := []
  operands : List String := []
  deriving DecidableEq, Repr

namespace Given

def value? (given : Given) (name : String) : Option String := Dict.get? given.options name

def has (given : Given) (name : String) : Bool := (given.value? name).isSome

def operand (given : Given) (index : Nat) : String := given.operands[index]?.getD ""

end Given

/-- A command line that was understood. -/
structure Invocation where
  /-- What was given for the program itself. -/
  program : Given
  /-- The name of the command. -/
  command : String
  /-- What was given for the command. -/
  given : Given
  deriving DecidableEq, Repr

/-- Why a command line leads to no command. -/
inductive Refusal where
  /-- It cannot be understood. -/
  | usage
  /-- It asks for help. -/
  | help (screen : String)
  deriving DecidableEq, Repr

/-! ## Help screens -/

namespace Help

def padded (width : Nat) (text : String) : String :=
  .ofList (text.toList ++ List.replicate (width - text.length) ' ')

def screenWidth : Nat := 100

/-- Puts one more word behind lines that have a greatest width. -/
def addWord (width : Nat) (lines : List String) (word : String) : List String :=
  match lines.getLast? with
  | none => [word]
  | some line =>
    if line.length + 1 + word.length ≤ width then lines.dropLast ++ [line ++ " " ++ word]
    else lines ++ [word]

/-- A text broken at its spaces into lines that are as long as a width allows. -/
def filled (width : Nat) (text : String) : List String :=
  ((Text.pieces ' ' text.toList).map String.ofList).foldl (addWord width) []

/-- Labels and what is said about them, in two columns under a heading. -/
def block (heading : String) (rows : List (String × String)) : List String :=
  let width := (rows.map fun row => row.1.length).foldl max 0
  "" :: heading :: rows.map fun (label, about) => "  " ++ padded width label ++ "  " ++ about

def optionLabel (option : OptionSpec) : String :=
  match option.valueName with
  | some value => "--" ++ option.name ++ " <" ++ value ++ ">"
  | none => "--" ++ option.name

/-- The rows of the options, that of the help option last. -/
def optionRows (options : List OptionSpec) : List (String × String) :=
  (options.map fun option => ("    " ++ optionLabel option, option.about)) ++
    [("-h, --help", "Print help")]

/-- Whether a text is too long to stand in a second column beside labels of a width, and the labels
are wide enough to be blamed for it. -/
def isCrowded (width : Nat) (about : String) : Bool :=
  let taken := width + 12
  40 < taken && taken ≤ screenWidth && screenWidth < taken + about.length

/-- Options under a heading, in two columns; if a text does not fit there, each stands on a line of
its own below its label. -/
def optionBlock (options : List OptionSpec) : List String :=
  let rows := optionRows options
  let width := (options.map fun option => (optionLabel option).length).foldl max 0
  if rows.any fun row => isCrowded width row.2 then
    "" :: "Options:" :: rows.flatMap fun (label, about) => ["  " ++ label, padded 10 "" ++ about]
  else block "Options:" rows

def spaced (words : List String) : String := Text.joinWith ' ' words

/-- What stands for optional options in a usage line. -/
def optionsMark (options : List OptionSpec) : List String :=
  if options.any fun option => !option.isRequired then ["[OPTIONS]"] else []

def text (lines : List String) : String :=
  .ofList (lines.flatMap fun line => line.toList ++ ['\n'])

/-- A screen: what it is about, how it is used, and sections. -/
def screen (about : String) (usage : List String) (sections : List String) : String :=
  text ((if about.isEmpty then [] else filled screenWidth about ++ [""]) ++
    ["Usage: " ++ spaced usage] ++ sections)

def commandName : String := "help"

/-- What is said about the command that asks for help. -/
def commandAbout : String := "Print this message or the help of the given subcommand(s)"

def ofProgram (program : ProgramSpec) : String :=
  screen program.about ([program.name] ++ optionsMark program.options ++ ["<COMMAND>"])
    (block "Commands:" ((program.commands.map fun command => (command.name, command.about)) ++
        [(commandName, commandAbout)]) ++
      optionBlock program.options)

def ofCommand (program : ProgramSpec) (command : CommandSpec) : String :=
  let required := (command.options.filter (·.isRequired)).map optionLabel
  let operands := command.operands.map fun name => "<" ++ name ++ ">"
  screen command.about
    ([program.name, command.name] ++ optionsMark command.options ++ required ++ operands)
    ((if operands.isEmpty then [] else block "Arguments:" (operands.map fun name => (name, ""))) ++
      optionBlock command.options)

/-- The screen of the command that asks for help. -/
def ofHelp (program : ProgramSpec) : String :=
  let names := "[COMMAND]..."
  screen commandAbout [program.name, commandName, names]
    (block "Arguments:" [(names, "Print help for the subcommand(s)")])

end Help

/-! ## Reading -/

namespace Line

/-- What a word is by its form. -/
inductive Word where
  | separator
  | help
  /-- An option by its name, with the value attached to it. -/
  | option (name : String) (attached : Option String)
  | unknown
  | operand
  deriving DecidableEq, Repr

def classify (word : String) : Word :=
  match word.toList with
  | ['-', '-'] => .separator
  | ['-'] => .operand
  | '-' :: '-' :: rest =>
    if word = "--help" then .help
    else
      let (name, attached) := Text.cutAt '=' rest
      .option (.ofList name) (attached.map String.ofList)
  | '-' :: 'h' :: _ => .help
  | '-' :: _ => .unknown
  | _ => .operand

/-- Enters the value of an option, which must not be given yet. -/
def enter (option : OptionSpec) (value : String) (given : Given) : Option Given :=
  if given.has option.name || !option.accepts value then none
  else some { given with options := Dict.put option.name value given.options }

/-- What a level of a command line admits. -/
structure Level where
  options : List OptionSpec
  operandCount : Nat
  /-- The words at which the level ends. -/
  isCommand : String → Bool
  helpScreen : String

def Level.addOperands (level : Level) (words : List String) (given : Given) : Option Given :=
  let operands := given.operands ++ words
  if operands.length ≤ level.operandCount then some { given with operands } else none

/-- Whether words begin with the name of a command. -/
def Level.endsAt (level : Level) (words : List String) : Bool := words.head?.any level.isCommand

/-- What was read of a level. -/
structure Scanned where
  /-- What was given; nothing if the value before the name of a command is not admitted. -/
  given : Option Given
  /-- The words from the name of a command on. -/
  rest : List String
  deriving DecidableEq, Repr

/-- Reads words up to the name of a command.  `pending` is an option that waits for its value. -/
def Level.scan (level : Level) (pending : Option OptionSpec) (given : Given) :
    List String → Except Refusal Scanned
  | [] => if pending.isSome then .error .usage else .ok ⟨some given, []⟩
  | word :: rest =>
    match pending with
    | some option =>
      match classify word, enter option word given with
      | .operand, some given => level.scan none given rest
      | .operand, none => if level.endsAt rest then .ok ⟨none, rest⟩ else .error .usage
      | _, _ => .error .usage
    | none =>
      if level.isCommand word then .ok ⟨some given, word :: rest⟩
      else
        match classify word with
        | .separator =>
          match level.addOperands rest given with
          | some given => .ok ⟨some given, []⟩
          | none => .error .usage
        | .help => .error (.help level.helpScreen)
        | .unknown => .error .usage
        | .operand =>
          match level.addOperands [word] given with
          | some given => level.scan none given rest
          | none => .error .usage
        | .option name attached =>
          match level.options.find? (·.name == name) with
          | none => .error .usage
          | some option =>
            match option.valueName, attached with
            | some _, none => level.scan (some option) given rest
            | none, some _ => .error .usage
            | _, _ =>
              match enter option (attached.getD "") given with
              | some given => level.scan none given rest
              | none => .error .usage

end Line

namespace CommandSpec

/-- Whether all that a command requires was given. -/
def isComplete (command : CommandSpec) (given : Given) : Bool :=
  given.operands.length == command.operands.length &&
    command.options.all fun option => !option.isRequired || given.has option.name

def level (program : ProgramSpec) (command : CommandSpec) : Line.Level :=
  ⟨command.options, command.operands.length, fun _ => false, Help.ofCommand program command⟩

end CommandSpec

namespace ProgramSpec

def command? (program : ProgramSpec) (name : String) : Option CommandSpec :=
  program.commands.find? (·.name == name)

def level (program : ProgramSpec) : Line.Level :=
  ⟨program.options, 0, fun word => word == Help.commandName || (program.command? word).isSome,
    Help.ofProgram program⟩

def help (program : ProgramSpec) : List String → Refusal
  | [] => .help (Help.ofProgram program)
  | [name] =>
    match program.command? name with
    | some command => .help (Help.ofCommand program command)
    | none => if name = Help.commandName then .help (Help.ofHelp program) else .usage
  | _ => .usage

def read (program : ProgramSpec) (words : List String) : Except Refusal Invocation :=
  match program.level.scan none {} words with
  | .error refusal => .error refusal
  | .ok ⟨_, []⟩ => .error .usage
  | .ok ⟨given?, name :: rest⟩ =>
    match program.command? name with
    | none => .error (program.help rest)
    | some command =>
      match (command.level program).scan none {} rest, given? with
      | .error refusal, _ => .error refusal
      | .ok ⟨some own, _⟩, some given =>
        if command.isComplete own then .ok ⟨given, name, own⟩ else .error .usage
      | _, _ => .error .usage

end ProgramSpec

/-- What a run of a program shows: its exit code and its output. -/
structure Output where
  code : Nat
  text : String := ""
  deriving DecidableEq, Repr

namespace Output

def lines (lines : List String) : Output := ⟨0, Help.text lines⟩

def failed (lines : List String := []) : Output := ⟨1, Help.text lines⟩

/-- What a command line without a command leads to. -/
def ofRefusal : Refusal → Output
  | .usage => ⟨2, ""⟩
  | .help screen => ⟨0, screen⟩

end Output
end WebClient
