import PullReport.Command.Basic

/-!
# Command-line arguments

A command is written as a subcommand, its operand and its options in any order. Options have a long
name behind two hyphens, and some have a short one behind a single hyphen. The value of an option is
the next argument, or follows an equals sign; behind a short name it may follow at once. Two hyphens
alone end the options.

Every value is checked when it is certain that the argument before it is complete, so when the next
option begins or the arguments end. An argument that is unknown is reported before that check.

## Main definitions

* `Arguments.Given`, `Arguments.Pending`: what has been given, and what is yet to be checked.
* `Arguments.settle`: the check.
* `Arguments.step`: one argument of a subcommand.
* `Arguments.parse`: the command that arguments stand for.
-/

namespace PullReport

namespace Arguments

/-- What the arguments have given so far. -/
structure Given where
  operand : Option String := none
  switch : Bool := false
  output : Option String := none
  deriving DecidableEq, Repr

/-- What is still to be checked: nothing, an output whose value is yet to come, an output, or an
operand. -/
inductive Pending where
  | nothing
  | option
  | output (value : String)
  | operand (value : String)
  deriving DecidableEq, Repr

/-- What is known between two arguments of a subcommand. -/
structure State where
  given : Given := {}
  pending : Pending := .nothing
  onlyOperands : Bool := false
  deriving DecidableEq, Repr

variable (subcommand : Subcommand)

/-! ### Checking values -/

/-- The output given once, with a name that is not empty. -/
def setOutput (given : Given) (value : String) : Except Unanswered Given :=
  if given.output.isSome then .error (.refused .repeated)
  else if value = "" then .error (.refused .invalidValue)
  else .ok { given with output := some value }

/-- What is given once the last argument is known to be complete. -/
def settle (given : Given) : Pending → Except Unanswered Given
  | .nothing => .ok given
  | .option => .error (.refused .invalidValue)
  | .output value => setOutput given value
  | .operand value =>
    if value = "" ∧ ¬ subcommand.operandMayBeEmpty then .error (.refused .invalidValue)
    else .ok { given with operand := some value }

/-- The state behind an argument that leaves nothing to be checked, and in front of which everything
is checked. -/
def settled (state : State) (change : Given → Except Unanswered Given) :
    Except Unanswered State :=
  match settle subcommand state.given state.pending with
  | .error e => .error e
  | .ok given => (change given).map fun given => { state with given := given, pending := .nothing }

/-- The state behind the name of the output option, whose value is the next argument. -/
def expectOutput (state : State) : Except Unanswered State :=
  match settle subcommand state.given state.pending with
  | .error e => .error e
  | .ok given => .ok { state with given := given, pending := .option }

/-- The answer to an argument that asks for help. -/
def askHelp (state : State) : Except Unanswered State :=
  settled subcommand state fun _ => .error .help

/-! ### Single arguments -/

/-- An option by its long name, with the value behind its equals sign if it has one. -/
def longOption (state : State) (name : String) (value : Option String) :
    Except Unanswered State :=
  if name = "help" then
    if value.isSome then .error (.refused .unexpectedValue) else askHelp subcommand state
  else if subcommand.switch? = some name then
    if value.isSome then .error (.refused .unexpectedValue)
    else
      settled subcommand state fun given =>
        if given.switch then .error (.refused .repeated) else .ok { given with switch := true }
  else if name = "output" ∧ subcommand.takesOutput then
    match value with
    | some value => settled subcommand state fun given => setOutput given value
    | none => expectOutput subcommand state
  else .error (.refused .unknownArgument)

/-- An option by its short name, with what follows the name in the same argument. -/
def shortOption (state : State) (name : Char) (rest : List Char) : Except Unanswered State :=
  if name = 'h' then askHelp subcommand state
  else if name = 'o' ∧ subcommand.takesOutput then
    match rest with
    | [] => expectOutput subcommand state
    | '=' :: value => settled subcommand state (setOutput · (String.ofList value))
    | value => settled subcommand state (setOutput · (String.ofList value))
  else .error (.refused .unknownArgument)

/-- An argument that is no option: the value of the option before it, or the operand. -/
def plain (state : State) (value : String) : Except Unanswered State :=
  if state.pending = .option ∧ ¬ state.onlyOperands then
    .ok { state with pending := .output value }
  else
    match subcommand.takesOperand, state.pending, state.given.operand with
    | true, .operand _, _ => .error (.refused .unknownArgument)
    | true, _, none =>
      (settled subcommand state .ok).map fun state => { state with pending := .operand value }
    | _, _, _ => .error (.refused .unknownArgument)

/-- How an argument reads where options are allowed. -/
inductive Form where
  | endOfOptions
  | long (name : String) (value : Option String)
  | short (name : Char) (rest : List Char)
  | plain
  deriving DecidableEq, Repr

/-- The form of an argument. A hyphen alone is not an option. -/
def Form.of (argument : String) : Form :=
  match argument.toList with
  | ['-', '-'] => endOfOptions
  | '-' :: '-' :: cs =>
    match cs.dropWhile (· ≠ '=') with
    | [] => long (String.ofList cs) none
    | _ :: value => long (String.ofList (cs.takeWhile (· ≠ '='))) (some (String.ofList value))
  | '-' :: c :: cs => short c cs
  | _ => plain

/-- The state behind one more argument of a subcommand. -/
def step (state : State) (argument : String) : Except Unanswered State :=
  if state.onlyOperands then plain subcommand state argument
  else
    match Form.of argument with
    | .endOfOptions => .ok { state with onlyOperands := true }
    | .long name value => longOption subcommand state name value
    | .short name rest => shortOption subcommand state name rest
    | .plain => plain subcommand state argument

/-! ### Whole command lines -/

/-- The command of a subcommand and what has been given to it. -/
def command (given : Given) : Except Unanswered Command :=
  match subcommand, given.operand with
  | .action, _ => .ok (.action given.switch)
  | .analyze, some address => .ok (.analyze address given.switch given.output)
  | .diff, some patch => .ok (.diff patch given.output)
  | .demo, _ => .ok (.demo given.output)
  | .login, _ => .ok .login
  | .logout, _ => .ok .logout
  | _, none => .error (.refused .missingOperand)

/-- The command of a subcommand and its arguments. -/
def parseSubcommand (arguments : List String) : Except Unanswered Command := do
  let state ← arguments.foldlM (step subcommand) {}
  let given ← settle subcommand state.given state.pending
  command subcommand given

/-- Whether a word can stand where a subcommand is expected. -/
def isKnown (word : String) : Bool := word = "help" || (Subcommand.ofName? word).isSome

/-- The answer to a request for help on a subcommand, which may be named or not. -/
def parseHelp : List String → Unanswered
  | [] => .help
  | [word] => if isKnown word then .help else .refused .unknownSubcommand
  | _ => .refused .unknownSubcommand

/-- The answer to an option in front of any subcommand. -/
def parseOption : Form → Unanswered
  | .long "help" none => .help
  | .long "version" none => .version
  | .long "help" (some _) => .refused .unexpectedValue
  | .long "version" (some _) => .refused .unexpectedValue
  | .short 'h' _ => .help
  | .short 'V' _ => .version
  | .plain => .refused .unknownSubcommand
  | _ => .refused .unknownArgument

/-- The command that arguments stand for. The subcommand comes first; it cannot follow two
hyphens. -/
def parse : List String → Except Unanswered Command
  | [] => .error (.refused .nothingToDo)
  | word :: rest =>
    match Subcommand.ofName? word with
    | some subcommand => parseSubcommand subcommand rest
    | none =>
      if word = "help" then .error (parseHelp rest)
      else if word = "--" then
        match rest with
        | [] => .error (.refused .nothingToDo)
        | next :: _ =>
          .error (.refused (if isKnown next then .unknownArgument else .unknownSubcommand))
      else .error (parseOption (Form.of word))

end Arguments

end PullReport
