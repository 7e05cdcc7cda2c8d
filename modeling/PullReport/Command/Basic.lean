/-!
# Commands

What the program can be told to do.

## Main definitions

* `Subcommand`: the words that name what to do.
* `Command`: what to do, with everything that belongs to it.
* `Refusal`, `Unanswered`: why arguments are no command.
-/

namespace PullReport

/-- The word that names what to do. -/
inductive Subcommand where
  | action
  | analyze
  | diff
  | demo
  | login
  | logout
  deriving DecidableEq, Repr

namespace Subcommand

/-- The word itself. -/
def name : Subcommand → String
  | action => "action"
  | analyze => "analyze"
  | diff => "diff"
  | demo => "demo"
  | login => "login"
  | logout => "logout"

/-- All subcommands. -/
def all : List Subcommand := [action, analyze, diff, demo, login, logout]

/-- The subcommand of a name. -/
def ofName? (name : String) : Option Subcommand := all.find? (·.name = name)

/-- Whether the subcommand is about something that the user has to name. -/
def takesOperand : Subcommand → Bool
  | analyze => true
  | diff => true
  | _ => false

/-- Whether that name can be empty. A file has a name that is not. -/
def operandMayBeEmpty : Subcommand → Bool
  | analyze => true
  | _ => false

/-- The name of the switch that the subcommand has, if it has one. -/
def switch? : Subcommand → Option String
  | action => some "dry-run"
  | analyze => some "post"
  | _ => none

/-- Whether the user can name a file for the report. -/
def takesOutput : Subcommand → Bool
  | analyze => true
  | diff => true
  | demo => true
  | _ => false

end Subcommand

/-- What to do: comment on the pull request of a workflow, analyze a pull request by its address, a
local diff or a built-in sample, log in, or log out. An output is the name of a file to which the
report goes. -/
inductive Command where
  | action (dryRun : Bool)
  | analyze (address : String) (post : Bool) (output : Option String)
  | diff (patch : String) (output : Option String)
  | demo (output : Option String)
  | login
  | logout
  deriving DecidableEq, Repr

/-- The files that a command names. -/
def Command.fileNames : Command → List String
  | analyze _ _ output => output.toList
  | diff patch output => patch :: output.toList
  | demo output => output.toList
  | _ => []

/-- Why arguments are refused. -/
inductive Refusal where
  | nothingToDo
  | unknownSubcommand
  | unknownArgument
  | missingOperand
  | invalidValue
  | repeated
  | unexpectedValue
  deriving DecidableEq, Repr

/-- Why there is no command to run: the arguments ask for help or for the version, or they are
refused. -/
inductive Unanswered where
  | help
  | version
  | refused (why : Refusal)
  deriving DecidableEq, Repr

end PullReport
