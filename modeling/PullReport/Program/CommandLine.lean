import PullReport.Command.Arguments
import PullReport.Program.Run

/-!
# The command line

From arguments to an exit code. Arguments that are no command change nothing but what is printed.

## Main definitions

* `Ending`: how the program ends; `Ending.exitCode`, `Ending.complaint`.
* `CommandLine.run`: what arguments do to a world.
-/

namespace PullReport

/-- How the program ends. -/
inductive Ending where
  | done
  | failed (failure : Failure)
  | unanswered (why : Unanswered)
  deriving DecidableEq, Repr

/-- What is wrong with the arguments, in words. -/
def Refusal.message : Refusal → String
  | nothingToDo => "a subcommand is required"
  | unknownSubcommand => "unrecognized subcommand"
  | unknownArgument => "unexpected argument"
  | missingOperand => "a required argument was not provided"
  | invalidValue => "a value is missing or empty"
  | repeated => "an option cannot be used multiple times"
  | unexpectedValue => "an option takes no value"

namespace Ending

/-- The exit code. Whoever asks for help or for the version gets it, while refused arguments are a
failure. -/
def exitCode : Ending → Nat
  | done => 0
  | failed failure => failure.exitCode
  | unanswered (.refused _) => 2
  | unanswered _ => 0

/-- What is written to the error output. -/
def complaint : Ending → String
  | failed failure => "error: " ++ failure.message ++ "\n"
  | unanswered (.refused why) => "error: " ++ why.message ++ "\n"
  | _ => ""

end Ending

namespace CommandLine

/-- The name and the version of the program. -/
def version : String := "pr-helper 0.1.0\n"

/-- How the program is used. -/
def usage : String :=
  String.join (["Usage: pr-helper <COMMAND>", "", "Commands:",
    "  action [--dry-run]                     Comment on the pull request of a workflow",
    "  analyze <PR_URL> [--post] [-o <FILE>]  Analyze a pull request by URL",
    "  diff <PATCH> [-o <FILE>]               Analyze a local diff",
    "  demo [-o <FILE>]                       Analyze a built-in sample diff",
    "  login                                  Log in and store the token",
    "  logout                                 Delete the stored token"].map (· ++ "\n"))

/-- What is printed for arguments that are no command. -/
def answer : Unanswered → String
  | .help => usage
  | .version => version
  | .refused _ => ""

/-- How the program ends when it is run with some arguments, and the world behind it. -/
def run (arguments : List String) (world : World) : Ending × World :=
  match Arguments.parse arguments with
  | .error why => (.unanswered why, { world with printed := world.printed ++ answer why })
  | .ok command =>
    match (Program.run command).runIn world with
    | (.ok _, world) => (.done, world)
    | (.error failure, world) => (.failed failure, world)

end CommandLine

end PullReport
