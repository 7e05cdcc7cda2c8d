import PullReport.GitHub.Client
import PullReport.Login.Poll
import PullReport.Patch.Diff
import PullReport.Settings.Workflow

/-!
# Programs

A program reads and changes a world: files, the environment, the servers it talks to, and what it
has printed. It may fail, and then what it has done up to there stays done.

## Main definitions

* `World`: what a program reads and changes.
* `Failure`, with `Failure.message` and `Failure.exitCode`: how a program fails.
* `Program`: programs with a result.
* `Program.print`, `Program.write`, `Program.fetch`, `Program.post`: the single steps.
-/

namespace PullReport

/-- What a program reads and changes. `configDir` is the directory for the settings of the user,
which not every platform has. `refusal` is the reason for which the rights to a file cannot be set,
if they cannot, and `colour` says whether what is printed may be coloured. -/
structure World where
  files : FileTree
  environment : Environment
  configDir : Option String
  exchange : Exchange
  interrupt : Login.Interrupt := .never
  refusal : Option FileError := none
  colour : Bool := false
  printed : String := ""

/-- The store for the user's token, if there is a directory for it. -/
def World.tokenStore (world : World) : Option TokenStore :=
  world.configDir.map fun directory => ⟨directory ++ "/pr-helper"⟩

/-- How a program fails. -/
inductive Failure where
  | settings (error : Settings.Error)
  | notPullRequest (address : String)
  | fetch (error : GitHub.Error)
  | post (error : GitHub.Error)
  | patchRead (name : String) (error : FileError)
  | diff (error : Diff.Error)
  | reportWrite (error : FileError)
  | login (error : Login.Error)
  deriving DecidableEq, Repr

namespace Failure

/-- The failure in words. -/
def message : Failure → String
  | settings error => error.message
  | notPullRequest address => "Invalid PR URL: " ++ address
  | fetch error => "Failed to fetch pull request files: " ++ error.message
  | post error => "Failed to post comment: " ++ error.message
  | patchRead name error => "Failed to read patch file " ++ name ++ ": " ++ error.message
  | diff error => "Failed to parse diff: " ++ error.detail
  | reportWrite error => "Failed to write report file: " ++ error.message
  | login error => error.message

/-- The exit code by which the program reports a failure: 2 if it was not told properly what to do,
3 if the changed files could not be fetched, 4 if the comment could not be posted, else 1. -/
def exitCode : Failure → Nat
  | settings (.missing _) => 2
  | settings (.invalid _ _) => 2
  | notPullRequest _ => 2
  | fetch _ => 3
  | post _ => 4
  | _ => 1

end Failure

/-- A program with a result. -/
abbrev Program (α : Type) := ExceptT Failure (StateM World) α

namespace Program

/-- What a program does to a world: how it ends, and the world behind it. -/
def runIn {α : Type} (program : Program α) (world : World) : Except Failure α × World :=
  (ExceptT.run program).run world

/-- A result that may be an error, which is then a failure of the program. -/
def orFail {ε α : Type} (failure : ε → Failure) : Except ε α → Program α
  | .ok value => pure value
  | .error error => throw (failure error)

/-! ### How programs run -/

variable {ε α β : Type}

@[simp] theorem runIn_pure (value : α) (world : World) :
    (pure value : Program α).runIn world = (.ok value, world) := rfl

@[simp] theorem runIn_get (world : World) :
    (get : Program World).runIn world = (.ok world, world) := rfl

@[simp] theorem runIn_modify (change : World → World) (world : World) :
    (modify change : Program Unit).runIn world = (.ok (), change world) := rfl

/-- The second of two programs runs in the world that the first one leaves, unless that fails. -/
theorem runIn_bind (first : Program α) (second : α → Program β) (world : World) :
    (first >>= second : Program β).runIn world =
      match first.runIn world with
      | (.ok value, next) => (second value).runIn next
      | (.error failure, next) => (.error failure, next) := by
  simp only [runIn, ExceptT.run_bind, StateT.run_bind]
  change (match StateT.run (ExceptT.run first) world with | (result, next) => _) = _
  split
  rename_i result next h
  cases result <;> simp only [h] <;> rfl

theorem runIn_orFail (failure : ε → Failure) (result : Except ε α) (world : World) :
    (orFail failure result).runIn world = (result.mapError failure, world) := by
  cases result <;> rfl

theorem runIn_get_bind (next : World → Program β) (world : World) :
    (get >>= next : Program β).runIn world = (next world).runIn world := by
  rw [runIn_bind, runIn_get]

theorem runIn_modify_bind (change : World → World) (next : Unit → Program β) (world : World) :
    (modify change >>= next : Program β).runIn world = (next ()).runIn (change world) := by
  rw [runIn_bind, runIn_modify]

theorem runIn_orFail_bind (failure : ε → Failure) (result : Except ε α) (next : α → Program β)
    (world : World) :
    (orFail failure result >>= next : Program β).runIn world =
      match result with
      | .ok value => (next value).runIn world
      | .error e => (.error (failure e), world) := by
  cases result <;> rfl

/-! ### Single steps -/

/-- Prints a text. -/
def print (text : String) : Program Unit :=
  modify fun world => { world with printed := world.printed ++ text }

/-- Prints lines. -/
def printLines (lines : List String) : Program Unit :=
  print (String.join (lines.map (· ++ "\n")))

/-- Writes a report into a file. -/
def write (name text : String) : Program Unit := do
  let files ← orFail .reportWrite ((← get).files.write name text)
  modify fun world => { world with files := files }

/-- The changed files of a pull request, asked from the API. -/
def fetch (client : GitHub.Client) (target : PullRequest) : Program (List ChangedFile) := do
  let (result, exchange) := client.changedFiles target (← get).exchange
  modify fun world => { world with exchange := exchange }
  orFail .fetch result

/-- Leaves a comment on a pull request. -/
def post (client : GitHub.Client) (target : PullRequest) (comment : String) : Program Unit := do
  let (result, exchange) := client.postComment target comment (← get).exchange
  modify fun world => { world with exchange := exchange }
  orFail .post result

end Program

end PullReport
