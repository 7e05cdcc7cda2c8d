import PullReport.Json.Reader
import PullReport.Json.Record
import PullReport.PullRequest
import PullReport.Settings.Basic

/-!
# Workflow runs

As a step of a workflow the program is told by variables which pull request it is to report on. The
number may also come from the event that set off the workflow, which is a file with a JSON payload.

## Main definitions

* `Event.number?`: the number of the pull request in a payload.
* `Workflow`: a token and a pull request.
* `Workflow.resolve`: the workflow that the variables describe.
-/

namespace PullReport

/-- The number of the pull request in a payload, which need not have one. A pull request has its own
number; some events give the number next to it. `none` stands for a malformed payload. -/
def Event.number? (payload : String) : Option (Option Nat) := do
  let json ← Json.read? payload
  let event ← json.record? ["number", "pull_request"]
  let number ← Json.nullable? Json.natural? (event "number")
  let ofPullRequest (json : Json) : Option Nat := do
    let pullRequest ← json.record? ["number"]
    (pullRequest "number").required? Json.natural?
  let pullRequest ← Json.nullable? ofPullRequest (event "pull_request")
  return pullRequest <|> number

/-- The number of the pull request in the payload of a file. -/
def Event.load (tree : FileTree) (name : String) : Except Settings.Error (Option Nat) :=
  match tree.read name with
  | .error e => .error (.unreadable e)
  | .ok text =>
    match Event.number? text with
    | none => .error .malformedEvent
    | some number => .ok number

/-- What a workflow run needs: a token, and the pull request to report on. -/
structure Workflow where
  token : String
  target : PullRequest
  deriving DecidableEq, Repr

namespace Workflow

/-- The number of the pull request: from its variable, else from the event, if there is one. -/
def number (environment : Environment) (tree : FileTree) : Except Settings.Error (Option Nat) :=
  match nonBlank? (environment .number) with
  | some raw =>
    match Text.number? (Text.trim raw.toList) with
    | some number => .ok (some number)
    | none => .error (.invalid .number raw)
  | none =>
    match nonBlank? (environment .eventPath) with
    | some name => Event.load tree name
    | none => .ok none

/-- Owner and name of a repository, written with a slash between them. -/
def ownerAndRepo? (repository : String) : Option (String × String) :=
  match repository.toList.splitOn '/' with
  | [owner, repo] =>
    if owner ≠ [] ∧ repo ≠ [] then some (String.ofList owner, String.ofList repo) else none
  | _ => none

/-- The variables of what is missing, in the order in which they are reported. -/
def missing (token repository : Option String) (number : Option Nat) : List Variable :=
  (if token.isNone then [.token] else []) ++ (if repository.isNone then [.repository] else [])
    ++ (if number.isNone then [.number] else [])

/-- The workflow that a token, the environment and the event describe. A malformed number is
reported before anything that is missing, and that before a malformed repository. -/
def resolve (token : Option String) (environment : Environment) (tree : FileTree) :
    Except Settings.Error Workflow :=
  match number environment tree with
  | .error e => .error e
  | .ok number =>
    match nonBlank? token, nonBlank? (environment .repository), number with
    | some token, some repository, some number =>
      match ownerAndRepo? repository with
      | none => .error (.invalid .repository repository)
      | some (owner, repo) => .ok ⟨token, ⟨owner, repo, number⟩⟩
    | token, repository, number => .error (.missing (missing token repository number))

end Workflow

end PullReport
