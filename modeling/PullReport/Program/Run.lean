import PullReport.Command.Basic
import PullReport.Program.Basic
import PullReport.Program.Sample
import PullReport.Report.Markdown
import PullReport.Report.Terminal
import PullReport.Settings.Resolve

/-!
# Running commands

What each command does. All of them begin with the settings. A report on a pull request is built
before anything is printed, and a comment is posted last of all.

## Main definitions

* `Program.localReport`: the report on a local diff.
* `Program.deliver`, `Program.publish`: what becomes of a report.
* `Program.tokenStore`: where the token is kept.
* `Program.login`, `Program.logout`: getting and losing a token.
* `Program.run`: any command.
-/

namespace PullReport

namespace Program

/-! ### Reports -/

/-- The report on a local diff, which goes by the given name. -/
def localReport (filter : FileFilter) (source diff : String) : Except Diff.Error Report :=
  (Diff.split diff).map (Report.ofFiles filter source)

/-- The report on a pull request. -/
def remoteReport (client : GitHub.Client) (filter : FileFilter) (target : PullRequest) :
    Program Report := do
  return Report.ofFiles filter target.display (← fetch client target)

/-- Writes a report to a file as a document, or else prints it. -/
def deliver (report : Report) : Option String → Program Unit
  | some name => write name report.markdown
  | none => do print (report.terminal (← get).colour)

/-- Posts a report as a comment. -/
def publish (client : GitHub.Client) (target : PullRequest) (report : Report) : Program Unit :=
  post client target (Analysis.commentBody report.analysis.text)

/-! ### Commands -/

/-- Reports on the pull request of a workflow. -/
def action (settings : Settings) (dryRun : Bool) : Program Unit := do
  let world ← get
  let token := settings.resolvedToken? world.environment world.tokenStore world.files
  let workflow ← orFail .settings (Workflow.resolve token world.environment world.files)
  let client : GitHub.Client := ⟨settings.resolvedApiUrl, workflow.token⟩
  let report ← remoteReport client settings.filter workflow.target
  printLines [report.analysis.text]
  unless dryRun do publish client workflow.target report

/-- Reports on the pull request with an address. -/
def analyze (settings : Settings) (address : String) (posted : Bool) (output : Option String) :
    Program Unit := do
  match PullRequest.ofAddress? address with
  | none => throw (.notPullRequest address)
  | some target =>
    let world ← get
    match settings.resolvedToken? world.environment world.tokenStore world.files with
    | none => throw (.settings (.missing [.token]))
    | some token =>
      let client : GitHub.Client := ⟨settings.resolvedApiUrl, token⟩
      let report ← remoteReport client settings.filter target
      deliver report output
      if posted then publish client target report

/-- Reports on a local diff, which goes by the given name. -/
def analyzeLocal (settings : Settings) (source diff : String) (output : Option String) :
    Program Unit := do
  let report ← orFail .diff (localReport settings.filter source diff)
  deliver report output

/-- Reports on the diff in a file. -/
def diff (settings : Settings) (patch : String) (output : Option String) : Program Unit := do
  let text ← orFail (.patchRead patch) ((← get).files.read patch)
  analyzeLocal settings patch text output

/-- Reports on the sample. -/
def demo (settings : Settings) (output : Option String) : Program Unit :=
  analyzeLocal settings Sample.name Sample.diff output

/-- The store for the token, without which there is nothing to log in or out of. -/
def tokenStore : Program TokenStore := do
  match (← get).tokenStore with
  | none => throw (.login (.store (.storage .noConfigDir)))
  | some store => return store

/-- Saves a token in a store. -/
def save (store : TokenStore) (token : String) : Program Unit := do
  let world ← get
  let (result, files) := store.save token world.files world.refusal
  modify fun world => { world with files := files }
  orFail (fun error => .login (.store error)) result

/-- Asks for a device code. -/
def requestCode (clientId : String) : Program DeviceCode := do
  let (result, exchange) := Login.requestCode Login.endpoints clientId (← get).exchange
  modify fun world => { world with exchange := exchange }
  orFail .login result

/-- Asks for the outcome of a login until there is one. -/
def poll (clientId : String) (device : DeviceCode) : Program Login.Outcome := do
  let world ← get
  let (result, exchange) :=
    Login.poll Login.endpoints clientId device world.interrupt world.exchange
  modify fun world => { world with exchange := exchange }
  orFail .login result.outcome

/-- Tells the user how to allow the login. -/
def explain (device : DeviceCode) : Program Unit :=
  printLines ["", "  To authenticate, visit: " ++ device.page,
    "  Enter this code: " ++ device.userCode, "",
    "  Waiting for authorization (Ctrl-C to cancel)..."]

/-- Gets a token and saves it. -/
def login (settings : Settings) : Program Unit := do
  let world ← get
  match settings.resolvedClientId? world.environment with
  | none => throw (.login .missingClientId)
  | some clientId =>
    let store ← tokenStore
    let device ← requestCode clientId
    explain device
    match ← poll clientId device with
    | .authorized token =>
      save store token
      printLines ["Logged in. Token saved to " ++ store.path]
    | .cancelled => printLines ["Login cancelled."]

/-- Deletes the stored token. -/
def logout : Program Unit := do
  let store ← tokenStore
  let (result, files) := store.delete (← get).files
  modify fun world => { world with files := files }
  if ← orFail (fun error => .login (.store error)) result then
    printLines ["Removed stored token at " ++ store.path]
  else printLines ["No stored token found."]

/-- Runs a command. -/
def run (command : Command) : Program Unit := do
  let settings ← orFail .settings (Settings.load (← get).files)
  match command with
  | .action dryRun => action settings dryRun
  | .analyze address posted output => analyze settings address posted output
  | .diff patch output => diff settings patch output
  | .demo output => demo settings output
  | .login => login settings
  | .logout => logout

end Program

end PullReport
