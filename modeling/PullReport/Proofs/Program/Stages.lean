import PullReport.Program.CommandLine

/-!
# The stages of a report on a pull request

Two commands are about a pull request on the code host. They differ in where they learn what is to
be done and in where the report goes, but both go through the same stages: what is to be done is
found out, the changed files are listed, the report is handed over, and it may be posted as a
comment. A run ends at the first stage that fails, or else behind the last one.

## Main definitions

* `Remote`: the two commands.
* `Job`, `Remote.job`: what is to be done, as far as it can be found out; `Remote.Prepares`.
* `Job.listing`, `Remote.delivery`, `Job.posting`: the stages behind it.
* `Remote.outcome`: how the program ends, told by its stages.
* `Course`: the ways in which a run can go.

## Main results

* `CommandLine.run_eq_outcome`: the program goes through these stages.
* `Remote.course_outcome`, `Course.eq_outcome`: every run goes one of these ways, and no other is
  open to it.
-/

namespace PullReport

/-- The commands about a pull request on the code host. -/
inductive Remote where
  | action (dryRun : Bool)
  | analyze (address : String) (post : Bool) (output : Option String)

/-- What is to be done: on which pull request to report, whom to ask, and which files matter. -/
structure Job where
  client : GitHub.Client
  target : PullRequest
  filter : FileFilter

namespace Job

/-- The report on some changed files. -/
def report (job : Job) (files : List ChangedFile) : Report :=
  Report.ofFiles job.filter job.target.display files

/-- The report as the body of a comment. -/
def comment (job : Job) (files : List ChangedFile) : String :=
  Analysis.commentBody (job.report files).analysis.text

/-- The changed files, as far as they can be listed, and the world behind asking for them. -/
def listing (job : Job) (world : World) : Except GitHub.Error (List ChangedFile) × World :=
  let (result, exchange) := job.client.changedFiles job.target world.exchange
  (result, { world with exchange := exchange })

/-- Whether the comment has been taken, and the world behind posting it. -/
def posting (job : Job) (files : List ChangedFile) (world : World) :
    Except GitHub.Error Unit × World :=
  let (result, exchange) := job.client.postComment job.target (job.comment files) world.exchange
  (result, { world with exchange := exchange })

end Job

namespace Remote

/-- The command itself. -/
def command : Remote → Command
  | action dryRun => .action dryRun
  | analyze address post output => .analyze address post output

/-- Whether the command asks for a comment. -/
def posts : Remote → Bool
  | action dryRun => !dryRun
  | analyze _ post _ => post

/-- What is to be done under some settings, which the rest of the world has a say in. -/
def jobUnder (settings : Settings) (remote : Remote) (world : World) : Except Failure Job :=
  let token := settings.resolvedToken? world.environment world.tokenStore world.files
  match remote with
  | action _ =>
    match Workflow.resolve token world.environment world.files with
    | .error e => .error (.settings e)
    | .ok workflow =>
      .ok ⟨⟨settings.resolvedApiUrl, workflow.token⟩, workflow.target, settings.filter⟩
  | analyze address _ _ =>
    match PullRequest.ofAddress? address, token with
    | none, _ => .error (.notPullRequest address)
    | some _, none => .error (.settings (.missing [.token]))
    | some target, some token => .ok ⟨⟨settings.resolvedApiUrl, token⟩, target, settings.filter⟩

/-- What is to be done, if the configuration file can be read. -/
def job (remote : Remote) (world : World) : Except Failure Job :=
  match Settings.load world.files with
  | .error e => .error (.settings e)
  | .ok settings => remote.jobUnder settings world

/-- What is found out about what is to be done, under some settings: a workflow says it, or the
address of a page does and there is a token. -/
inductive Prepares (settings : Settings) (world : World) :
    Remote → Except Failure Job → Prop where
  | workflow {dryRun : Bool} {workflow : Workflow}
    (resolved : Workflow.resolve
      (settings.resolvedToken? world.environment world.tokenStore world.files) world.environment
      world.files = .ok workflow) :
    Prepares settings world (.action dryRun)
      (.ok ⟨⟨settings.resolvedApiUrl, workflow.token⟩, workflow.target, settings.filter⟩)
  | noWorkflow {dryRun : Bool} {e : Settings.Error}
    (resolved : Workflow.resolve
      (settings.resolvedToken? world.environment world.tokenStore world.files) world.environment
      world.files = .error e) :
    Prepares settings world (.action dryRun) (.error (.settings e))
  | page {address : String} {post : Bool} {output : Option String} {target : PullRequest}
    {token : String} (named : PullRequest.ofAddress? address = some target)
    (resolved : settings.resolvedToken? world.environment world.tokenStore world.files =
      some token) :
    Prepares settings world (.analyze address post output)
      (.ok ⟨⟨settings.resolvedApiUrl, token⟩, target, settings.filter⟩)
  | noPage {address : String} {post : Bool} {output : Option String}
    (unnamed : PullRequest.ofAddress? address = none) :
    Prepares settings world (.analyze address post output) (.error (.notPullRequest address))
  | noToken {address : String} {post : Bool} {output : Option String} {target : PullRequest}
    (named : PullRequest.ofAddress? address = some target)
    (unresolved : settings.resolvedToken? world.environment world.tokenStore world.files = none) :
    Prepares settings world (.analyze address post output) (.error (.settings (.missing [.token])))

theorem prepares_jobUnder (settings : Settings) (remote : Remote) (world : World) :
    Prepares settings world remote (remote.jobUnder settings world) := by
  cases remote with
  | action dryRun =>
    rw [jobUnder]
    split
    · rename_i e hresolve
      exact .noWorkflow hresolve
    · rename_i workflow hresolve
      exact .workflow hresolve
  | analyze address post output =>
    rw [jobUnder]
    split
    · rename_i hnone
      exact .noPage hnone
    · rename_i target htarget hnone
      exact .noToken htarget hnone
    · rename_i target token htarget htoken
      exact .page htarget htoken

/-- Hands a report over, before any comment is posted. -/
def deliver : Remote → Report → Program Unit
  | action _, report => Program.printLines [report.analysis.text]
  | analyze _ _ output, report => Program.deliver report output

/-- Whether the report could be handed over, and the world behind that. -/
def delivery (remote : Remote) (job : Job) (files : List ChangedFile) (world : World) :
    Except Failure Unit × World :=
  (remote.deliver (job.report files)).runIn world

/-- What is left to do once it is known what that is. -/
def carryOut (remote : Remote) (job : Job) : Program Unit := do
  let files ← Program.fetch job.client job.target
  remote.deliver (job.report files)
  if remote.posts then Program.publish job.client job.target (job.report files)

/-! ### The stages of a run -/

theorem runIn_fetch (job : Job) (world : World) :
    (Program.fetch job.client job.target).runIn world =
      ((job.listing world).1.mapError .fetch, (job.listing world).2) := by
  rw [Program.fetch, Program.runIn_get_bind, Job.listing]
  -- which requests are made does not matter here, only that the exchange behind them is kept
  generalize job.client.changedFiles job.target = ask
  rw [Program.runIn_modify_bind, Program.runIn_orFail]

theorem runIn_publish (job : Job) (files : List ChangedFile) (world : World) :
    (Program.publish job.client job.target (job.report files)).runIn world =
      ((job.posting files world).1.mapError .post, (job.posting files world).2) := by
  rw [Program.publish, Program.post, Program.runIn_get_bind, Job.posting, Job.comment]
  generalize job.client.postComment job.target = ask
  rw [Program.runIn_modify_bind, Program.runIn_orFail]

/-- A file that cannot be written leaves everything as it is. -/
theorem runIn_write (name text : String) (world : World) :
    (Program.write name text).runIn world =
      match world.files.write name text with
      | .error e => (.error (.reportWrite e), world)
      | .ok files => (.ok (), { world with files := files }) := by
  rw [Program.write, Program.runIn_get_bind, Program.runIn_orFail_bind]
  cases world.files.write name text <;> rfl

/-- The report is built from the files before anything is done with it. -/
theorem remoteReport_bind (job : Job) (next : Report → Program Unit) :
    (Program.remoteReport job.client job.filter job.target >>= next) =
      Program.fetch job.client job.target >>= fun files => next (job.report files) := by
  rw [Program.remoteReport, bind_assoc]
  simp only [pure_bind]
  rfl

/-- A workflow's command does its job. -/
theorem runIn_action (settings : Settings) (dryRun : Bool) (world : World) :
    (Program.action settings dryRun).runIn world =
      match (action dryRun).jobUnder settings world with
      | .error failure => (.error failure, world)
      | .ok job => ((action dryRun).carryOut job).runIn world := by
  rw [Program.action, Program.runIn_get_bind, Program.runIn_orFail_bind]
  dsimp only [jobUnder]
  cases Workflow.resolve _ world.environment world.files with
  | error e => rfl
  | ok workflow =>
    refine congrArg (Program.runIn · world) ((remoteReport_bind
      ⟨⟨settings.resolvedApiUrl, workflow.token⟩, workflow.target, settings.filter⟩ _).trans ?_)
    refine congrArg (_ >>= ·) (funext fun files => congrArg (_ >>= ·) (funext fun _ => ?_))
    cases dryRun <;> rfl

/-- The command for an address does its job. -/
theorem runIn_analyze (settings : Settings) (address : String) (post : Bool)
    (output : Option String) (world : World) :
    (Program.analyze settings address post output).runIn world =
      match (analyze address post output).jobUnder settings world with
      | .error failure => (.error failure, world)
      | .ok job => ((analyze address post output).carryOut job).runIn world := by
  rw [Program.analyze]
  dsimp only [jobUnder]
  cases PullRequest.ofAddress? address with
  | none => rfl
  | some target =>
    dsimp only
    rw [Program.runIn_get_bind]
    cases settings.resolvedToken? world.environment world.tokenStore world.files with
    | none => rfl
    | some token =>
      exact congrArg (Program.runIn · world) (remoteReport_bind
        ⟨⟨settings.resolvedApiUrl, token⟩, target, settings.filter⟩ _)

/-- Both commands do their job, if there is one to be done. -/
theorem runIn_run (remote : Remote) (world : World) :
    (Program.run remote.command).runIn world =
      match remote.job world with
      | .error failure => (.error failure, world)
      | .ok job => (remote.carryOut job).runIn world := by
  rw [Program.run, Program.runIn_get_bind, Program.runIn_orFail_bind, job]
  cases Settings.load world.files with
  | error e => rfl
  | ok settings =>
    cases remote with
    | action dryRun => exact runIn_action settings dryRun world
    | analyze address post output => exact runIn_analyze settings address post output world

theorem runIn_carryOut (remote : Remote) (job : Job) (world : World) :
    (remote.carryOut job).runIn world =
      match job.listing world with
      | (.error e, next) => (.error (.fetch e), next)
      | (.ok files, next) =>
        match remote.delivery job files next with
        | (.error failure, next) => (.error failure, next)
        | (.ok _, next) =>
          if remote.posts then
            ((job.posting files next).1.mapError .post, (job.posting files next).2)
          else (.ok (), next) := by
  rw [carryOut, Program.runIn_bind, runIn_fetch]
  rcases job.listing world with ⟨_ | files, next⟩
  · rfl
  · dsimp only [Except.mapError]
    rw [Program.runIn_bind, delivery]
    rcases (remote.deliver (job.report files)).runIn next with ⟨_ | _, last⟩
    · rfl
    · dsimp only
      by_cases hposts : remote.posts = true
      · rw [if_pos hposts, if_pos hposts, runIn_publish]
        cases (job.posting files last).1 <;> rfl
      · rw [if_neg hposts, if_neg hposts, Program.runIn_pure]

/-! ### How runs go -/

/-- How the program ends, and the world behind it: the stages are passed through up to the first
that fails. -/
def outcome (remote : Remote) (world : World) : Ending × World :=
  match remote.job world with
  | .error failure => (.failed failure, world)
  | .ok job =>
    match job.listing world with
    | (.error e, listed) => (.failed (.fetch e), listed)
    | (.ok files, listed) =>
      match remote.delivery job files listed with
      | (.error failure, delivered) => (.failed failure, delivered)
      | (.ok _, delivered) =>
        if remote.posts then
          match job.posting files delivered with
          | (.error e, posted) => (.failed (.post e), posted)
          | (.ok _, posted) => (.done, posted)
        else (.done, delivered)

/-- The files have been listed and the report on them has been handed over. -/
structure Delivered (remote : Remote) (world : World) (job : Job) (files : List ChangedFile)
    (next : World) : Prop where
  prepared : remote.job world = .ok job
  listed : (job.listing world).1 = .ok files
  delivered : remote.delivery job files (job.listing world).2 = (.ok (), next)

end Remote

/-- The program goes through the stages, whatever the world. -/
theorem CommandLine.run_eq_outcome {remote : Remote} {arguments : List String}
    (h : Arguments.parse arguments = .ok remote.command) (world : World) :
    run arguments world = remote.outcome world := by
  rw [run, h, Remote.outcome]
  dsimp only
  rw [Remote.runIn_run]
  cases remote.job world with
  | error failure => rfl
  | ok job =>
    dsimp only
    rw [Remote.runIn_carryOut]
    rcases job.listing world with ⟨e | files, listed⟩
    · rfl
    · dsimp only
      rcases remote.delivery job files listed with ⟨failure | _, delivered⟩
      · rfl
      · dsimp only
        by_cases hposts : remote.posts = true
        · rw [if_pos hposts, if_pos hposts]
          rcases job.posting files delivered with ⟨e | _, posted⟩ <;> rfl
        · rw [if_neg hposts, if_neg hposts]

/-- The ways in which a run can go, with how the program ends and the world behind it. -/
inductive Course (remote : Remote) (world : World) : Ending → World → Prop where
  | unprepared {failure : Failure} (prepared : remote.job world = .error failure) :
    Course remote world (.failed failure) world
  | unlisted {job : Job} {e : GitHub.Error} (prepared : remote.job world = .ok job)
      (listed : (job.listing world).1 = .error e) :
    Course remote world (.failed (.fetch e)) (job.listing world).2
  | undelivered {job : Job} {files : List ChangedFile} {failure : Failure} {next : World}
      (prepared : remote.job world = .ok job) (listed : (job.listing world).1 = .ok files)
      (delivered : remote.delivery job files (job.listing world).2 = (.error failure, next)) :
    Course remote world (.failed failure) next
  | unposted {job : Job} {files : List ChangedFile} {next : World} {e : GitHub.Error}
      (delivered : remote.Delivered world job files next) (posts : remote.posts = true)
      (posted : (job.posting files next).1 = .error e) :
    Course remote world (.failed (.post e)) (job.posting files next).2
  | posted {job : Job} {files : List ChangedFile} {next : World}
      (delivered : remote.Delivered world job files next) (posts : remote.posts = true)
      (posted : (job.posting files next).1 = .ok ()) :
    Course remote world .done (job.posting files next).2
  | notPosted {job : Job} {files : List ChangedFile} {next : World}
      (delivered : remote.Delivered world job files next) (posts : remote.posts = false) :
    Course remote world .done next

namespace Remote

/-- Every run goes one of these ways. -/
theorem course_outcome (remote : Remote) (world : World) :
    Course remote world (remote.outcome world).1 (remote.outcome world).2 := by
  rw [outcome]
  cases hjob : remote.job world with
  | error failure => exact .unprepared hjob
  | ok job =>
    dsimp only
    rcases hlisting : job.listing world with ⟨e | files, listed⟩
    · have hcourse := Course.unlisted hjob (congrArg Prod.fst hlisting)
      rwa [hlisting] at hcourse
    · have hfiles : (job.listing world).1 = .ok files := congrArg Prod.fst hlisting
      have hlisted : (job.listing world).2 = listed := congrArg Prod.snd hlisting
      dsimp only
      rcases hdelivery : remote.delivery job files listed with ⟨failure | _, delivered⟩
      · rw [← hlisted] at hdelivery
        exact .undelivered hjob hfiles hdelivery
      · rw [← hlisted] at hdelivery
        have hdelivered : remote.Delivered world job files delivered := ⟨hjob, hfiles, hdelivery⟩
        dsimp only
        by_cases hposts : remote.posts = true
        · rw [if_pos hposts]
          rcases hposting : job.posting files delivered with ⟨e | _, posted⟩
          · have hcourse := Course.unposted hdelivered hposts (congrArg Prod.fst hposting)
            rwa [hposting] at hcourse
          · have hcourse := Course.posted hdelivered hposts (congrArg Prod.fst hposting)
            rwa [hposting] at hcourse
        · rw [if_neg hposts]
          exact .notPosted hdelivered (Bool.eq_false_iff.2 hposts)

end Remote

theorem Remote.outcome_of_delivered {remote : Remote} {world next : World} {job : Job}
    {files : List ChangedFile} (h : remote.Delivered world job files next) :
    remote.outcome world =
      if remote.posts then
        match job.posting files next with
        | (.error e, posted) => (.failed (.post e), posted)
        | (.ok _, posted) => (.done, posted)
      else (.done, next) := by
  obtain ⟨hjob, hfiles, hdelivery⟩ := h
  rw [outcome, hjob]
  dsimp only
  rcases hlisting : job.listing world with ⟨result, listed⟩
  rw [hlisting] at hfiles hdelivery
  obtain rfl : result = .ok files := hfiles
  dsimp only at hdelivery ⊢
  rw [hdelivery]

/-- No other way is open in the same world. -/
theorem Course.eq_outcome {remote : Remote} {world after : World} {ending : Ending}
    (h : Course remote world ending after) : remote.outcome world = (ending, after) := by
  cases h with
  | unprepared hjob => rw [Remote.outcome, hjob]
  -- in each case the stages that are passed through are rewritten to the pairs they come to
  | @unlisted job e hjob hlisted =>
    rw [Remote.outcome, hjob]
    dsimp only
    rcases hlisting : job.listing world with ⟨result, listed⟩
    rw [hlisting] at hlisted
    obtain rfl : result = .error e := hlisted
    rfl
  | @undelivered job files failure _ hjob hfiles hdelivery =>
    rw [Remote.outcome, hjob]
    dsimp only
    rcases hlisting : job.listing world with ⟨result, listed⟩
    rw [hlisting] at hfiles hdelivery
    obtain rfl : result = .ok files := hfiles
    dsimp only at hdelivery ⊢
    rw [hdelivery]
  | @unposted job files next e hdelivered hposts hposted =>
    rw [Remote.outcome_of_delivered hdelivered, if_pos hposts]
    rcases hposting : job.posting files next with ⟨result, posted⟩
    rw [hposting] at hposted
    obtain rfl : result = .error e := hposted
    rfl
  | @posted job files next hdelivered hposts hposted =>
    rw [Remote.outcome_of_delivered hdelivered, if_pos hposts]
    rcases hposting : job.posting files next with ⟨result, posted⟩
    rw [hposting] at hposted
    obtain rfl : result = .ok () := hposted
    rfl
  | notPosted hdelivered hposts =>
    rw [Remote.outcome_of_delivered hdelivered, hposts]
    rfl

end PullReport
