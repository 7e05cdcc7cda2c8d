import PullReport.Proofs.GitHub.Paging
import PullReport.Proofs.Program.Stages

/-!
# What reports on pull requests ask for, and how they end

Nothing is asked before it is known what is to be done. Then come the pages of the list of changed
files, and then, once everything else has gone well, the comment, if one is wanted at all. The exit
code tells at which stage a run has ended.

## Main definitions

* `Job.pages`, `Job.commentRequest?`: the requests that a job can make.
* `Job.Lists`, `Job.FailsToList`: whether the replies list the files of a job.
* `Requests`: which requests a run makes, and on which conditions.
* `Failure.IsMisuse`: the program was not told properly what to do.
* `Remote.Comments`, `Remote.FailsToComment`: what becomes of the comment.
* `Says`, `ExitCodes`: what an exit code says, and when which one is given.

## Main results

* `Job.listing_cases`, `Job.sent_posting`, `Remote.delivery_cases`: what each stage does.
* `Job.posting_eq_ok_iff`: when a comment is taken.
* `Course.requests`: the requests of any run.
* `Course.says`, `Course.exitCodes`: the exit codes of any run.
* `CommandLine.run_accounted`: both, for any arguments of these commands and in any world.
-/

namespace PullReport

open Reply

/-- The reply is a success. -/
def Reply.Succeeds : Reply → Prop
  | answer code _ => 200 ≤ code ∧ code < 300
  | unreachable => False

theorem Reply.succeeds_iff {reply : Reply} :
    reply.Succeeds ↔ ∃ body, GitHub.content reply = .ok body := by
  cases reply with
  | unreachable => simp [Succeeds, GitHub.content]
  | answer code body =>
    rw [Succeeds, GitHub.content, isSuccess, ← decide_eq_true_eq (p := 200 ≤ code ∧ code < 300),
      Bool.decide_and]
    cases decide (200 ≤ code) && decide (code < 300) <;> simp

namespace Job

/-! ### The stages and their requests -/

/-- The requests for the first `n` pages of the list of changed files. There are none if no request
can be made of the list's address. -/
def pages (job : Job) (n : Nat) : List Request :=
  match job.client.locate (job.client.filesAddress job.target) with
  | .error _ => []
  | .ok place => job.client.pageRequests place 1 n

/-- The request that posts the report on some files, if one can be made of the address. -/
def commentRequest? (job : Job) (files : List ChangedFile) : Option Request :=
  match job.client.locate (job.client.commentsAddress job.target) with
  | .error _ => none
  | .ok place => some (job.client.commentRequest place (job.comment files))

theorem pages_of_located {job : Job} {place : Url}
    (h : job.client.locate (job.client.filesAddress job.target) = .ok place) (n : Nat) :
    job.pages n = job.client.pageRequests place 1 n := by
  rw [pages, h]

theorem method_of_mem_pages {job : Job} {n : Nat} {request : Request}
    (h : request ∈ job.pages n) : request.method = .get := by
  rw [pages] at h
  split at h
  · cases h
  · obtain ⟨i, -, rfl⟩ := List.mem_map.1 h
    rfl

theorem method_of_commentRequest? {job : Job} {files : List ChangedFile} {request : Request}
    (h : job.commentRequest? files = some request) : request.method = .post := by
  rw [commentRequest?] at h
  split at h
  · cases h
  · obtain rfl := Option.some.inj h
    rfl

/-- Listing the files writes and prints nothing. -/
theorem listing_frame (job : Job) (world : World) :
    (job.listing world).2.printed = world.printed ∧
      (job.listing world).2.files = world.files := by
  rw [listing]
  exact ⟨rfl, rfl⟩

/-- The replies list these files of a job, in answer to these requests for their pages: every page
up to the first one that is not full can be read, and that one, too. -/
inductive Lists (job : Job) (replies : List Reply) : List ChangedFile → List Request → Prop
  | read {place : Url} {k : Nat}
      (located : job.client.locate (job.client.filesAddress job.target) = .ok place)
      (last : IsLastPage replies k) (read : ((nth replies k).files?).isSome) :
      Lists job replies (filesUpTo replies (k + 1)) (job.client.pageRequests place 1 (k + 1))

/-- The replies do not list the files of a job, and these are the requests that find it out: none,
since none can be made of the list's address, or those for the pages up to the first one that is not
full, which cannot be read. -/
inductive FailsToList (job : Job) (replies : List Reply) : List Request → Prop
  | unlocated {e : GitHub.Error}
      (located : job.client.locate (job.client.filesAddress job.target) = .error e) :
      FailsToList job replies []
  | unread {place : Url} {k : Nat}
      (located : job.client.locate (job.client.filesAddress job.target) = .ok place)
      (last : IsLastPage replies k) (unread : (nth replies k).files? = none) :
      FailsToList job replies (job.client.pageRequests place 1 (k + 1))

/-- **Listing the files** succeeds or fails as the replies have it. -/
theorem listing_cases (job : Job) (world : World) :
    (∃ e gets, (job.listing world).1 = .error e ∧ job.FailsToList world.exchange.replies gets ∧
        (job.listing world).2.exchange.sent = world.exchange.sent ++ gets) ∨
      ∃ files gets, (job.listing world).1 = .ok files ∧
        job.Lists world.exchange.replies files gets ∧ (job.listing world).2.exchange =
          ⟨world.exchange.replies.drop gets.length, world.exchange.sent ++ gets⟩ := by
  cases hplace : job.client.locate (job.client.filesAddress job.target) with
  | error e =>
    refine .inl ⟨e, [], ?_, .unlocated hplace, ?_⟩
    · rw [listing, GitHub.Client.changedFiles, hplace]
    · rw [listing, GitHub.Client.changedFiles, hplace, List.append_nil]
  | ok place =>
    obtain ⟨k, hk⟩ := exists_isLastPage world.exchange.replies
    have hlisting := GitHub.Client.changedFiles_of_isLastPage hplace hk
    cases hlast : GitHub.listed (nth world.exchange.replies k) with
    | error e =>
      have hnone : (nth world.exchange.replies k).files? = none := by
        refine Option.eq_none_iff_forall_ne_some.2 fun files hfiles => ?_
        rw [listed_eq_ok_iff.2 hfiles] at hlast
        cases hlast
      refine .inl ⟨e, _, ?_, .unread hplace hk hnone, ?_⟩
      · rw [listing, hlisting, hlast]
        rfl
      · rw [listing, hlisting]
        rfl
    | ok page =>
      have hpage := listed_eq_ok_iff.1 hlast
      refine .inr ⟨filesUpTo world.exchange.replies (k + 1), _, ?_,
        .read hplace hk (Option.isSome_of_eq_some hpage), ?_⟩
      · rw [listing, hlisting, hlast, filesUpTo_succ, hpage]
        rfl
      · rw [listing, hlisting, GitHub.Client.length_pageRequests]
        rfl

/-- The requests for the pages follow from the replies. -/
theorem Lists.unique {job : Job} {replies : List Reply} {files others : List ChangedFile}
    {gets asked : List Request} (h : job.Lists replies files gets)
    (hother : job.Lists replies others asked) : gets = asked := by
  obtain ⟨hplace, hk, -⟩ := h
  obtain ⟨hlocated, hl, -⟩ := hother
  rw [hk.unique hl, Except.ok.inj (hplace.symm.trans hlocated)]

theorem Lists.not_failsToList {job : Job} {replies : List Reply} {files : List ChangedFile}
    {gets asked : List Request} (h : job.Lists replies files gets) :
    ¬ job.FailsToList replies asked := by
  obtain ⟨hplace, hk, hread⟩ := h
  intro hfails
  cases hfails with
  | unlocated hlocated => cases hplace.symm.trans hlocated
  | unread hlocated hl hnone =>
    rw [hk.unique hl, hnone] at hread
    cases hread

/-- Pages that are listed are pages of the list, each of which can be read. -/
theorem Lists.exists_pages {job : Job} {replies : List Reply} {files : List ChangedFile}
    {gets : List Request} (h : job.Lists replies files gets) :
    ∃ n, gets = job.pages n ∧ ∀ i < gets.length, ((nth replies i).files?).isSome := by
  obtain ⟨hplace, hk, hread⟩ := h
  refine ⟨_, (pages_of_located hplace _).symm, fun i hi => ?_⟩
  rw [GitHub.Client.length_pageRequests] at hi
  rcases Nat.lt_or_eq_of_le (Nat.le_of_lt_succ hi) with hlt | rfl
  · obtain ⟨page, hpage, -⟩ := hk.full i hlt
    exact Option.isSome_of_eq_some hpage
  · exact hread

theorem FailsToList.exists_pages {job : Job} {replies : List Reply} {gets : List Request}
    (h : job.FailsToList replies gets) : ∃ n, gets = job.pages n := by
  cases h with
  | unlocated hlocated => exact ⟨0, by rw [pages, hlocated]⟩
  | unread hlocated hk hnone => exact ⟨_, (pages_of_located hlocated _).symm⟩

/-- Listing the files asks for pages, and if it succeeds then each of them has been listed. -/
theorem sent_listing (job : Job) (world : World) :
    ∃ n, (job.listing world).2.exchange.sent = world.exchange.sent ++ job.pages n ∧
      ∀ files, (job.listing world).1 = .ok files →
        ∀ i < (job.pages n).length, ((nth world.exchange.replies i).files?).isSome := by
  rcases job.listing_cases world with
    ⟨e, gets, herror, hfails, hsent⟩ | ⟨files, gets, -, hlists, hexchange⟩
  · obtain ⟨n, hpages⟩ := hfails.exists_pages
    refine ⟨n, by rw [hsent, hpages], fun files hfiles => ?_⟩
    cases herror.symm.trans hfiles
  · obtain ⟨n, hpages, hlisted⟩ := hlists.exists_pages
    refine ⟨n, ?_, fun _ _ => ?_⟩
    · rw [hexchange, ← hpages]
    · rwa [← hpages]

/-- Posting a comment is one request at most. -/
theorem sent_posting (job : Job) (files : List ChangedFile) (world : World) :
    (job.posting files world).2.exchange.sent =
      world.exchange.sent ++ (job.commentRequest? files).toList := by
  rw [posting, commentRequest?, GitHub.Client.postComment]
  cases job.client.locate (job.client.commentsAddress job.target) with
  | error e => exact (List.append_nil _).symm
  | ok place => rfl

/-- **Posting a comment** goes well if a request can be made for it and the reply to it is a
success. -/
theorem posting_eq_ok_iff (job : Job) (files : List ChangedFile) {world : World}
    {replies : List Reply} {n : Nat} (h : world.exchange.replies = replies.drop n) :
    (job.posting files world).1 = .ok () ↔
      (∃ request, job.commentRequest? files = some request) ∧ (nth replies n).Succeeds := by
  have hreply : (replies.drop n).headD .exhausted = nth replies n := by
    rw [nth, List.headD_eq_head?_getD, List.head?_drop, List.getD_eq_getElem?_getD]
  rw [posting, commentRequest?, GitHub.Client.postComment]
  cases job.client.locate (job.client.commentsAddress job.target) with
  | error e => simp
  | ok place =>
    dsimp only [Exchange.send]
    rw [h, hreply, succeeds_iff]
    cases GitHub.content (nth replies n) <;> simp [Except.map]

end Job

/-! ### Handing a report over -/

namespace Remote

/-- Handing a report over asks nothing of any server, and only writing a file can fail. -/
theorem delivery_cases (remote : Remote) (job : Job) (files : List ChangedFile) (world : World) :
    (remote.delivery job files world).2.exchange = world.exchange ∧
      ∀ failure, (remote.delivery job files world).1 = .error failure →
        ∃ e, failure = .reportWrite e := by
  rw [delivery]
  cases remote with
  | action dryRun => exact ⟨rfl, fun failure h => by cases h⟩
  | analyze address post output =>
    cases output with
    | none => exact ⟨rfl, fun failure h => by cases h⟩
    | some name =>
      rw [deliver, Program.deliver, runIn_write]
      cases world.files.write name _ with
      | error e => exact ⟨rfl, fun failure h => ⟨e, (Except.error.inj h).symm⟩⟩
      | ok tree => exact ⟨rfl, fun failure h => by cases h⟩

/-- Handing over the report on listed files comes behind the requests for their pages. -/
theorem sent_delivery (remote : Remote) (job : Job) (files : List ChangedFile) (world : World) :
    ∃ n, (remote.delivery job files (job.listing world).2).2.exchange.sent =
        world.exchange.sent ++ job.pages n ∧
      ∀ listed, (job.listing world).1 = .ok listed →
        ∀ i < (job.pages n).length, ((nth world.exchange.replies i).files?).isSome := by
  rw [(remote.delivery_cases job files (job.listing world).2).1]
  exact job.sent_listing world

end Remote

/-! ### Requests -/

/-- The requests of a run: pages first, in order, and perhaps one comment behind them. -/
structure Requests (remote : Remote) (world after : World) (gets posts : List Request) : Prop where
  sent : after.exchange.sent = world.exchange.sent ++ gets ++ posts
  /-- Only pages of the one list are asked for. -/
  gets_eq : gets = [] ∨ ∃ job n, remote.job world = .ok job ∧ gets = job.pages n
  method_gets : ∀ request ∈ gets, request.method = .get
  /-- Only one comment is posted, on a report that has been handed over. -/
  posts_eq : posts = [] ∨ ∃ job files next request, posts = [request] ∧
    remote.Delivered world job files next ∧ job.commentRequest? files = some request
  method_posts : ∀ request ∈ posts, request.method = .post
  /-- A comment is posted only if it is asked for. -/
  asked : posts ≠ [] → remote.posts = true
  /-- A comment is posted only if every page has been listed. -/
  listed : posts ≠ [] → ∀ i < gets.length, ((nth world.exchange.replies i).files?).isSome

variable {remote : Remote} {world after : World} {ending : Ending}

/-- A run that has come as far as handing the report over has asked for pages alone. -/
theorem Remote.Delivered.sent {job : Job} {files : List ChangedFile} {next : World}
    (h : remote.Delivered world job files next) :
    ∃ n, next.exchange.sent = world.exchange.sent ++ job.pages n ∧
      ∀ i < (job.pages n).length, ((nth world.exchange.replies i).files?).isSome := by
  obtain ⟨n, hsent, hlisted⟩ := remote.sent_delivery job files world
  rw [h.delivered] at hsent
  exact ⟨n, hsent, hlisted files h.listed⟩

theorem Requests.none (remote : Remote) (world : World) : Requests remote world world [] [] where
  sent := by rw [List.append_nil, List.append_nil]
  gets_eq := Or.inl rfl
  method_gets := fun _ h => by cases h
  posts_eq := Or.inl rfl
  method_posts := fun _ h => by cases h
  asked := absurd rfl
  listed := absurd rfl

theorem Requests.of_pages {job : Job} {n : Nat} (hjob : remote.job world = .ok job)
    (hsent : after.exchange.sent = world.exchange.sent ++ job.pages n) :
    Requests remote world after (job.pages n) [] where
  sent := by rw [hsent, List.append_nil]
  gets_eq := Or.inr ⟨job, n, hjob, rfl⟩
  method_gets := fun _ => Job.method_of_mem_pages
  posts_eq := Or.inl rfl
  method_posts := fun _ h => by cases h
  asked := absurd rfl
  listed := absurd rfl

/-- Behind a report that has been handed over, the replies to the pages are used up. -/
theorem Remote.Delivered.exists_lists {job : Job} {files : List ChangedFile} {next : World}
    (h : remote.Delivered world job files next) :
    ∃ gets, job.Lists world.exchange.replies files gets ∧
      next.exchange = ⟨world.exchange.replies.drop gets.length, world.exchange.sent ++ gets⟩ := by
  have hnext := (remote.delivery_cases job files (job.listing world).2).1
  rw [h.delivered] at hnext
  rcases job.listing_cases world with ⟨e, gets, herror, -⟩ | ⟨others, gets, hok, hlists, hbehind⟩
  · cases herror.symm.trans h.listed
  · obtain rfl := Except.ok.inj (hok.symm.trans h.listed)
    exact ⟨gets, hlists, hnext.trans hbehind⟩

/-- Posting adds one request at most. -/
theorem Requests.of_posting {job : Job} {files : List ChangedFile} {next : World}
    (h : remote.Delivered world job files next) (hposts : remote.posts = true) :
    ∃ gets posts, Requests remote world (job.posting files next).2 gets posts := by
  obtain ⟨n, hsent, hlisted⟩ := h.sent
  refine ⟨job.pages n, (job.commentRequest? files).toList, ?_, Or.inr ⟨job, n, h.prepared, rfl⟩,
    fun _ => Job.method_of_mem_pages, ?_, ?_, fun _ => hposts, fun _ => hlisted⟩
  · rw [job.sent_posting, hsent]
  · cases hrequest : job.commentRequest? files with
    | none => exact Or.inl rfl
    | some request => exact Or.inr ⟨job, files, next, request, rfl, h, hrequest⟩
  · intro request hmem
    exact Job.method_of_commentRequest? (Option.mem_toList.1 hmem)

/-- **The requests of any run.** If the files could not be listed nothing is posted. -/
theorem Course.requests (h : Course remote world ending after) :
    ∃ gets posts, Requests remote world after gets posts ∧
      (ending.exitCode = 3 → posts = []) := by
  cases h with
  | unprepared hjob => exact ⟨[], [], .none remote world, fun _ => rfl⟩
  | @unlisted job e hjob hlisted =>
    obtain ⟨n, hsent, -⟩ := job.sent_listing world
    exact ⟨job.pages n, [], .of_pages hjob hsent, fun _ => rfl⟩
  | @undelivered job files failure next hjob hlisted hdelivered =>
    obtain ⟨n, hsent, -⟩ := remote.sent_delivery job files world
    rw [hdelivered] at hsent
    exact ⟨job.pages n, [], .of_pages hjob hsent, fun _ => rfl⟩
  | unposted hdelivered hposts hposted =>
    obtain ⟨gets, posts, hrequests⟩ := Requests.of_posting hdelivered hposts
    exact ⟨gets, posts, hrequests, fun hcode => by cases hcode⟩
  | posted hdelivered hposts hposted =>
    obtain ⟨gets, posts, hrequests⟩ := Requests.of_posting hdelivered hposts
    exact ⟨gets, posts, hrequests, fun hcode => by cases hcode⟩
  | notPosted hdelivered hposts =>
    obtain ⟨n, hsent, -⟩ := hdelivered.sent
    exact ⟨_, [], .of_pages hdelivered.prepared hsent, fun _ => rfl⟩

/-! ### Exit codes -/

/-- The failures of a program that was not told properly what to do. -/
inductive Failure.IsMisuse : Failure → Prop where
  | missing (which : List Variable) : IsMisuse (.settings (.missing which))
  | invalid (which : Variable) (value : String) : IsMisuse (.settings (.invalid which value))
  | notPullRequest (address : String) : IsMisuse (.notPullRequest address)

theorem Failure.exitCode_eq_two_iff {failure : Failure} :
    failure.exitCode = 2 ↔ failure.IsMisuse := by
  constructor
  · intro h
    cases failure with
    | settings error =>
      cases error with
      | missing which => exact .missing which
      | invalid which value => exact .invalid which value
      | unreadable error => cases h
      | malformed => cases h
      | malformedEvent => cases h
    | notPullRequest address => exact .notPullRequest address
    | _ => cases h
  · intro h
    cases h <;> rfl

theorem Failure.exitCode_ne_zero (failure : Failure) : failure.exitCode ≠ 0 := by
  cases failure with
  | settings error => cases error <;> exact Nat.succ_ne_zero _
  | _ => exact Nat.succ_ne_zero _

/-- Not knowing what is to be done is one of two exit codes. -/
theorem Remote.exitCode_of_job {failure : Failure} (h : remote.job world = .error failure) :
    failure.exitCode = 1 ∨ failure.exitCode = 2 := by
  have hsettings (e : Settings.Error) :
      (Failure.settings e).exitCode = 1 ∨ (Failure.settings e).exitCode = 2 := by
    cases e with
    | missing which => exact Or.inr rfl
    | invalid which value => exact Or.inr rfl
    | _ => exact Or.inl rfl
  rw [job] at h
  split at h
  · obtain rfl := Except.error.inj h
    exact hsettings _
  · rename_i settings hload
    have hprepares := remote.prepares_jobUnder settings world
    rw [h] at hprepares
    cases hprepares with
    | noWorkflow hresolve => exact hsettings _
    | noPage hnone => exact Or.inr rfl
    | noToken htarget hnone => exact hsettings _

theorem Remote.exitCode_of_delivery {job : Job} {files : List ChangedFile} {failure : Failure}
    (h : remote.delivery job files world = (.error failure, after)) : failure.exitCode = 1 := by
  obtain ⟨e, rfl⟩ := (remote.delivery_cases job files world).2 failure (congrArg Prod.fst h)
  rfl

theorem Course.unique {other : Ending} {elsewhere : World}
    (h : Course remote world ending after) (hother : Course remote world other elsewhere) :
    ending = other :=
  congrArg Prod.fst (h.eq_outcome.symm.trans hother.eq_outcome)

/-- What an exit code says about a run. -/
inductive Says (remote : Remote) (world after : World) (ending : Ending) : Nat → Prop where
  | done {job : Job} {files : List ChangedFile} {next : World}
      (delivered : remote.Delivered world job files next)
      (posted : remote.posts = true → (job.posting files next).1 = .ok ()) :
    Says remote world after ending 0
  | otherwise {failure : Failure} (failed : ending = .failed failure) :
    Says remote world after ending 1
  | misuse {failure : Failure} (prepared : remote.job world = .error failure)
      (failed : ending = .failed failure) (misuse : failure.IsMisuse) (unchanged : after = world) :
    Says remote world after ending 2
  | unlisted {job : Job} {e : GitHub.Error} (prepared : remote.job world = .ok job)
      (listed : (job.listing world).1 = .error e) (printed : after.printed = world.printed)
      (written : after.files = world.files) :
    Says remote world after ending 3
  | unposted {job : Job} {files : List ChangedFile} {next : World} {e : GitHub.Error}
      (delivered : remote.Delivered world job files next) (posts : remote.posts = true)
      (posted : (job.posting files next).1 = .error e) :
    Says remote world after ending 4

/-- Whichever way a run goes, its exit code says so. -/
theorem Course.says (h : Course remote world ending after) :
    Says remote world after ending ending.exitCode := by
  cases h with
  | @unprepared failure hjob =>
    rcases Remote.exitCode_of_job hjob with hcode | hcode
    · rw [Ending.exitCode, hcode]
      exact .otherwise rfl
    · rw [Ending.exitCode, hcode]
      exact .misuse hjob rfl (Failure.exitCode_eq_two_iff.1 hcode) rfl
  | @unlisted job e hjob hlisted =>
    obtain ⟨hprinted, hwritten⟩ := job.listing_frame world
    exact .unlisted hjob hlisted hprinted hwritten
  | undelivered hjob hlisted hdelivered =>
    rw [Ending.exitCode, Remote.exitCode_of_delivery hdelivered]
    exact .otherwise rfl
  | unposted hdelivered hposts hposted => exact .unposted hdelivered hposts hposted
  | posted hdelivered hposts hposted => exact .done hdelivered fun _ => hposted
  | notPosted hdelivered hposts =>
    exact .done hdelivered fun h => absurd (hposts.symm.trans h) Bool.false_ne_true

/-- A comment is not asked for, or its request is the last one, behind those for the pages, and the
reply to it is a success. -/
def Remote.Comments (remote : Remote) (job : Job) (files : List ChangedFile) (world after : World)
    (gets : List Request) : Prop :=
  remote.posts = false ∧ after.exchange.sent = world.exchange.sent ++ gets ∨
    remote.posts = true ∧ ∃ post, job.commentRequest? files = some post ∧
      after.exchange.sent = world.exchange.sent ++ gets ++ [post] ∧
      (nth world.exchange.replies gets.length).Succeeds

/-- A comment is asked for, and no request can be made for it, or its request is the last one and
the reply to it is no success. -/
def Remote.FailsToComment (remote : Remote) (job : Job) (files : List ChangedFile)
    (world after : World) (gets : List Request) : Prop :=
  remote.posts = true ∧
    (job.commentRequest? files = none ∧ after.exchange.sent = world.exchange.sent ++ gets ∨
      ∃ post, job.commentRequest? files = some post ∧
        after.exchange.sent = world.exchange.sent ++ gets ++ [post] ∧
        ¬ (nth world.exchange.replies gets.length).Succeeds)

/-- The world behind a run that has handed its report over is the one behind posting it, if that is
asked for. -/
theorem Course.after_eq {job : Job} {files : List ChangedFile} {next : World}
    (h : Course remote world ending after) (hdelivered : remote.Delivered world job files next) :
    after = if remote.posts then (job.posting files next).2 else next := by
  have houtcome := h.eq_outcome.symm.trans (Remote.outcome_of_delivered hdelivered)
  by_cases hposts : remote.posts = true
  · rw [if_pos hposts] at houtcome ⊢
    rcases hposting : job.posting files next with ⟨e | _, posted⟩ <;> rw [hposting] at houtcome <;>
      exact congrArg Prod.snd houtcome
  · rw [if_neg hposts] at houtcome ⊢
    exact congrArg Prod.snd houtcome

/-- What a run that has handed its report over has sent, and whether the comment is taken. -/
theorem Course.comments_or_fails {job : Job} {files : List ChangedFile} {next : World}
    {gets : List Request} (h : Course remote world ending after)
    (hdelivered : remote.Delivered world job files next)
    (hlists : job.Lists world.exchange.replies files gets) :
    ((remote.posts = true → (job.posting files next).1 = .ok ()) ↔
        remote.Comments job files world after gets) ∧
      ((remote.posts = true ∧ ∃ e, (job.posting files next).1 = .error e) ↔
        remote.FailsToComment job files world after gets) := by
  obtain ⟨asked, hasked, hnext⟩ := hdelivered.exists_lists
  obtain rfl := hlists.unique hasked
  have hok := job.posting_eq_ok_iff files (congrArg Exchange.replies hnext)
  have hafter := h.after_eq hdelivered
  by_cases hposts : remote.posts = true
  · have hsent : after.exchange.sent =
        world.exchange.sent ++ gets ++ (job.commentRequest? files).toList := by
      rw [hafter, if_pos hposts, job.sent_posting, hnext]
    rw [Remote.Comments, Remote.FailsToComment, hsent]
    cases hrequest : job.commentRequest? files with
    | none =>
      rw [hrequest] at hok
      cases hposted : (job.posting files next).1 with
      | ok _ => simp [hposted] at hok
      | error e => simp [hposts]
    | some post =>
      rw [hrequest] at hok
      cases hposted : (job.posting files next).1 with
      | ok _ =>
        have hsucceeds := (hok.1 hposted).2
        simp [hposts, hsucceeds]
      | error e =>
        have hfails : ¬ (nth world.exchange.replies gets.length).Succeeds := by
          intro hsucceeds
          rw [hok.2 ⟨⟨post, rfl⟩, hsucceeds⟩] at hposted
          cases hposted
        simp [hposts, hfails]
  · have hsent : after.exchange.sent = world.exchange.sent ++ gets := by
      rw [hafter, if_neg hposts, hnext]
    simp [Remote.Comments, Remote.FailsToComment, hposts, hsent]

/-- When which exit code is given, and what is left undone then. -/
structure ExitCodes (remote : Remote) (world after : World) (ending : Ending) : Prop where
  /-- Every stage that was asked for has gone well. -/
  zero : ending.exitCode = 0 ↔ ∃ job files next, remote.Delivered world job files next ∧
    (remote.posts = true → (job.posting files next).1 = .ok ())
  /-- So the replies list the files, and a comment that is asked for is sent and taken. -/
  zero_of_replies : ending.exitCode = 0 ↔ ∃ job files next gets,
    remote.Delivered world job files next ∧ job.Lists world.exchange.replies files gets ∧
      remote.Comments job files world after gets
  /-- Any other failure. -/
  one : ending.exitCode = 1 ↔ (∃ failure, ending = .failed failure) ∧
    ending.exitCode ≠ 2 ∧ ending.exitCode ≠ 3 ∧ ending.exitCode ≠ 4
  /-- The program was not told properly what to do. -/
  two : ending.exitCode = 2 ↔ ∃ failure, remote.job world = .error failure ∧
    ending = .failed failure ∧ failure.IsMisuse
  unchanged_of_two : ending.exitCode = 2 → after = world
  /-- The files could not be listed. -/
  three : ending.exitCode = 3 ↔
    ∃ job e, remote.job world = .ok job ∧ (job.listing world).1 = .error e
  /-- So the replies do not list them, and only the requests that find it out are sent. -/
  three_of_replies : ending.exitCode = 3 ↔ ∃ job gets, remote.job world = .ok job ∧
    job.FailsToList world.exchange.replies gets ∧
      after.exchange.sent = world.exchange.sent ++ gets
  unreported_of_three : ending.exitCode = 3 →
    after.printed = world.printed ∧ after.files = world.files
  /-- The comment could not be posted. -/
  four : ending.exitCode = 4 ↔ ∃ job files next, remote.Delivered world job files next ∧
    remote.posts = true ∧ ∃ e, (job.posting files next).1 = .error e
  /-- So the replies list the files, and the comment is not sent or not taken. -/
  four_of_replies : ending.exitCode = 4 ↔ ∃ job files next gets,
    remote.Delivered world job files next ∧ job.Lists world.exchange.replies files gets ∧
      remote.FailsToComment job files world after gets

/-! ### When which exit code is given

Towards the right, knowing the exit code leaves one way to say it. Towards the left, the course that
the stages make is the course of the run. -/

theorem Course.exitCode_eq_zero_iff (h : Course remote world ending after) :
    ending.exitCode = 0 ↔ ∃ job files next, remote.Delivered world job files next ∧
      (remote.posts = true → (job.posting files next).1 = .ok ()) := by
  constructor
  · intro hcode
    have hsaid := h.says
    rw [hcode] at hsaid
    cases hsaid with
    | done hdelivered hposted => exact ⟨_, _, _, hdelivered, hposted⟩
  · rintro ⟨job, files, next, hdelivered, hposted⟩
    by_cases hposts : remote.posts = true
    · rw [h.unique (.posted hdelivered hposts (hposted hposts))]
      rfl
    · rw [h.unique (.notPosted hdelivered (Bool.eq_false_iff.2 hposts))]
      rfl

theorem Course.exitCode_eq_one_iff (h : Course remote world ending after) :
    ending.exitCode = 1 ↔ (∃ failure, ending = .failed failure) ∧
      ending.exitCode ≠ 2 ∧ ending.exitCode ≠ 3 ∧ ending.exitCode ≠ 4 := by
  have hsaid := h.says
  constructor
  · intro hcode
    rw [hcode] at hsaid
    cases hsaid with
    | otherwise hfailed => exact ⟨⟨_, hfailed⟩, by omega, by omega, by omega⟩
  · rintro ⟨⟨failure, hfailed⟩, htwo, hthree, hfour⟩
    have hzero : ending.exitCode ≠ 0 := by
      rw [hfailed]
      exact failure.exitCode_ne_zero
    generalize ending.exitCode = code at *
    cases hsaid with
    | done _ _ => exact absurd rfl hzero
    | otherwise _ => rfl
    | misuse _ _ _ _ => exact absurd rfl htwo
    | unlisted _ _ _ _ => exact absurd rfl hthree
    | unposted _ _ _ => exact absurd rfl hfour

theorem Course.exitCode_eq_two_iff (h : Course remote world ending after) :
    ending.exitCode = 2 ↔ ∃ failure, remote.job world = .error failure ∧
      ending = .failed failure ∧ failure.IsMisuse := by
  constructor
  · intro hcode
    have hsaid := h.says
    rw [hcode] at hsaid
    cases hsaid with
    | misuse hjob hfailed hmisuse _ => exact ⟨_, hjob, hfailed, hmisuse⟩
  · rintro ⟨failure, -, rfl, hmisuse⟩
    exact Failure.exitCode_eq_two_iff.2 hmisuse

theorem Course.exitCode_eq_three_iff (h : Course remote world ending after) :
    ending.exitCode = 3 ↔
      ∃ job e, remote.job world = .ok job ∧ (job.listing world).1 = .error e := by
  constructor
  · intro hcode
    have hsaid := h.says
    rw [hcode] at hsaid
    cases hsaid with
    | unlisted hjob hlisted _ _ => exact ⟨_, _, hjob, hlisted⟩
  · rintro ⟨job, e, hjob, hlisted⟩
    rw [h.unique (.unlisted hjob hlisted)]
    rfl

theorem Course.exitCode_eq_four_iff (h : Course remote world ending after) :
    ending.exitCode = 4 ↔ ∃ job files next, remote.Delivered world job files next ∧
      remote.posts = true ∧ ∃ e, (job.posting files next).1 = .error e := by
  constructor
  · intro hcode
    have hsaid := h.says
    rw [hcode] at hsaid
    cases hsaid with
    | unposted hdelivered hposts hposted => exact ⟨_, _, _, hdelivered, hposts, _, hposted⟩
  · rintro ⟨job, files, next, hdelivered, hposts, e, hposted⟩
    rw [h.unique (.unposted hdelivered hposts hposted)]
    rfl

/-- The replies alone decide whether the files are listed. -/
theorem Course.exitCode_eq_three_iff_failsToList (h : Course remote world ending after) :
    ending.exitCode = 3 ↔ ∃ job gets, remote.job world = .ok job ∧
      job.FailsToList world.exchange.replies gets ∧
        after.exchange.sent = world.exchange.sent ++ gets := by
  rw [h.exitCode_eq_three_iff]
  constructor
  · rintro ⟨job, e, hjob, hlisted⟩
    have hcourse := Course.unlisted hjob hlisted
    obtain ⟨-, hafter⟩ := Prod.mk.inj (hcourse.eq_outcome.symm.trans h.eq_outcome)
    rcases job.listing_cases world with ⟨e, gets, -, hfails, hsent⟩ | ⟨files, gets, hok, -⟩
    · rw [hafter] at hsent
      exact ⟨job, gets, hjob, hfails, hsent⟩
    · cases hlisted.symm.trans hok
  · rintro ⟨job, gets, hjob, hfails, -⟩
    rcases job.listing_cases world with ⟨e, -, herror, -⟩ | ⟨files, asked, -, hlists, -⟩
    · exact ⟨job, e, hjob, herror⟩
    · exact absurd hfails hlists.not_failsToList

/-- The replies alone decide whether the comment is taken. -/
theorem Course.exitCode_eq_zero_iff_comments (h : Course remote world ending after) :
    ending.exitCode = 0 ↔ ∃ job files next gets, remote.Delivered world job files next ∧
      job.Lists world.exchange.replies files gets ∧ remote.Comments job files world after gets := by
  rw [h.exitCode_eq_zero_iff]
  constructor
  · rintro ⟨job, files, next, hdelivered, hposted⟩
    obtain ⟨gets, hlists, -⟩ := hdelivered.exists_lists
    exact ⟨job, files, next, gets, hdelivered, hlists,
      (h.comments_or_fails hdelivered hlists).1.1 hposted⟩
  · rintro ⟨job, files, next, gets, hdelivered, hlists, hcomments⟩
    exact ⟨job, files, next, hdelivered, (h.comments_or_fails hdelivered hlists).1.2 hcomments⟩

theorem Course.exitCode_eq_four_iff_failsToComment (h : Course remote world ending after) :
    ending.exitCode = 4 ↔ ∃ job files next gets, remote.Delivered world job files next ∧
      job.Lists world.exchange.replies files gets ∧
        remote.FailsToComment job files world after gets := by
  rw [h.exitCode_eq_four_iff]
  constructor
  · rintro ⟨job, files, next, hdelivered, hfails⟩
    obtain ⟨gets, hlists, -⟩ := hdelivered.exists_lists
    exact ⟨job, files, next, gets, hdelivered, hlists,
      (h.comments_or_fails hdelivered hlists).2.1 hfails⟩
  · rintro ⟨job, files, next, gets, hdelivered, hlists, hfails⟩
    exact ⟨job, files, next, hdelivered, (h.comments_or_fails hdelivered hlists).2.2 hfails⟩

/-- **The exit codes of any run.** -/
theorem Course.exitCodes (h : Course remote world ending after) :
    ExitCodes remote world after ending where
  zero := h.exitCode_eq_zero_iff
  zero_of_replies := h.exitCode_eq_zero_iff_comments
  one := h.exitCode_eq_one_iff
  two := h.exitCode_eq_two_iff
  unchanged_of_two := fun hcode => by
    have hsaid := h.says
    rw [hcode] at hsaid
    cases hsaid with
    | misuse _ _ _ hunchanged => exact hunchanged
  three := h.exitCode_eq_three_iff
  three_of_replies := h.exitCode_eq_three_iff_failsToList
  unreported_of_three := fun hcode => by
    have hsaid := h.says
    rw [hcode] at hsaid
    cases hsaid with
    | unlisted _ _ hprinted hwritten => exact ⟨hprinted, hwritten⟩
  four := h.exitCode_eq_four_iff
  four_of_replies := h.exitCode_eq_four_iff_failsToComment

/-- **What a run asks for and how it ends.** Whatever the world, the requests are those for pages of
the list of changed files and then at most one that posts a comment, which is made only if it is
asked for, every page has been listed and the report has been handed over. The exit code says which
stage has failed, if any; nothing is asked and nothing changes if the program was not told properly
what to do, and nothing is posted or reported if the files could not be listed. -/
theorem CommandLine.run_accounted (remote : Remote) (arguments : List String) (world : World)
    (h : Arguments.parse arguments = .ok remote.command) :
    (∃ gets posts, Requests remote world (run arguments world).2 gets posts ∧
      ((run arguments world).1.exitCode = 3 → posts = [])) ∧
    ExitCodes remote world (run arguments world).2 (run arguments world).1 := by
  have hcourse := remote.course_outcome world
  rw [← run_eq_outcome h] at hcourse
  exact ⟨hcourse.requests, hcourse.exitCodes⟩

/-- A run in which a comment is asked for and posted. -/
theorem CommandLine.run_analyze_post :
    ∃ job files next, Remote.Delivered
        (.analyze "https://github.com/octo/widgets/pull/7" true none)
        ⟨⟨[], []⟩, fun _ => some "tok", some "/home", ⟨[.answer 200 "[]", .answer 201 ""], []⟩,
          .never, none, false, ""⟩ job files next ∧
      (job.posting files next).1 = .ok () := by
  have haccount := run_accounted (.analyze "https://github.com/octo/widgets/pull/7" true none)
    ["analyze", "https://github.com/octo/widgets/pull/7", "--post"]
    ⟨⟨[], []⟩, fun _ => some "tok", some "/home", ⟨[.answer 200 "[]", .answer 201 ""], []⟩, .never,
      none, false, ""⟩ (by rfl)
  obtain ⟨job, files, next, hdelivered, hposted⟩ := haccount.2.zero.1 (by decide +kernel)
  exact ⟨job, files, next, hdelivered, hposted rfl⟩

end PullReport
