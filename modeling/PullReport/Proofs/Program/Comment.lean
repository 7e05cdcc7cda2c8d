import PullReport.Proofs.Analysis.Relevance
import PullReport.Proofs.Json.Quotation
import PullReport.Proofs.Program.RemoteRuns
import PullReport.Proofs.Text.Replacement

/-!
# The comment on a pull request

The command of a workflow prints a report and posts it. Both come from the files on all the pages
that have been fetched, and both have the same text: the posted one has a heading in front and a
line break of the markup for each line feed, and it is wrapped up as a JSON object. Unwrapping it
gives the printed text back, unless that had such a line break in it from the start.

## Main definitions

* `Analysis.lineBreak`: the line break of the markup.
* `Analysis.Carries`: a comment carries a text.
* `Job.Fetched`: the pages of the list of changed files have been asked for and read.

## Main results

* `Analysis.commentBody_carries`: the body of a comment carries the text it is made of.
* `Job.exists_fetched`: listed files are those on the pages, one page after the other.
* `CommandLine.run_posts_printed_report`: what a run of a workflow's command posts.
-/

namespace PullReport

open Reply Text

/-! ### Bodies of comments -/

namespace Analysis

/-- The line break of the markup in which comments are shown. -/
def lineBreak : List Char := "<br />".toList

/-- A comment carries a text: behind the heading it has the text with a line break for each line
feed, and the text can be had back from it. -/
structure Carries (comment text : String) : Prop where
  /-- The text with its line feeds replaced, behind the heading. -/
  toList_eq : comment.toList = commentHeading.toList ++ replaced ['\n'] lineBreak text.toList
  /-- A comment is one line. -/
  feed_not_mem : '\n' ∉ comment.toList
  /-- Unless the text has a line break of its own, replacing line breaks gives it back. -/
  undone : ¬ lineBreak <:+: text.toList →
    replaced lineBreak ['\n'] (comment.toList.drop commentHeading.toList.length) = text.toList

theorem toList_commentBody (text : String) :
    (commentBody text).toList =
      commentHeading.toList ++ replaced ['\n'] lineBreak text.toList := by
  rw [commentBody, String.toList_append, String.toList_ofList, replaced_singleton]
  rfl

/-- **The body of a comment** carries the text it is made of. -/
theorem commentBody_carries (text : String) : Carries (commentBody text) text where
  toList_eq := toList_commentBody text
  feed_not_mem := by
    rw [toList_commentBody, List.mem_append, not_or]
    exact ⟨by decide, not_mem_replaced_singleton (by decide) _⟩
  undone := fun h => by
    have hbreak : lineBreak = '<' :: "br />".toList := rfl
    rw [toList_commentBody, List.drop_left]
    rw [hbreak] at h ⊢
    exact replaced_replaced (by decide) h

end Analysis

/-! ### Fetched pages -/

namespace Job

/-- Pages of the list of changed files have been asked for, and each has been read from the reply to
its request. -/
structure Fetched (job : Job) (world : World) (pages : List (List ChangedFile)) : Prop where
  /-- One request is made for each page. -/
  length_pages : (job.pages pages.length).length = pages.length
  sent : (job.listing world).2.exchange.sent = world.exchange.sent ++ job.pages pages.length
  read : ∀ (i : Nat) (h : i < pages.length),
    (nth world.exchange.replies i).files? = some pages[i]

variable {job : Job} {world : World} {files : List ChangedFile}

/-- **Listed files** are those on the pages, one page after the other. -/
theorem exists_fetched (h : (job.listing world).1 = .ok files) :
    ∃ pages, job.Fetched world pages ∧ files = pages.flatten := by
  cases hplace : job.client.locate (job.client.filesAddress job.target) with
  | error e =>
    rw [listing, GitHub.Client.changedFiles, hplace] at h
    cases h
  | ok place =>
    obtain ⟨k, hk⟩ := exists_isLastPage world.exchange.replies
    have hlisting := GitHub.Client.changedFiles_of_isLastPage hplace hk
    rw [listing, hlisting] at h
    cases hlast : GitHub.listed (nth world.exchange.replies k) with
    | error e =>
      rw [hlast] at h
      cases h
    | ok last =>
      have hlastFiles : (nth world.exchange.replies k).files? = some last :=
        listed_eq_ok_iff.1 hlast
      refine ⟨(List.range (k + 1)).map fun i => (nth world.exchange.replies i).files?.getD [],
        ⟨?_, ?_, fun i hi => ?_⟩, ?_⟩
      · rw [pages_of_located hplace, GitHub.Client.length_pageRequests]
      · rw [listing, hlisting, pages_of_located hplace, List.length_map, List.length_range]
        rfl
      · rw [List.length_map, List.length_range] at hi
        rw [List.getElem_map, List.getElem_range]
        rcases Nat.lt_or_eq_of_le (Nat.le_of_lt_succ hi) with hlt | rfl
        · obtain ⟨page, hpage, -⟩ := hk.full i hlt
          rw [hpage, Option.getD_some]
        · rw [hlastFiles, Option.getD_some]
      · rw [hlast] at h
        have hfiles : filesUpTo world.exchange.replies k ++ last = files := Except.ok.inj h
        rw [← hfiles, ← List.flatMap_def, ← filesUpTo, filesUpTo_succ, hlastFiles,
          Option.getD_some]

/-- The findings of a report are those about all the files. -/
theorem analysis_report (job : Job) (files : List ChangedFile) :
    (job.report files).analysis = Analysis.ofFiles job.filter files := by
  rw [report, Report.ofFiles_eq]

/-- Posting prints nothing. -/
theorem printed_posting (job : Job) (files : List ChangedFile) (world : World) :
    (job.posting files world).2.printed = world.printed := by
  rw [posting]

/-- The body of the request is read back as an object with the comment as its only member. -/
theorem read?_body_of_commentRequest? {request : Request}
    (h : job.commentRequest? files = some request) :
    Json.read? request.body =
      some (.object [(some "body", .string (some (job.comment files)))]) := by
  rw [commentRequest?] at h
  split at h
  · cases h
  · obtain rfl := Option.some.inj h
    exact Json.read?_singleton "body" (job.comment files)

end Job

/-! ### Runs -/

namespace Remote

/-- A workflow's command hands its report over by printing it. -/
theorem delivery_action (dryRun : Bool) (job : Job) (files : List ChangedFile) (world : World) :
    (action dryRun).delivery job files world =
      (.ok (), { world with
        printed := world.printed ++ ((job.report files).analysis.text ++ "\n") }) := by
  have hjoin (line : String) : String.join [line] = line := by simp [String.join]
  rw [delivery, deliver, Program.printLines, List.map_singleton, hjoin]
  rfl

/-- A run that has come as far as handing the report over, and is to post it, ends behind that. -/
theorem Delivered.outcome_snd {remote : Remote} {world next : World} {job : Job}
    {files : List ChangedFile} (h : remote.Delivered world job files next)
    (hposts : remote.posts = true) :
    (remote.outcome world).2 = (job.posting files next).2 := by
  rw [outcome_of_delivered h, if_pos hposts]
  rcases job.posting files next with ⟨_ | _, posted⟩ <;> rfl

end Remote

/-- **What is posted is what is printed.** Whatever the world, if a run of a workflow's command
makes a request that posts something, it is the last one, behind one request for each page of the
list of changed files. Its body is a JSON object with one member, which carries the text of the
report on the files of all these pages, and this text is what has been printed. -/
theorem CommandLine.run_posts_printed_report (arguments : List String) (world : World)
    (request : Request) (harguments : Arguments.parse arguments = .ok (.action false))
    (hsent : request ∈ (run arguments world).2.exchange.sent.drop world.exchange.sent.length)
    (hpost : request.method = .post) :
    ∃ (job : Job) (pages : List (List ChangedFile)) (text comment : String),
      (Remote.action false).job world = .ok job ∧ job.Fetched world pages ∧
      (run arguments world).2.exchange.sent =
        world.exchange.sent ++ job.pages pages.length ++ [request] ∧
      text = (Analysis.ofFiles job.filter pages.flatten).text ∧
      (run arguments world).2.printed = world.printed ++ (text ++ "\n") ∧
      Json.read? request.body = some (.object [(some "body", .string (some comment))]) ∧
      Analysis.Carries comment text := by
  have hrun : run arguments world = (Remote.action false).outcome world :=
    run_eq_outcome harguments world
  have hcourse := (Remote.action false).course_outcome world
  obtain ⟨gets, posts, hrequests, -⟩ := hcourse.requests
  rw [hrun, hrequests.sent, List.append_assoc, List.drop_left, List.mem_append] at hsent
  have hmem : request ∈ posts := by
    refine hsent.resolve_left fun hget => ?_
    rw [hrequests.method_gets request hget] at hpost
    cases hpost
  rcases hrequests.posts_eq with hnil | ⟨job, files, next, other, hposts, hdelivered, hrequest⟩
  · rw [hnil] at hmem
    cases hmem
  · rw [hposts, List.mem_singleton] at hmem
    subst hmem
    obtain ⟨pages, hfetched, rfl⟩ := Job.exists_fetched hdelivered.listed
    have hnext := hdelivered.delivered
    rw [Remote.delivery_action] at hnext
    obtain rfl := (Prod.mk.inj hnext).2
    refine ⟨job, pages, _, job.comment pages.flatten, hdelivered.prepared, hfetched, ?_, rfl, ?_,
      Job.read?_body_of_commentRequest? hrequest, ?_⟩
    · rw [hrun, hdelivered.outcome_snd rfl, Job.sent_posting, hrequest, hfetched.sent]
      rfl
    · rw [hrun, hdelivered.outcome_snd rfl, Job.printed_posting, Job.analysis_report,
        (job.listing_frame world).1]
    · rw [Job.comment, Job.analysis_report]
      exact Analysis.commentBody_carries _

/-- A run whose report has a quotation mark, a backslash and a line break in it. -/
theorem CommandLine.run_posts_report_on_quoted_file :
    let environment : Environment := fun
      | .token => some "tok"
      | .repository => some "octo/widgets"
      | .number => some "7"
      | _ => none
    let world : World := ⟨⟨[], []⟩, environment, some "/home", ⟨[.answer 200
      ("[\x7b\"filename\":\"a\\\"<br />\\\\.cs\",\"patch\":\"-public void Run()\"\x7d]"),
      .answer 201 ""], []⟩, .never, none, false, ""⟩
    ∃ request comment text, request ∈ (run ["action"] world).2.exchange.sent ∧
      (run ["action"] world).2.printed = text ++ "\n" ∧
      Json.read? request.body = some (.object [(some "body", .string (some comment))]) ∧
      Analysis.Carries comment text := by
  intro environment world
  have hsent : ∃ request ∈ (run ["action"] world).2.exchange.sent, request.method = .post := by
    decide +kernel
  obtain ⟨request, hmem, hpost⟩ := hsent
  obtain ⟨job, pages, text, comment, -, -, -, -, hprinted, hbody, hcarries⟩ :=
    run_posts_printed_report ["action"] world request (by rfl) hmem hpost
  refine ⟨request, comment, text, hmem, ?_, hbody, hcarries⟩
  rw [hprinted, String.empty_append]

end PullReport
