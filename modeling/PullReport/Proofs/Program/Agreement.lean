import PullReport.Proofs.Analysis.Relevance
import PullReport.Proofs.Program.Stages

/-!
# Local and remote reports

A report is made of a diff that is at hand or of files that the code host lists. The two ways part
where the files come from and nowhere else: of the same files they find the same, and they count the
same number of relevant ones.

## Main results

* `Program.localReport_of_split`, `Program.runIn_remoteReport`: the report that each way makes.
* `Program.reports_agree`: they agree, and each finding depends on the files of its sort alone.
-/

namespace PullReport

namespace Program

/-- The report on a diff is the report on its files. -/
theorem localReport_of_split {diff : String} {files : List ChangedFile}
    (h : Diff.split diff = .ok files) (filter : FileFilter) (source : String) :
    localReport filter source diff = .ok (Report.ofFiles filter source files) := by
  rw [localReport, h]
  rfl

/-- The report on a pull request is the report on the files that are listed for it. Nothing but the
exchange with the server changes. -/
theorem runIn_remoteReport {client : GitHub.Client} {target : PullRequest} {world : World}
    {files : List ChangedFile}
    (h : (client.changedFiles target world.exchange).1 = .ok files) (filter : FileFilter) :
    (remoteReport client filter target).runIn world =
      (.ok (Report.ofFiles filter target.display files),
        { world with exchange := (client.changedFiles target world.exchange).2 }) := by
  have hlisting : (fetch client target).runIn world =
      (.ok files, { world with exchange := (client.changedFiles target world.exchange).2 }) := by
    rw [Remote.runIn_fetch ⟨client, target, filter⟩, Job.listing]
    dsimp only
    rw [h]
    rfl
  rw [remoteReport, runIn_bind, hlisting]
  rfl

/-- **Two ways to a report.** Of a diff and of a pull request whose files are listed as the diff has
them, the reports have the same findings, which are those of all the files, and the same number of
relevant files. Files that are not relevant may come, go and change places. Which references change
depends on the manifests alone, and which tests and methods do on the source files alone; a file of
both sorts matters to every finding. -/
theorem reports_agree (filter : FileFilter) :
    (∀ (source diff : String) (files : List ChangedFile), Diff.split diff = .ok files →
      ∀ (client : GitHub.Client) (target : PullRequest) (world : World),
        (client.changedFiles target world.exchange).1 = .ok files →
        ∃ near far next, localReport filter source diff = .ok near ∧
          (remoteReport client filter target).runIn world = (.ok far, next) ∧
          near.analysis = Analysis.ofFiles filter files ∧
          far.analysis = Analysis.ofFiles filter files ∧
          near.filesAnalyzed = files.countP (filter.isRelevant ·.filename) ∧
          far.filesAnalyzed = files.countP (filter.isRelevant ·.filename)) ∧
    (∀ files others : List ChangedFile, filter.relevant files = filter.relevant others →
      Analysis.ofFiles filter files = Analysis.ofFiles filter others ∧
        ∀ source, Report.ofFiles filter source files = Report.ofFiles filter source others) ∧
    (∀ files others : List ChangedFile, ChangedFile.AgreeOn filter.isManifest files others →
      (Analysis.ofFiles filter files).references = (Analysis.ofFiles filter others).references) ∧
    (∀ files others : List ChangedFile, ChangedFile.AgreeOn filter.isSource files others →
      (Analysis.ofFiles filter files).tests = (Analysis.ofFiles filter others).tests ∧
        (Analysis.ofFiles filter files).deletedMethods =
          (Analysis.ofFiles filter others).deletedMethods) ∧
    ∀ (before : List ChangedFile) (file : ChangedFile) (after : List ChangedFile),
      filter.isSource file.filename = true → filter.isManifest file.filename = true →
        Analysis.ofFiles filter (before ++ file :: after) =
          { tests := TestTally.ofLines ((filter.sources before).flatMap ChangedFile.lines ++
              file.lines ++ (filter.sources after).flatMap ChangedFile.lines)
            deletedMethods := DeletedMethod.ofFiles (filter.sources before) ++
              DeletedMethod.ofFile file ++ DeletedMethod.ofFiles (filter.sources after)
            references := ReferenceChange.summary
              (ReferenceMention.inFiles (filter.manifests before) ++
                file.lines.filterMap ReferenceMention.ofLine? ++
                  ReferenceMention.inFiles (filter.manifests after)) } := by
  refine ⟨fun source diff files hsplit client target world hlisted => ?_,
    fun files others h => ⟨Analysis.ofFiles_of_relevant_eq h, fun source => ?_⟩,
    fun files others => Analysis.references_of_agreeOn,
    fun files others => Analysis.findings_of_agreeOn,
    fun before file after hsource hmanifest =>
      Analysis.ofFiles_of_both_sorts filter hsource hmanifest before after⟩
  · refine ⟨_, _, _, localReport_of_split hsplit filter source,
      runIn_remoteReport hlisted filter, ?_⟩
    rw [Report.ofFiles_eq, Report.ofFiles_eq]
    exact ⟨rfl, rfl, rfl, rfl⟩
  · rw [Report.ofFiles, h, Report.ofFiles]

/-- A diff of a file of both sorts and an irrelevant one, and the same two files as listed. -/
theorem reports_agree_on_diff_and_listing :
    let filter : FileFilter := ⟨[".cs"], [".cs"]⟩
    let diff := "diff --git a/A.cs b/A.cs\n@@ -1 +0,0 @@\n-public void Run()\n" ++
      "diff --git a/x.md b/x.md\n"
    let files : List ChangedFile := [⟨"A.cs", "@@ -1 +0,0 @@\n-public void Run()"⟩, ⟨"x.md", ""⟩]
    let client : GitHub.Client := ⟨"https://api.github.com", "tok"⟩
    let target : PullRequest := ⟨"octo", "widgets", 7⟩
    let world : World := ⟨⟨[], []⟩, fun _ => none, some "/home", ⟨[.answer 200
      ("[\x7b\"filename\":\"A.cs\",\"patch\":\"@@ -1 +0,0 @@\\n-public void Run()\"\x7d," ++
        "\x7b\"filename\":\"x.md\"\x7d]")], []⟩, .never, none, false, ""⟩
    Diff.split diff = .ok files ∧ (client.changedFiles target world.exchange).1 = .ok files ∧
      ∃ near far next, localReport filter "a.patch" diff = .ok near ∧
        (remoteReport client filter target).runIn world = (.ok far, next) ∧
        near.analysis = far.analysis ∧ near.filesAnalyzed = 1 ∧ far.filesAnalyzed = 1 := by
  intro filter diff files client target world
  have hsplit : Diff.split diff = .ok files := by decide +kernel
  have hlisted : (client.changedFiles target world.exchange).1 = .ok files := by decide +kernel
  obtain ⟨near, far, next, hnear, hfar, hfindings, hfindings', hcount, hcount'⟩ :=
    (reports_agree filter).1 "a.patch" diff files hsplit client target world hlisted
  exact ⟨hsplit, hlisted, near, far, next, hnear, hfar, hfindings.trans hfindings'.symm,
    hcount, hcount'⟩

end Program

end PullReport
