import Mathlib.Data.List.DropRight
import PullReport.Proofs.Program.RemoteRuns
import PullReport.Proofs.Settings.Tokens
import PullReport.Proofs.Settings.Workflow

/-!
# The token of a run

Reports on pull requests are made with the token that the settings resolve to. All requests of a run
show this one token, and it is reported as missing only if there is none. So what is true of the
resolved token is true of a run: unless a blank entry is taken for a token, it is the first one that
is not blank, wherever that is, and no request is made without a token in it.

## Main definitions

* `Request.IsShown`: what a header shows of a token.
* `UsesToken`: a run shows a token, and does not miss it.

## Main results

* `Request.headerValue_bearer`: what a header shows of a token that is not blank.
* `Remote.resolvedToken?_of_job`: a job has the resolved token.
* `CommandLine.run_uses_first_token`: which token a run shows.
-/

namespace PullReport

open Text

/-! ### Headers -/

/-- A text is what a header shows of a token: all of it but spaces and tabs at its end, and there is
something to be shown. -/
structure Request.IsShown (shown token : String) : Prop where
  parts : ∃ padding, token.toList = shown.toList ++ padding ∧ ∀ c ∈ padding, c = ' ' ∨ c = '\t'
  not_blank : isBlankText shown.toList = false

/-- A header shows a token that is not blank up to the spaces and tabs behind it. -/
theorem Request.headerValue_bearer {token : String} (h : isBlankText token.toList = false) :
    ∃ shown, headerValue ("Bearer " ++ token) = "Bearer " ++ shown ∧ IsShown shown token := by
  let isPadding (c : Char) : Bool := c = ' ' || c = '\t'
  have hpadding : ∀ c ∈ token.toList.rtakeWhile isPadding, c = ' ' ∨ c = '\t' := by
    intro c hc
    simpa [isPadding] using List.mem_rtakeWhile_imp hc
  let shown := token.toList.rdropWhile isPadding
  have hsplit : shown ++ token.toList.rtakeWhile isPadding = token.toList :=
    List.rdropWhile_append_rtakeWhile
  have hshown : isBlankText shown = false := by
    rw [← hsplit, isBlankText, List.all_append, Bool.and_eq_false_iff] at h
    refine h.resolve_right fun hbehind => ?_
    obtain ⟨c, hc, hblank⟩ := List.all_eq_false.1 hbehind
    rcases hpadding c hc with rfl | rfl <;> exact hblank (by decide)
  have hne : (token.toList.reverse.dropWhile isPadding).isEmpty = false := by
    cases hempty : token.toList.reverse.dropWhile isPadding with
    | nil =>
      rw [show shown = [] from congrArg List.reverse hempty] at hshown
      cases hshown
    | cons c cs => rfl
  have hfront : ("Bearer " ++ token).toList.dropWhile isPadding =
      "Bearer ".toList ++ token.toList := by
    rw [String.toList_append]
    exact List.dropWhile_cons_of_neg (by decide)
  -- what is dropped ends within the token, since something of the token is left
  have hend : ("Bearer ".toList ++ token.toList).rdropWhile isPadding =
      "Bearer ".toList ++ shown := by
    rw [List.rdropWhile, List.reverse_append, List.dropWhile_append, hne]
    change (token.toList.reverse.dropWhile isPadding ++ "Bearer ".toList.reverse).reverse = _
    rw [List.reverse_append, List.reverse_reverse]
    rfl
  refine ⟨String.ofList shown, ?_, ⟨_, ?_, hpadding⟩, ?_⟩
  · change String.ofList
      ((("Bearer " ++ token).toList.dropWhile isPadding).rdropWhile isPadding) = _
    rw [hfront, hend, String.ofList_append, String.ofList_toList]
  · rw [String.toList_ofList, hsplit]
  · rwa [String.toList_ofList]

/-! ### Jobs -/

theorem Job.authorization_of_mem_pages {job : Job} {n : Nat} {request : Request}
    (h : request ∈ job.pages n) :
    request.authorization = some (Request.headerValue job.client.authorization) := by
  rw [pages] at h
  split at h
  · cases h
  · obtain ⟨i, -, rfl⟩ := List.mem_map.1 h
    rfl

theorem Job.authorization_of_commentRequest? {job : Job} {files : List ChangedFile}
    {request : Request} (h : job.commentRequest? files = some request) :
    request.authorization = some (Request.headerValue job.client.authorization) := by
  rw [commentRequest?] at h
  split at h
  · cases h
  · obtain rfl := Option.some.inj h
    rfl

namespace Remote

variable {remote : Remote} {world : World} {settings : Settings} {job : Job}
  {which : List Variable}

theorem prepares_job (h : Settings.load world.files = .ok settings) :
    Prepares settings world remote (remote.job world) := by
  rw [Remote.job, h]
  exact remote.prepares_jobUnder settings world

/-- A job has the resolved token. -/
theorem resolvedToken?_of_job (hload : Settings.load world.files = .ok settings)
    (h : remote.job world = .ok job) :
    settings.resolvedToken? world.environment world.tokenStore world.files =
      some job.client.token := by
  have hprepares : Prepares settings world remote (.ok job) := h ▸ prepares_job hload
  cases hprepares with
  | workflow hresolve =>
    exact (Workflow.resolve_eq_ok_iff.1 hresolve).token.1
  | page htarget htoken => exact htoken

/-- A token is reported as missing only if the resolved one is of no use. -/
theorem nonBlank?_of_token_missing (hload : Settings.load world.files = .ok settings)
    (h : remote.job world = .error (.settings (.missing which))) (hmem : Variable.token ∈ which) :
    nonBlank? (settings.resolvedToken? world.environment world.tokenStore world.files) = none := by
  have hprepares : Prepares settings world remote (.error (.settings (.missing which))) :=
    h ▸ prepares_job hload
  cases hprepares with
  | noWorkflow hresolve =>
    exact isUnset_iff.1 (((Workflow.namesMissing_of_resolve hresolve).1.mem_iff .token).1 hmem)
  | noToken htarget htoken =>
    rw [htoken]
    rfl

end Remote

/-- Whoever is found wanting has never got as far as asking anything. -/
theorem Course.job_of_settings {remote : Remote} {world after : World} {e : Settings.Error}
    (h : Course remote world (.failed (.settings e)) after) :
    remote.job world = .error (.settings e) := by
  generalize hending : Ending.failed (.settings e) = ending at h
  cases h with
  | unprepared hjob =>
    obtain rfl := Ending.failed.inj hending
    exact hjob
  | unlisted hjob hlisted => cases hending
  | undelivered hjob hlisted hdelivered =>
    -- a report that cannot be handed over is no fault of the settings
    obtain ⟨fault, rfl⟩ := (remote.delivery_cases _ _ _).2 _ (congrArg Prod.fst hdelivered)
    cases hending
  | unposted hdelivered hposts hposted => cases hending
  | posted hdelivered hposts hposted => cases hending
  | notPosted hdelivered hposts => cases hending

/-! ### Runs -/

/-- A run uses a token, if there is one: every request shows it, so that without a token there are
no requests. If it is reported as missing, there is none. -/
structure UsesToken (world after : World) (ending : Ending) (token : Option String) : Prop where
  shown : ∃ asked, after.exchange.sent = world.exchange.sent ++ asked ∧
    ∀ request ∈ asked, ∃ given shown, token = some given ∧
      request.authorization = some ("Bearer " ++ shown) ∧ Request.IsShown shown given
  missing : ∀ which, ending = .failed (.settings (.missing which)) → Variable.token ∈ which →
    token = none

section

variable {remote : Remote} {world after : World} {ending : Ending} {settings : Settings}

/-- All requests of a run show the token of its job. -/
theorem Requests.exists_job {gets posts : List Request}
    (h : Requests remote world after gets posts) {request : Request}
    (hmem : request ∈ gets ++ posts) :
    ∃ job, remote.job world = .ok job ∧
      request.authorization = some (Request.headerValue job.client.authorization) := by
  rcases List.mem_append.1 hmem with hget | hpost
  · rcases h.gets_eq with hnil | ⟨job, n, hjob, hpages⟩
    · rw [hnil] at hget
      cases hget
    · rw [hpages] at hget
      exact ⟨job, hjob, Job.authorization_of_mem_pages hget⟩
  · rcases h.posts_eq with hnil | ⟨job, files, next, comment, hposts, hdelivered, hcomment⟩
    · rw [hnil] at hpost
      cases hpost
    · rw [hposts, List.mem_singleton] at hpost
      subst hpost
      exact ⟨job, hdelivered.prepared, Job.authorization_of_commentRequest? hcomment⟩

/-- However a run goes, if no blank entry is taken for a token it uses the first one that is not
blank. -/
theorem Course.usesToken (h : Course remote world ending after)
    (hload : Settings.load world.files = .ok settings)
    (hnone : ∀ token, ¬ settings.TakesBlank world.environment world.tokenStore world.files token) :
    UsesToken world after ending
      (settings.usableToken? world.environment world.tokenStore world.files) := by
  have husable := Settings.resolvedToken?_eq_usableToken?_iff.2 hnone
  obtain ⟨gets, posts, hrequests, -⟩ := h.requests
  refine ⟨⟨gets ++ posts, by rw [hrequests.sent, List.append_assoc], fun request hmem => ?_⟩,
    fun which hending hmem => ?_⟩
  · obtain ⟨job, hjob, hauthorization⟩ := hrequests.exists_job hmem
    have htoken := husable.symm.trans (Remote.resolvedToken?_of_job hload hjob)
    obtain ⟨shown, hheader, hshown⟩ :=
      Request.headerValue_bearer (Settings.isBlankText_of_usableToken? htoken)
    exact ⟨_, shown, htoken, hauthorization.trans (congrArg some hheader), hshown⟩
  · subst hending
    have hmissing := Remote.nonBlank?_of_token_missing hload h.job_of_settings hmem
    rw [husable] at hmissing
    -- a usable token would count as it is
    refine Option.eq_none_iff_forall_ne_some.2 fun token htoken => ?_
    rw [htoken, nonBlank?_eq_some_iff.2
      ⟨rfl, Settings.isBlankText_of_usableToken? htoken⟩] at hmissing
    cases hmissing

end

/-- **Which token a run uses.** Whatever the settings, the environment and the store, the token that
they resolve to is the first one that is not blank, except where a blank entry is taken for a token;
then it is that entry. Without such an entry a run uses the first token that is not blank, and if
there is no such token it asks nothing. -/
theorem CommandLine.run_uses_first_token (remote : Remote) (arguments : List String) (world : World)
    (settings : Settings) (h : Arguments.parse arguments = .ok remote.command)
    (hload : Settings.load world.files = .ok settings) :
    (settings.resolvedToken? world.environment world.tokenStore world.files =
        settings.usableToken? world.environment world.tokenStore world.files ↔
      ∀ token, ¬ settings.TakesBlank world.environment world.tokenStore world.files token) ∧
    (∀ token, settings.TakesBlank world.environment world.tokenStore world.files token →
      settings.resolvedToken? world.environment world.tokenStore world.files = some token) ∧
    ((∀ token, ¬ settings.TakesBlank world.environment world.tokenStore world.files token) →
      UsesToken world (run arguments world).2 (run arguments world).1
        (settings.usableToken? world.environment world.tokenStore world.files)) := by
  refine ⟨Settings.resolvedToken?_eq_usableToken?_iff,
    fun token => Settings.resolvedToken?_of_takesBlank, fun hnone => ?_⟩
  rw [run_eq_outcome h]
  exact (remote.course_outcome world).usesToken hload hnone

/-- A blank variable does not keep the stored token from being used. -/
theorem CommandLine.run_uses_stored_token :
    let files : FileTree := ⟨[(["home"], .directory), (["home", "pr-helper"], .directory),
      (["home", "pr-helper", "token"], .file "b2xk")], []⟩
    let environment : Environment := fun name => if name = .token then some " " else none
    let world : World := ⟨files, environment, some "/home", ⟨[], []⟩, .never, none, false, ""⟩
    Settings.load world.files = .ok {} ∧
      UsesToken world (run ["analyze", "https://github.com/octo/widgets/pull/7"] world).2
        (run ["analyze", "https://github.com/octo/widgets/pull/7"] world).1 (some "old") := by
  intro files environment world
  have hload : Settings.load world.files = .ok {} := by decide +kernel
  have hstored : ({} : Settings).usableToken? environment world.tokenStore files = some "old" := by
    decide +kernel
  have hresolved : ({} : Settings).resolvedToken? environment world.tokenStore files =
      some "old" := by
    decide +kernel
  obtain ⟨hfirst, -, huses⟩ := run_uses_first_token
    (.analyze "https://github.com/octo/widgets/pull/7" false none)
    ["analyze", "https://github.com/octo/widgets/pull/7"] world {} rfl hload
  have hrun := huses (hfirst.1 (hresolved.trans hstored.symm))
  rw [show ({} : Settings).usableToken? world.environment world.tokenStore world.files = some "old"
    from hstored] at hrun
  exact ⟨hload, hrun⟩

/-- A blank entry in the settings hides the token of the environment: it is shown as it is, or else
the token is reported as missing. -/
theorem CommandLine.run_shows_blank_token :
    let files : FileTree := ⟨[([".pr-helper.toml"], .file "[github]\ntoken = \"  \"\n")], []⟩
    let environment : Environment := fun name => if name = .token then some "tok" else none
    let world : World := ⟨files, environment, some "/home", ⟨[], []⟩, .never, none, false, ""⟩
    let settings : Settings := { token := some "  " }
    Settings.load files = .ok settings ∧
      settings.usableToken? environment world.tokenStore files = some "tok" ∧
      settings.resolvedToken? environment world.tokenStore files = some "  " ∧
      (run ["analyze", "https://github.com/octo/widgets/pull/7"] world).2.exchange.sent.map
        Request.authorization = [some "Bearer"] ∧
      (run ["action"] world).1 =
        .failed (.settings (.missing [.token, .repository, .number])) := by
  decide +kernel

end PullReport
