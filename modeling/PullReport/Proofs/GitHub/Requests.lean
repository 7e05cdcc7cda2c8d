import PullReport.Proofs.GitHub.Addresses

/-!
# What is asked for a page

The way from the address of a page to the requests for the pull request that it names. An address is
read twice on this way: once as that of a page, to find owner, repository and number, and once when
these have been put into an address of the API. For plain names neither reading changes anything, so
that the requests are found where the API has what belongs to the pull request.

The API may have its root in a directory of a server. Which one that is, is what the text configured
for it denotes, so nothing is required of that text but that it denotes one: it need not be written
in its shortest form.

A token that no header can hold stops a request before it is made. So whatever is said about the
requests that are made is said with a token that can be shown; with any other there are none.

## Main definitions

* `PullRequest.pathUnder`: the path to something that belongs to a pull request.
* `GitHub.Client.AsksUnder`: the requests for a pull request are those under a directory.

## Main results

* `GitHub.Client.locate_eq`: which addresses requests are made of.
* `GitHub.Client.asksUnder_of_isPlain`: what is asked for a pull request with plain names.
* `GitHub.Client.page_address_round_trip`: from the address of a page to the requests.
-/

namespace PullReport

open Text

/-- The path to something that belongs to the pull request, under a directory. -/
def PullRequest.pathUnder (directory : List (List Char)) (target : PullRequest)
    (takenAs part : String) : String :=
  String.ofList (directory.flatMap ('/' :: ·)) ++ "/repos/" ++ target.owner ++ "/" ++
    target.repo ++ "/" ++ takenAs ++ "/" ++ toString target.number ++ "/" ++ part

theorem PullRequest.IsPlain.isSegment_of_mem_segments {target : PullRequest} (h : target.IsPlain)
    {takenAs part : String} (htaken : Url.IsSegment true takenAs.toList)
    (hpart : Url.IsSegment true part.toList) :
    ∀ segment ∈ target.segments takenAs part, Url.IsSegment true segment := by
  simp only [PullRequest.segments, List.forall_mem_cons]
  exact ⟨by decide, h.owner.isSegment true, h.repo.isSegment true, htaken,
    Url.isSegment_toString true _, hpart, List.forall_mem_nil _⟩

namespace GitHub.Client

variable {client : Client} {target : PullRequest} {name : List Char} {host : Host}
  {directory : List (List Char)}

/-- The requests for a pull request are those under a directory of a server: its files are asked for
there page by page, up to the first page that is not full, and a comment is left there once. -/
structure AsksUnder (client : Client) (name : List Char) (host : Host)
    (directory : List (List Char)) (target : PullRequest) : Prop where
  filesAddress : Url.parse? (client.filesAddress target).toList =
    some ⟨.web name, some host, .segments (directory ++ target.segments "pulls" "files"), none⟩
  commentsAddress : Url.parse? (client.commentsAddress target).toList =
    some ⟨.web name, some host, .segments (directory ++ target.segments "issues" "comments"), none⟩
  files : Request.isHeaderValue client.authorization = true → ∀ exchange,
    ∃ k, Reply.IsLastPage exchange.replies k ∧
      (client.changedFiles target exchange).2.sent =
        exchange.sent ++ (List.range (k + 1)).map fun i =>
          { method := .get
            target := target.pathUnder directory "pulls" "files" ++
              "?per_page=100&page=" ++ toString (i + 1)
            accept := mediaType
            authorization := some (Request.headerValue client.authorization) }
  comment : Request.isHeaderValue client.authorization = true → ∀ text exchange,
    (client.postComment target text exchange).2.sent =
      exchange.sent ++
        [{ method := .post
           target := target.pathUnder directory "issues" "comments"
           accept := mediaType
           authorization := some (Request.headerValue client.authorization)
           contentType := some "application/json"
           body := Json.singleton "body" text }]
  silent : Request.isHeaderValue client.authorization = false → ∀ exchange,
    (client.changedFiles target exchange).2 = exchange ∧
      ∀ text, (client.postComment target text exchange).2 = exchange

/-- Requests are made of every address of a server, if the token can be shown. -/
theorem locate_eq {address : String} {path : Url.Path} {query : Option (List Char)}
    (hname : name = "http".toList ∨ name = "https".toList)
    (h : Url.parse? address.toList = some ⟨.web name, some host, path, query⟩) :
    client.locate address =
      if Request.isHeaderValue client.authorization then
        .ok ⟨.web name, some host, path, query⟩
      else .error .invalidToken := by
  have hhttp : Url.isHttp ⟨.web name, some host, path, query⟩ = true := by
    rcases hname with rfl | rfl <;> rfl
  rw [locate, h]
  dsimp only
  rw [if_neg (not_not_intro ⟨hhttp, rfl⟩)]
  cases Request.isHeaderValue client.authorization <;> rfl

/-- The request for a page of a list whose address has no query. -/
theorem pageRequest_eq {place : Url} (h : place.query = none) (page : Nat) :
    client.pageRequest place page =
      { method := .get
        target := String.ofList place.pathText ++ "?per_page=100&page=" ++ toString page
        accept := mediaType
        authorization := some (Request.headerValue client.authorization) } := by
  have hfields : String.ofList place.upToFields = String.ofList place.pathText ++ "?" := by
    rw [Url.upToFields, h, String.ofList_append]
  have htarget : (client.pageRequest place page).target =
      String.ofList place.pathText ++ "?per_page=100&page=" ++ toString page := by
    rw [pageRequest_target, hfields, String.append_assoc, String.append_assoc,
      String.append_assoc]
    rfl
  rw [← htarget]
  rfl

/-- The request that leaves a comment where there is no query. -/
theorem commentRequest_eq {place : Url} (h : place.query = none) (text : String) :
    client.commentRequest place text =
      { method := .post
        target := String.ofList place.pathText
        accept := mediaType
        authorization := some (Request.headerValue client.authorization)
        contentType := some "application/json"
        body := Json.singleton "body" text } := by
  rw [commentRequest, Url.requestTarget, h, List.append_nil]

/-- An address under the API is that of the thing it is meant for. -/
theorem parse?_address (hdirectory : Url.IsDirectory client.base.toList name host directory)
    (h : target.IsPlain) {takenAs part : String} (htaken : Url.IsSegment true takenAs.toList)
    (hpart : Url.IsSegment true part.toList) :
    Url.parse? (client.address target takenAs part).toList =
      some ⟨.web name, some host, .segments (directory ++ target.segments takenAs part), none⟩ := by
  have hne : target.segments takenAs part ≠ [] := List.cons_ne_nil _ _
  rw [toList_address]
  exact hdirectory.parse?_intercalate hne (h.isSegment_of_mem_segments htaken hpart)

theorem ofList_pathText {place : Url} {takenAs part : String}
    (h : place.path = .segments (directory ++ target.segments takenAs part)) :
    String.ofList place.pathText = target.pathUnder directory takenAs part := by
  rw [Url.pathText, h, PullRequest.segments, PullRequest.pathUnder, ← String.toList_inj]
  simp

/-- **What is asked for a pull request** with plain names. -/
theorem asksUnder_of_isPlain (hdirectory : Url.IsDirectory client.base.toList name host directory)
    (h : target.IsPlain) : client.AsksUnder name host directory target := by
  have hfiles : Url.parse? (client.filesAddress target).toList = _ :=
    parse?_address hdirectory h (by decide) (by decide)
  have hcomments : Url.parse? (client.commentsAddress target).toList = _ :=
    parse?_address hdirectory h (by decide) (by decide)
  have hfilesAt : client.locate (client.filesAddress target) = _ :=
    locate_eq hdirectory.scheme hfiles
  have hcommentsAt : client.locate (client.commentsAddress target) = _ :=
    locate_eq hdirectory.scheme hcomments
  refine ⟨hfiles, hcomments, fun htoken exchange => ?_, fun htoken text exchange => ?_,
    fun htoken exchange => ⟨?_, fun text => ?_⟩⟩
  · obtain ⟨k, hk⟩ := Reply.exists_isLastPage exchange.replies
    rw [if_pos htoken] at hfilesAt
    refine ⟨k, hk, ?_⟩
    rw [changedFiles_of_isLastPage hfilesAt hk, exchangeBehind, pageRequests]
    refine congrArg (exchange.sent ++ ·) (List.map_congr_left fun i _ => ?_)
    rw [pageRequest_eq rfl, ofList_pathText rfl, Nat.add_comm 1 i]
  · rw [if_pos htoken] at hcommentsAt
    rw [postComment, hcommentsAt]
    show exchange.sent ++ [client.commentRequest _ text] = _
    rw [commentRequest_eq rfl, ofList_pathText rfl]
  · rw [if_neg (by simp [htoken])] at hfilesAt
    rw [changedFiles, hfilesAt]
  · rw [if_neg (by simp [htoken])] at hcommentsAt
    rw [postComment, hcommentsAt]

/-- **From the address of a page to the requests.** The page of a pull request with plain names, or
any tab of it, names just that pull request, and what is asked for it is asked under the directory
of the API. Whatever address names a pull request is that of a page of it. -/
theorem page_address_round_trip (target : PullRequest) (tail : String) (h : target.IsPlain)
    (htail : PullRequest.IsPageTail tail.toList) :
    PullRequest.ofAddress? (target.pageAddress tail) = some target ∧
    (∀ (client : Client) (name : List Char) (host : Host) (directory : List (List Char)),
      Url.IsDirectory client.base.toList name host directory →
        client.AsksUnder name host directory target) ∧
    ∀ (address : String) (other : PullRequest), PullRequest.ofAddress? address = some other ↔
      ∃ url, Url.parse? address.toList = some url ∧ PullRequest.IsPageOf url other :=
  ⟨PullRequest.ofAddress?_pageAddress h htail,
    fun _ _ _ _ hdirectory => asksUnder_of_isPlain hdirectory h,
    fun _ _ => PullRequest.ofAddress?_eq_some_iff⟩

/-- A tab of a page that ends in a slash, and an API in a directory. -/
theorem page_address_round_trip_of_tab :
    let target : PullRequest := ⟨"octo-org", "widgets_2.0", 7⟩
    let client : Client := ⟨"http://127.0.0.1:8080/api/v3", "tok"⟩
    PullRequest.ofAddress? "https://github.com/octo-org/widgets_2.0/pull/7/files/?w=1#top" =
        some target ∧
      client.AsksUnder "http".toList (.ipv4 0x7F000001) ["api".toList, "v3".toList] target := by
  intro target client
  have hplain : target.IsPlain := ⟨by decide, by decide, by decide, by decide, by decide⟩
  have htail : PullRequest.IsPageTail "/files/?w=1#top".toList := by
    refine ⟨["files".toList, []], "?w=1#top".toList, by decide, by decide, ?_⟩
    rintro c ⟨⟩
    exact .inl rfl
  have hroot : Url.IsDirectory "http://127.0.0.1:8080".toList "http".toList (.ipv4 0x7F000001) [] :=
    ⟨.inl rfl, by decide, by decide +kernel⟩
  have hsegments : ∀ segment ∈ ["api".toList, "v3".toList], Url.IsSegment true segment := by decide
  have hbase : client.base.toList =
      "http://127.0.0.1:8080".toList ++ '/' :: ['/'].intercalate ["api".toList, "v3".toList] := by
    decide
  have hdirectory := hroot.append (List.cons_ne_nil _ _) hsegments
  rw [← hbase, List.nil_append] at hdirectory
  have haddress : target.pageAddress "/files/?w=1#top" =
      "https://github.com/octo-org/widgets_2.0/pull/7/files/?w=1#top" := by
    decide +kernel
  obtain ⟨hnamed, hasks, -⟩ := page_address_round_trip target "/files/?w=1#top" hplain htail
  rw [haddress] at hnamed
  exact ⟨hnamed, hasks client _ _ _ hdirectory⟩

end GitHub.Client

end PullReport
