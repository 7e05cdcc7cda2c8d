import PullReport.Proofs.GitHub.Pages
import PullReport.Proofs.GitHub.Paging
import PullReport.Proofs.Url.Server

/-!
# Where the requests about a pull request go

The address of a page names a pull request, and its owner and repository are put into the addresses
that the API is asked under. Both are segments of the path of the page, so nothing in them can end a
path, name another directory or stand for a slash, as long as they are read under the same sort of
scheme. That is where it fails: only the host of the page is looked at and not the scheme, and under
a scheme that is none of the web's and not `file` a segment may have backslashes. Under a scheme of
the web these are slashes, so the request goes to another path.

## Main definitions

* `PullRequest.HasBackslash`: there is a backslash in the name of the repository or its owner.
* `PullRequest.segments`: the path to something that belongs to a pull request.
* `GitHub.Client.Endpoints`: the addresses and the requests for a pull request are the proper ones.

## Main results

* `PullRequest.isSegment_of_ofAddress?`: owner and repository are segments of the page's path.
* `GitHub.Client.leadsTo_address_iff`: when an address under the API is the proper one.
* `GitHub.Client.endpoints_of_page_address`: which addresses of pages lead to the proper ones.
-/

namespace PullReport

open Text

namespace PullRequest

/-- There is a backslash in the name of the repository or in that of its owner. -/
def HasBackslash (target : PullRequest) : Prop :=
  '\\' ∈ target.owner.toList ∨ '\\' ∈ target.repo.toList

/-- The segments of the path to something that belongs to the pull request. -/
def segments (target : PullRequest) (takenAs part : String) : List (List Char) :=
  ["repos".toList, target.owner.toList, target.repo.toList, takenAs.toList,
    (toString target.number).toList, part.toList]

variable {address : String} {target : PullRequest}

/-- Owner and repository are segments of the path of the page. -/
theorem isSegment_of_ofAddress? (h : ofAddress? address = some target) :
    ∃ url, Url.parse? address.toList = some url ∧
      Url.IsSegment url.scheme.isSpecial target.owner.toList ∧
      Url.IsSegment url.scheme.isSpecial target.repo.toList := by
  obtain ⟨url, hurl, hpage⟩ := ofAddress?_eq_some_iff.1 h
  exact ⟨url, hurl, hpage.isSegment (Url.hasSegments_of_parse? hurl)⟩

/-- The path to something that belongs to the pull request consists of segments. -/
theorem isSegment_of_mem_segments (h : ofAddress? address = some target) {takenAs part : String}
    (htaken : Url.IsSegment false takenAs.toList) (hpart : Url.IsSegment false part.toList) :
    ∀ segment ∈ target.segments takenAs part, Url.IsSegment false segment := by
  obtain ⟨url, -, howner, hrepo⟩ := isSegment_of_ofAddress? h
  simp only [segments, List.forall_mem_cons]
  exact ⟨by decide, howner.weaken, hrepo.weaken, htaken, Url.isSegment_toString false _, hpart,
    List.forall_mem_nil _⟩

end PullRequest

namespace GitHub.Client

variable {client : Client} {target : PullRequest} {name : List Char} {host : Host}

theorem toList_address (client : Client) (target : PullRequest) (takenAs part : String) :
    (client.address target takenAs part).toList =
      client.base.toList ++ '/' :: ['/'].intercalate (target.segments takenAs part) := by
  simp [address, PullRequest.segments, List.intercalate_cons_cons]

/-- An address under the API has the server's host and no query. -/
theorem exists_path_of_address {address : String}
    (h : PullRequest.ofAddress? address = some target)
    (hserver : Url.IsServer client.base.toList name host) (takenAs part : String)
    (htaken : Url.IsSegment false takenAs.toList) (hpart : Url.IsSegment false part.toList) :
    ∃ path, Url.parse? (client.address target takenAs part).toList =
      some ⟨.web name, some host, .segments path, none⟩ := by
  rw [toList_address]
  exact ⟨_, hserver.parse?_append (PullRequest.isSegment_of_mem_segments h htaken hpart)⟩

/-- **An address under the API** is that of the thing it is meant for just when there is no
backslash in the repository's name or the owner's. -/
theorem leadsTo_address_iff {address takenAs part : String}
    (h : PullRequest.ofAddress? address = some target)
    (hserver : Url.IsServer client.base.toList name host)
    (htaken : Url.IsSegment true takenAs.toList) (hpart : Url.IsSegment true part.toList) :
    Url.LeadsTo (client.address target takenAs part).toList name host
        (target.segments takenAs part) ↔ ¬ target.HasBackslash := by
  have hne : target.segments takenAs part ≠ [] := List.cons_ne_nil _ _
  rw [toList_address, hserver.leadsTo_iff hne
    (PullRequest.isSegment_of_mem_segments h htaken.weaken hpart.weaken)]
  simp only [PullRequest.segments, List.forall_mem_cons, PullRequest.HasBackslash, not_or]
  constructor
  · rintro ⟨-, howner, hrepo, -⟩
    exact ⟨howner, hrepo⟩
  · rintro ⟨howner, hrepo⟩
    exact ⟨by decide, howner, hrepo, htaken.backslash_not_mem rfl,
      (Url.isSegment_toString true _).backslash_not_mem rfl, hpart.backslash_not_mem rfl,
      List.forall_mem_nil _⟩

/-- The addresses for a pull request are those of the list of its files and of the list of its
comments, and the requests ask for just that. -/
structure Endpoints (client : Client) (target : PullRequest) (name : List Char) (host : Host) :
    Prop where
  files : Url.LeadsTo (client.filesAddress target).toList name host
    (target.segments "pulls" "files")
  comments : Url.LeadsTo (client.commentsAddress target).toList name host
    (target.segments "issues" "comments")
  /-- The query of a request for files has the fields for a page and nothing else. -/
  page : ∀ place, client.locate (client.filesAddress target) = .ok place → ∀ n,
    (client.pageRequest place n).target =
      "/repos/" ++ target.owner ++ "/" ++ target.repo ++ "/pulls/" ++ toString target.number ++
        "/files?per_page=100&page=" ++ toString n
  comment : ∀ place, client.locate (client.commentsAddress target) = .ok place → ∀ text,
    (client.commentRequest place text).target =
      "/repos/" ++ target.owner ++ "/" ++ target.repo ++ "/issues/" ++ toString target.number ++
        "/comments"

theorem parse?_of_locate {address : String} {place : Url}
    (h : client.locate address = .ok place) : Url.parse? address.toList = some place := by
  rw [locate] at h
  split at h
  · cases h
  · rename_i url hurl
    split at h
    · cases h
    · split at h
      · cases h
      · obtain rfl := Except.ok.inj h
        exact hurl

/-- The path in a request is that of the address. -/
theorem requestTarget_of_leadsTo {address takenAs part : String} {place : Url}
    (h : Url.LeadsTo address.toList name host (target.segments takenAs part))
    (hplace : client.locate address = .ok place) :
    place.query = none ∧ String.ofList place.pathText =
      "/repos/" ++ target.owner ++ "/" ++ target.repo ++ "/" ++ takenAs ++ "/" ++
        toString target.number ++ "/" ++ part := by
  obtain rfl := Option.some.inj ((parse?_of_locate hplace).symm.trans h.denotes)
  refine ⟨rfl, ?_⟩
  rw [Url.pathText, PullRequest.segments, ← String.toList_inj]
  simp

theorem endpoints_of_leadsTo
    (hfiles : Url.LeadsTo (client.filesAddress target).toList name host
      (target.segments "pulls" "files"))
    (hcomments : Url.LeadsTo (client.commentsAddress target).toList name host
      (target.segments "issues" "comments")) : client.Endpoints target name host where
  files := hfiles
  comments := hcomments
  page := fun place hplace n => by
    obtain ⟨hquery, hpath⟩ := requestTarget_of_leadsTo hfiles hplace
    rw [pageRequest_target, Url.upToFields, hquery, String.ofList_append, hpath,
      ← String.toList_inj]
    simp
  comment := fun place hplace text => by
    obtain ⟨hquery, hpath⟩ := requestTarget_of_leadsTo hcomments hplace
    rw [commentRequest, Url.requestTarget, hquery]
    simp only [List.append_nil, hpath]
    rw [← String.toList_inj]
    simp

/-- **Which addresses of pages lead to the proper endpoints.** Of every address that names a pull
request and for every server, the addresses and requests that are made of it are those for the pull
request just when there is no backslash in the repository's name or its owner's. There is none if
the address has a scheme of the web or is that of a file. In any case the requests stay at the
server, and no query is added to them. -/
theorem endpoints_of_page_address (address : String) (target : PullRequest) (client : Client)
    (name : List Char) (host : Host) (h : PullRequest.ofAddress? address = some target)
    (hserver : Url.IsServer client.base.toList name host) :
    (client.Endpoints target name host ↔ ¬ target.HasBackslash) ∧
    (∀ url, Url.parse? address.toList = some url → url.scheme.isSpecial = true →
      ¬ target.HasBackslash) ∧
    ∃ files comments,
      Url.parse? (client.filesAddress target).toList =
        some ⟨.web name, some host, .segments files, none⟩ ∧
      Url.parse? (client.commentsAddress target).toList =
        some ⟨.web name, some host, .segments comments, none⟩ := by
  have hfiles : Url.LeadsTo (client.filesAddress target).toList name host
      (target.segments "pulls" "files") ↔ ¬ target.HasBackslash :=
    leadsTo_address_iff h hserver (by decide) (by decide)
  have hcomments : Url.LeadsTo (client.commentsAddress target).toList name host
      (target.segments "issues" "comments") ↔ ¬ target.HasBackslash :=
    leadsTo_address_iff h hserver (by decide) (by decide)
  refine ⟨⟨fun hendpoints => hfiles.1 hendpoints.files, fun hbackslash =>
    endpoints_of_leadsTo (hfiles.2 hbackslash) (hcomments.2 hbackslash)⟩, ?_, ?_⟩
  · intro url hurl hspecial
    obtain ⟨other, hother, howner, hrepo⟩ := PullRequest.isSegment_of_ofAddress? h
    obtain rfl := Option.some.inj (hurl.symm.trans hother)
    exact not_or.2 ⟨howner.backslash_not_mem hspecial, hrepo.backslash_not_mem hspecial⟩
  · obtain ⟨files, hfilesPath⟩ :=
      exists_path_of_address h hserver "pulls" "files" (by decide) (by decide)
    obtain ⟨comments, hcommentsPath⟩ :=
      exists_path_of_address h hserver "issues" "comments" (by decide) (by decide)
    exact ⟨files, comments, hfilesPath, hcommentsPath⟩

/-- A percent-encoded slash in the address of a page stays one. -/
theorem endpoints_of_encoded_page_address :
    let target : PullRequest := ⟨"a%2Fb", "c%20d", 7⟩
    let client : Client := ⟨"http://127.0.0.1:8080", "tok"⟩
    PullRequest.ofAddress? "https://github.com/x/../a%2Fb/c d/pull/+07/files?w=1#top" =
        some target ∧
      ¬ target.HasBackslash ∧ client.Endpoints target "http".toList (.ipv4 0x7F000001) := by
  intro target client
  have htarget : PullRequest.ofAddress?
      "https://github.com/x/../a%2Fb/c d/pull/+07/files?w=1#top" = some target := by
    decide +kernel
  have hlocation : ∀ c ∈ "127.0.0.1:8080".toList, (!Url.endsAuthority true c) = true :=
    List.all_eq_true.1 (by decide)
  have hserver : Url.IsServer client.base.toList "http".toList (.ipv4 0x7F000001) :=
    ⟨.inl rfl, ⟨"127.0.0.1:8080".toList, by decide, by simpa using hlocation⟩, by decide +kernel⟩
  have hbackslash : ¬ target.HasBackslash := not_or.2 ⟨by decide, by decide⟩
  exact ⟨htarget, hbackslash,
    (endpoints_of_page_address _ target client _ _ htarget hserver).1.2 hbackslash⟩

/-- Under another scheme than those of the web, backslashes lead to another endpoint. -/
theorem page_address_leads_elsewhere :
    let target : PullRequest := ⟨"..\\..\\user", "repos", 7⟩
    let client : Client := ⟨"http://127.0.0.1:8080", "tok"⟩
    PullRequest.ofAddress? "ssh://github.com/..\\..\\user/repos/pull/7" = some target ∧
      Url.parse? (client.filesAddress target).toList =
        some ⟨.web "http".toList, some (.ipv4 0x7F000001),
          .segments ["user".toList, "repos".toList, "pulls".toList, "7".toList, "files".toList],
          none⟩ := by
  decide +kernel

end GitHub.Client

end PullReport
