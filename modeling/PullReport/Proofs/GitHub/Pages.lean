import PullReport.Proofs.Url.Directory
import PullReport.PullRequest

/-!
# Addresses of pages

Which addresses name a pull request. Many texts denote one address, so what can be said of a text
that names a pull request is said of the address it denotes: its host, the segments of its path and
the numeral among them are those of a page, however the text has been written.

For plain names, which are those that there are, the text can be written down at once, and what is
read from it is what has been put into it. What follows the number does not matter, be it the path
of a tab, a query or a fragment, as long as no segment of it leads back to another directory.

## Main definitions

* `PullRequest.IsPageOf`: an address is that of a page of a pull request.
* `PullRequest.IsPlain`: a pull request as there may be one.
* `PullRequest.pageAddress`, `PullRequest.IsPageTail`: the addresses of its page and of its tabs.

## Main results

* `PullRequest.ofAddress?_eq_some_iff`: which addresses name a pull request.
* `PullRequest.ofAddress?_pageAddress`: the page of a pull request names it.
-/

namespace PullReport

open Text

namespace PullRequest

variable {address : String} {target : PullRequest}

/-! ### Addresses that name a pull request -/

/-- An address is that of a page of a pull request: it is on the right host, and what is not empty
in its path begins with owner, repository, the word for pull requests and a numeral of the number.
A host counts by its name alone, be it a domain or the host under a scheme without domains. -/
structure IsPageOf (url : Url) (target : PullRequest) : Prop where
  host : url.host = some (.domain "github.com".toList) ∨
    url.host = some (.uninterpreted "github.com".toList)
  path : ∃ segments number tabs, url.path = .segments segments ∧
    segments.filter (· ≠ []) =
      target.owner.toList :: target.repo.toList :: "pull".toList :: number :: tabs ∧
    IsNumeral number target.number

theorem isNamed_eq_true_iff {host : Host} {name : List Char} :
    host.isNamed name = true ↔ host = .domain name ∨ host = .uninterpreted name := by
  cases host <;> simp [Host.isNamed]

theorem segments?_eq_some_iff {url : Url} {segments : List (List Char)} :
    url.segments? = some segments ↔ url.path = .segments segments ∧ segments ≠ [] := by
  rw [Url.segments?.eq_def]
  split
  · rename_i hpath
    simp [hpath]
  · rename_i list hne hpath
    rw [hpath, Option.some.injEq, Url.Path.segments.injEq]
    exact ⟨fun h => ⟨h, h ▸ fun hnil => hne hnil⟩, And.left⟩
  · rename_i hpath
    simp [hpath]

theorem ofSegments?_eq_some_iff {segments : List (List Char)} :
    ofSegments? segments = some target ↔
      ∃ number tabs, segments =
        target.owner.toList :: target.repo.toList :: "pull".toList :: number :: tabs ∧
        IsNumeral number target.number := by
  constructor
  · intro h
    rw [ofSegments?.eq_def] at h
    split at h
    · rename_i owner repo word number tabs
      obtain ⟨rfl, hnumber⟩ := Option.ite_none_right_eq_some.1 h
      obtain ⟨n, hn, rfl⟩ := Option.map_eq_some_iff.1 hnumber
      exact ⟨number, tabs, by simp only [String.toList_ofList], number?_eq_some_iff.1 hn⟩
    · cases h
  · rintro ⟨number, tabs, rfl, hnumber⟩
    rw [ofSegments?, if_pos rfl, number?_eq_some_iff.2 hnumber, Option.map_some,
      String.ofList_toList, String.ofList_toList]

/-- **Which addresses name a pull request**: those of its pages. -/
theorem ofAddress?_eq_some_iff :
    ofAddress? address = some target ↔
      ∃ url, Url.parse? address.toList = some url ∧ IsPageOf url target := by
  rw [ofAddress?]
  simp only [Option.bind_eq_bind, Option.bind_eq_some_iff, Option.ite_none_right_eq_some,
    isNamed_eq_true_iff, segments?_eq_some_iff, ofSegments?_eq_some_iff]
  constructor
  · rintro ⟨url, hurl, host, hhost, segments, ⟨hpath, -⟩, hnamed, number, tabs, hparts, hnumber⟩
    refine ⟨url, hurl, ?_, segments, number, tabs, hpath, hparts, hnumber⟩
    rcases hnamed with rfl | rfl
    · exact .inl hhost
    · exact .inr hhost
  · rintro ⟨url, hurl, hhost, segments, number, tabs, hpath, hparts, hnumber⟩
    have hne : segments ≠ [] := by
      rintro rfl
      cases hparts
    rcases hhost with hhost | hhost
    · exact ⟨url, hurl, _, hhost, segments, ⟨hpath, hne⟩, .inl rfl, number, tabs, hparts, hnumber⟩
    · exact ⟨url, hurl, _, hhost, segments, ⟨hpath, hne⟩, .inr rfl, number, tabs, hparts, hnumber⟩

/-- Owner and repository are segments of the path of the page. -/
theorem IsPageOf.isSegment {url : Url} (h : IsPageOf url target) (hurl : url.HasSegments) :
    Url.IsSegment url.scheme.isSpecial target.owner.toList ∧
      Url.IsSegment url.scheme.isSpecial target.repo.toList := by
  obtain ⟨-, segments, number, tabs, hpath, hparts, -⟩ := h
  have hsegment : ∀ segment ∈ segments.filter (· ≠ []),
      Url.IsSegment url.scheme.isSpecial segment :=
    fun segment hmem => hurl segments hpath segment (List.mem_of_mem_filter hmem)
  rw [hparts] at hsegment
  exact ⟨hsegment _ (by simp), hsegment _ (by simp)⟩

/-! ### The address of a page -/

/-- A pull request as there may be one: its owner and its repository have plain names, and its
number fits into 64 bits. -/
structure IsPlain (target : PullRequest) : Prop where
  owner_ne : target.owner ≠ ""
  owner : Url.IsPlainName target.owner.toList
  repo_ne : target.repo ≠ ""
  repo : Url.IsPlainName target.repo.toList
  bound : target.number < Nat.pow 2 64

/-- The address under which the pages are. -/
def pageRoot : String := "https://github.com"

/-- The address of the page of a pull request, with some text behind it. -/
def pageAddress (target : PullRequest) (tail : String) : String :=
  pageRoot ++ "/" ++ target.owner ++ "/" ++ target.repo ++ "/pull/" ++
    toString target.number ++ tail

/-- What may stand behind the number: plain names, which may be empty, with a slash in front of each
and perhaps a query or a fragment behind them. -/
def IsPageTail (tail : List Char) : Prop :=
  ∃ (tabs : List (List Char)) (extra : List Char), tail = tabs.flatMap ('/' :: ·) ++ extra ∧
    (∀ tab ∈ tabs, Url.IsPlainName tab) ∧ ∀ c ∈ extra.head?, c = '?' ∨ c = '#'

/-- The pages are in the directory at the root of their host. -/
theorem isDirectory_pages :
    Url.IsDirectory pageRoot.toList "https".toList (.domain "github.com".toList) [] :=
  ⟨.inr rfl, by decide, by decide +kernel⟩

/-- The segments of the page of a pull request, with those of a tab behind them. -/
def pageSegments (target : PullRequest) (tabs : List (List Char)) : List (List Char) :=
  target.owner.toList :: target.repo.toList :: "pull".toList ::
    (toString target.number).toList :: tabs

theorem toList_pageAddress (target : PullRequest) {tail : String} {tabs : List (List Char)}
    {extra : List Char} (htail : tail.toList = tabs.flatMap ('/' :: ·) ++ extra) :
    (target.pageAddress tail).toList =
      pageRoot.toList ++ '/' :: (['/'].intercalate (target.pageSegments tabs) ++ extra) := by
  have hslash : "/".toList = ['/'] := rfl
  have hword : "/pull/".toList = '/' :: ("pull".toList ++ ['/']) := rfl
  simp only [pageAddress, pageSegments, intercalate_cons_eq_flatMap, String.toList_append, htail,
    hslash, hword, List.flatMap_cons, List.append_assoc, List.cons_append, List.nil_append]

theorem IsPlain.isSegment (h : target.IsPlain) {tabs : List (List Char)}
    (htabs : ∀ tab ∈ tabs, Url.IsPlainName tab) :
    ∀ segment ∈ target.pageSegments tabs, Url.IsSegment true segment := by
  simp only [pageSegments, List.forall_mem_cons]
  exact ⟨h.owner.isSegment true, h.repo.isSegment true, by decide, Url.isSegment_toString true _,
    fun tab htab => (htabs tab htab).isSegment true⟩

/-- Only in a tab there may be empty segments. -/
theorem IsPlain.filter_pageSegments (h : target.IsPlain) (tabs : List (List Char)) :
    (target.pageSegments tabs).filter (· ≠ []) = target.pageSegments (tabs.filter (· ≠ [])) := by
  have howner : target.owner.toList ≠ [] := fun hnil => h.owner_ne (String.toList_eq_nil_iff.1 hnil)
  have hrepo : target.repo.toList ≠ [] := fun hnil => h.repo_ne (String.toList_eq_nil_iff.1 hnil)
  have hnumber : (toString target.number).toList ≠ [] := toList_toString_ne_nil target.number
  simp only [pageSegments, List.filter_cons, decide_eq_true howner, decide_eq_true hrepo,
    decide_eq_true hnumber, if_true]
  rfl

/-- **The page of a pull request names it**, with whatever tab, query or fragment. -/
theorem ofAddress?_pageAddress {tail : String} (h : target.IsPlain)
    (htail : IsPageTail tail.toList) : ofAddress? (target.pageAddress tail) = some target := by
  obtain ⟨tabs, extra, htail, htabs, hextra⟩ := htail
  have hends : ∀ c ∈ extra.head?, Url.endsPath c = true := fun c hc => by
    rcases hextra c hc with rfl | rfl <;> rfl
  have hne : target.pageSegments tabs ≠ [] := List.cons_ne_nil _ _
  have hdenotes := isDirectory_pages.parse?_segments hne (h.isSegment htabs) hends
  rw [← toList_pageAddress target htail] at hdenotes
  exact ofAddress?_eq_some_iff.2 ⟨_, hdenotes, .inl rfl, target.pageSegments tabs, _, _, rfl,
    h.filter_pageSegments tabs, isNumeral_toString h.bound⟩

end PullRequest

end PullReport
