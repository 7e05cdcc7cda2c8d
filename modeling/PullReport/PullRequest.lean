import PullReport.Url.Basic
import PullReport.Text.Number

/-!
# Pull requests

A pull request is named by the owner and the name of its repository and by its number. People name
it by the address of its page, or of one of the tabs of that page.

## Main definitions

* `PullRequest`, and `PullRequest.display`: its short form.
* `PullRequest.ofSegments?`, `PullRequest.ofAddress?`: the pull request of a page.
-/

namespace PullReport

/-- The name of a pull request. -/
structure PullRequest where
  owner : String
  repo : String
  number : Nat
  deriving DecidableEq, Repr

namespace PullRequest

/-- The short form by which people refer to a pull request. -/
def display (target : PullRequest) : String :=
  target.owner ++ "/" ++ target.repo ++ "#" ++ toString target.number

/-- The host on which the pages of pull requests are. -/
def pageHost : List Char := "github.com".toList

/-- The pull request named by the segments of a path. Segments behind the number name a tab. -/
def ofSegments? : List (List Char) → Option PullRequest
  | owner :: repo :: word :: number :: _ =>
    if word = "pull".toList then
      (Text.number? number).map (⟨String.ofList owner, String.ofList repo, ·⟩)
    else none
  | _ => none

/-- The pull request whose page, or a tab of it, has the given address. Empty segments of the path
do not count. -/
def ofAddress? (address : String) : Option PullRequest := do
  let url ← Url.parse? address.toList
  let host ← url.host
  let segments ← url.segments?
  if host.isNamed pageHost then ofSegments? (segments.filter (· ≠ [])) else none

end PullRequest

end PullReport
