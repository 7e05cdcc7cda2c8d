import PullReport.Json.Printer
import PullReport.Patch.Listing
import PullReport.PullRequest
import PullReport.Web.Exchange

/-!
# The API of GitHub

The two things that the API is asked for: the changed files of a pull request, which it lists page
by page, and a comment on a pull request. The last page is the first one that is not full.

An address or a token of which no request can be made is found out before anything is sent.

## Main definitions

* `GitHub.Client`: where the API is, and with which token it is asked.
* `GitHub.Client.changedFiles`: the changed files of a pull request.
* `GitHub.Client.postComment`: a comment on a pull request.
* `GitHub.Error`: how asking fails; `GitHub.Error.message`.
-/

namespace PullReport

namespace GitHub

/-- How asking the API fails. The first two are found out before anything is sent. -/
inductive Error where
  | invalidAddress
  | invalidToken
  | unreachable
  | unreadableReply
  | status (code : Nat) (body : String)
  deriving DecidableEq, Repr

/-- The error in words. -/
def Error.message : Error → String
  | invalidAddress => "GitHub API request failed: invalid address"
  | invalidToken => "GitHub API request failed: invalid token"
  | unreachable => "GitHub API request failed: no connection"
  | unreadableReply => "GitHub API request failed: unexpected reply"
  | status code body => "GitHub API returned " ++ toString code ++ ": " ++ body

/-- Where the API is, without a slash at the end, and the token that is shown to it. -/
structure Client where
  base : String
  token : String
  deriving DecidableEq, Repr

/-- How many files a full page lists. -/
def pageSize : Nat := 100

/-- The form in which replies are asked for. -/
def mediaType : String := "application/vnd.github+json"

/-- The text of a successful reply. -/
def content : Reply → Except Error String
  | .unreachable => .error .unreachable
  | .answer code body => if Reply.isSuccess code then .ok body else .error (.status code body)

/-- The files that one page lists. -/
def listed (reply : Reply) : Except Error (List ChangedFile) :=
  match content reply with
  | .error e => .error e
  | .ok body =>
    match ChangedFile.listing? body with
    | none => .error .unreadableReply
    | some files => .ok files

namespace Client

/-- The address of something that belongs to the pull request of some number, be it taken as a pull
request or as an issue. -/
def address (client : Client) (target : PullRequest) (takenAs part : String) : String :=
  client.base ++ "/repos/" ++ target.owner ++ "/" ++ target.repo ++ "/" ++ takenAs ++ "/"
    ++ toString target.number ++ "/" ++ part

/-- The address of the list of changed files. -/
def filesAddress (client : Client) (target : PullRequest) : String :=
  client.address target "pulls" "files"

/-- The address of the list of comments. -/
def commentsAddress (client : Client) (target : PullRequest) : String :=
  client.address target "issues" "comments"

/-- The header that shows the token. -/
def authorization (client : Client) : String := "Bearer " ++ client.token

/-- What an address denotes, if a request with the token can be made of it. -/
def locate (client : Client) (address : String) : Except Error Url :=
  match Url.parse? address.toList with
  | none => .error .invalidAddress
  | some url =>
    if ¬ (url.isHttp ∧ url.host.isSome) then .error .invalidAddress
    else if ¬ Request.isHeaderValue client.authorization then .error .invalidToken
    else .ok url

/-- The request for a page of the list at some place. -/
def pageRequest (client : Client) (place : Url) (page : Nat) : Request where
  method := .get
  target := String.ofList (place.withQueryFields
    [("per_page", toString pageSize), ("page", toString page)]).requestTarget
  accept := mediaType
  authorization := some (Request.headerValue client.authorization)

/-- The files listed on a page and all pages behind it, and the exchange behind asking for them. -/
def filesFrom (client : Client) (place : Url) (page : Nat) (sent : List Request) :
    List Reply → Except Error (List ChangedFile) × Exchange
  | [] => (listed .exhausted, ⟨[], sent ++ [client.pageRequest place page]⟩)
  | reply :: replies =>
    let sent := sent ++ [client.pageRequest place page]
    match listed reply with
    | .error e => (.error e, ⟨replies, sent⟩)
    | .ok files =>
      if files.length < pageSize then (.ok files, ⟨replies, sent⟩)
      else
        let (rest, exchange) := client.filesFrom place (page + 1) sent replies
        (rest.map (files ++ ·), exchange)

/-- The changed files of a pull request, and the exchange behind asking for them. -/
def changedFiles (client : Client) (target : PullRequest) (exchange : Exchange) :
    Except Error (List ChangedFile) × Exchange :=
  match client.locate (client.filesAddress target) with
  | .error e => (.error e, exchange)
  | .ok place => client.filesFrom place 1 exchange.sent exchange.replies

/-- The request that leaves a comment at some place. -/
def commentRequest (client : Client) (place : Url) (comment : String) : Request where
  method := .post
  target := String.ofList place.requestTarget
  accept := mediaType
  authorization := some (Request.headerValue client.authorization)
  contentType := some "application/json"
  body := Json.singleton "body" comment

/-- Whether a comment on a pull request has been taken, and the exchange behind posting it. -/
def postComment (client : Client) (target : PullRequest) (comment : String)
    (exchange : Exchange) : Except Error Unit × Exchange :=
  match client.locate (client.commentsAddress target) with
  | .error e => (.error e, exchange)
  | .ok place =>
    let (reply, exchange) := exchange.send (client.commentRequest place comment)
    ((content reply).map fun _ => (), exchange)

end Client

end GitHub

end PullReport
