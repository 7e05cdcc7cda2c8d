import PullReport.Json.Record
import PullReport.Text.Percent
import PullReport.TokenStore
import PullReport.Web.Exchange

/-!
# Device codes

A login begins with a device code. It stands for the login on this side, while a shorter user code
stands for it on the page where the user allows it. The server also says how often it may be asked
for the outcome and how long the code is good for.

## Main definitions

* `DeviceCode`, and `DeviceCode.read?`: a device code and how it is read.
* `Login.requestCode`: asking for a device code.
* `Login.Error`: how a login fails; `Login.Error.message`.
-/

namespace PullReport

/-- A device code. The interval and the lifetime are in seconds. -/
structure DeviceCode where
  code : String
  userCode : String
  page : String
  interval : Nat
  lifetime : Nat
  deriving DecidableEq, Repr

/-- The device code in a reply. Servers may leave out the interval and the lifetime. -/
def DeviceCode.read? (text : String) : Option DeviceCode := do
  let json ← Json.read? text
  let field ← json.record?
    ["device_code", "user_code", "verification_uri", "interval", "expires_in"]
  let code ← (field "device_code").required? Json.text?
  let userCode ← (field "user_code").required? Json.text?
  let page ← (field "verification_uri").required? Json.text?
  let interval ← (field "interval").default? 5 Json.natural?
  let lifetime ← (field "expires_in").default? 900 Json.natural?
  return ⟨code, userCode, page, interval, lifetime⟩

namespace Login

/-- How a login fails. -/
inductive Error where
  | unreachable
  | status (code : Nat)
  | unreadableReply
  | missingClientId
  | denied
  | expired
  | provider (text : String)
  | store (error : TokenStore.Error)
  deriving DecidableEq, Repr

/-- The error in words. -/
def Error.message : Error → String
  | unreachable => "OAuth request failed: no connection"
  | status code => "OAuth request failed: status " ++ toString code
  | unreadableReply => "Unexpected OAuth response"
  | missingClientId =>
    "No OAuth client id configured (set github.client_id or PR_HELPER_CLIENT_ID)"
  | denied => "Authorization was denied by the user"
  | expired => "Device code expired before authorization completed"
  | provider text => "OAuth error: " ++ text
  | store error => error.message

/-- The paths on the server at which a login asks for a device code and for its outcome. -/
structure Endpoints where
  code : String
  token : String
  deriving DecidableEq, Repr

/-- The paths that the server really has. -/
def endpoints : Endpoints := ⟨"/login/device/code", "/login/oauth/access_token"⟩

/-- What the token will be good for. -/
def scope : String := "repo"

/-- A request that hands in a form and asks for JSON. -/
def formRequest (target : String) (fields : List (String × String)) : Request where
  method := .post
  target := target
  accept := "application/json"
  contentType := some "application/x-www-form-urlencoded"
  body := Text.formBody fields

/-- The device code in a reply, if that says that all is well. -/
def codeIn (reply : Reply) : Except Error DeviceCode :=
  match reply with
  | .unreachable => .error .unreachable
  | .answer code body =>
    if Reply.isFailure code then .error (.status code)
    else
      match DeviceCode.read? body with
      | none => .error .unreadableReply
      | some device => .ok device

/-- A device code for a client, and the exchange behind asking for it. -/
def requestCode (endpoints : Endpoints) (clientId : String) (exchange : Exchange) :
    Except Error DeviceCode × Exchange :=
  let form := [("client_id", clientId), ("scope", scope)]
  let (reply, exchange) := exchange.send (formRequest endpoints.code form)
  (codeIn reply, exchange)

end Login

end PullReport
