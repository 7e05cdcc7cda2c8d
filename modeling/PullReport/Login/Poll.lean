import PullReport.Login.DeviceCode

/-!
# Waiting for the user's decision

While the user decides, the program asks the server again and again for the outcome: first after one
interval, then one interval after the last reply. A server may ask to be left alone for longer, and
the interval grows. The asking ends with a token, with an error, when the device code has expired,
or when the user interrupts it.

Time is counted in whole seconds from the start. Only waiting takes time; requests take none.

## Main definitions

* `Login.TokenReply`: a reply to the question for the outcome, in its parts.
* `Login.Verdict`: what a reply says; `Login.verdict` reads it.
* `Login.Interrupt`: when, if ever, the user interrupts the wait.
* `Login.pollFrom`: the asking from some moment on.
* `Login.poll`: the whole of it.
-/

namespace PullReport

namespace Login

/-! ### Replies -/

/-- A reply to the question for the outcome of a login. A server may leave out any part of it. -/
structure TokenReply where
  token : Option String
  error : Option String
  description : Option String
  deriving DecidableEq, Repr

/-- The parts in the text of a reply. -/
def TokenReply.read? (text : String) : Option TokenReply := do
  let json ← Json.read? text
  let field ← json.record? ["access_token", "error", "error_description"]
  let token ← Json.nullable? Json.text? (field "access_token")
  let error ← Json.nullable? Json.text? (field "error")
  let description ← Json.nullable? Json.text? (field "error_description")
  return ⟨token, error, description⟩

/-- The token of a reply. An empty one counts as none. -/
def TokenReply.token? (reply : TokenReply) : Option String := reply.token.filter (· ≠ "")

/-- What a reply says about the login. -/
inductive Verdict where
  | token (value : String)
  | pending
  | slowDown
  | failed (error : Error)
  deriving DecidableEq, Repr

/-- The verdict of a reply that has no token but perhaps an error, and perhaps a description. -/
def verdictOfError : Option String → Option String → Verdict
  | none, _ => .failed (.provider "token response had neither a token nor an error")
  | some code, description =>
    if code = "authorization_pending" then .pending
    else if code = "slow_down" then .slowDown
    else if code = "expired_token" then .failed .expired
    else if code = "access_denied" then .failed .denied
    else .failed (.provider (description.getD code))

/-- The verdict of a reply. A token outweighs any error. -/
def TokenReply.verdict (reply : TokenReply) : Verdict :=
  match reply.token? with
  | some token => .token token
  | none => verdictOfError reply.error reply.description

/-- What a reply says, whatever its status. -/
def verdict : Reply → Verdict
  | .unreachable => .failed .unreachable
  | .answer _ body =>
    match TokenReply.read? body with
    | none => .failed .unreadableReply
    | some reply => reply.verdict

/-- A server that has no reply left does not say anything about the login. So the asking ends with
its first such reply. -/
theorem verdict_exhausted : verdict .exhausted = .failed .unreadableReply := by
  decide +kernel

/-! ### Interruptions -/

/-- When the user interrupts: never, while a request is being answered (number 0 stands for the
time before anything happens), or so many seconds after the start. -/
inductive Interrupt where
  | never
  | duringRequest (number : Nat)
  | atSecond (second : Nat)
  deriving DecidableEq, Repr

/-- Whether the interrupt has come at some moment, given how many requests have been made by
then. -/
def Interrupt.hasCome (requests now : Nat) : Interrupt → Bool
  | never => false
  | duringRequest number => number ≤ requests
  | atSecond second => second ≤ now

/-- The moment of an interrupt that falls into the wait that ends at `wake`. -/
def Interrupt.duringWait? (wake : Nat) : Interrupt → Option Nat
  | atSecond second => if second < wake then some second else none
  | _ => none

/-! ### The schedule -/

/-- How the asking ends when nothing goes wrong. -/
inductive Outcome where
  | authorized (token : String)
  | cancelled
  deriving DecidableEq, Repr

/-- How the asking ended, the seconds at which requests were made, and the second at which it
ended. -/
structure Poll where
  outcome : Except Error Outcome
  times : List Nat
  seconds : Nat

/-- How many requests were made. -/
def Poll.requests (poll : Poll) : Nat := poll.times.length

/-- What does not change while the program asks: the request, the second at which the device code
expires, and the interrupt. -/
structure Schedule where
  request : Request
  expiry : Nat
  interrupt : Interrupt := .never

/-- The moment between two requests: the seconds gone by, the current interval, and the seconds at
which requests have been made. -/
structure Moment where
  now : Nat
  interval : Nat
  times : List Nat := []
  deriving DecidableEq, Repr

/-- The second of the next request, unless something comes in between. -/
def Moment.wake (moment : Moment) : Nat := moment.now + moment.interval

/-- The moment behind one more request, when the interval has grown by some seconds. -/
def Moment.next (moment : Moment) (delay : Nat) : Moment :=
  ⟨moment.wake, moment.interval + delay, moment.times ++ [moment.wake]⟩

/-- By how many seconds the interval grows when the server asks for it. -/
def slowDownStep : Nat := 5

/-- The asking from some moment on, and the exchange behind it. -/
def pollFrom (schedule : Schedule) (moment : Moment) (sent : List Request)
    (replies : List Reply) : Poll × Exchange :=
  let stop (outcome : Except Error Outcome) (now : Nat) : Poll × Exchange :=
    (⟨outcome, moment.times, now⟩, ⟨replies, sent⟩)
  if schedule.interrupt.hasCome moment.times.length moment.now then stop (.ok .cancelled) moment.now
  else
    match schedule.interrupt.duringWait? moment.wake with
    | some second => stop (.ok .cancelled) second
    | none =>
      if schedule.expiry ≤ moment.wake then stop (.error .expired) moment.wake
      else
        let sent := sent ++ [schedule.request]
        let ended (outcome : Except Error Outcome) (replies : List Reply) : Poll × Exchange :=
          (⟨outcome, moment.times ++ [moment.wake], moment.wake⟩, ⟨replies, sent⟩)
        match replies with
        | [] => ended (.error .unreadableReply) []
        | reply :: replies =>
          match verdict reply with
          | .token token => ended (.ok (.authorized token)) replies
          | .failed error => ended (.error error) replies
          | .pending => pollFrom schedule (moment.next 0) sent replies
          | .slowDown => pollFrom schedule (moment.next slowDownStep) sent replies

/-- The kind of authorization that a device code stands for. -/
def grantType : String := "urn:ietf:params:oauth:grant-type:device_code"

/-- The request for the outcome of a login. -/
def tokenRequest (endpoints : Endpoints) (clientId code : String) : Request :=
  formRequest endpoints.token
    [("client_id", clientId), ("device_code", code), ("grant_type", grantType)]

/-- How asking for the outcome of a login ends, and the exchange behind it. The first request comes
after one interval, which is a second at least. -/
def poll (endpoints : Endpoints) (clientId : String) (device : DeviceCode) (interrupt : Interrupt)
    (exchange : Exchange) : Poll × Exchange :=
  pollFrom ⟨tokenRequest endpoints clientId device.code, device.lifetime, interrupt⟩
    ⟨0, max device.interval 1, []⟩ exchange.sent exchange.replies

end Login

end PullReport
