/-!
# Requests and replies

What the program says to servers and what it hears from them. The replies that are to come are known
beforehand, in the order of the requests that they answer, so that a whole exchange is a value. A
server that has no reply left answers that it failed.

## Main definitions

* `Request`, `Reply`: one turn of an exchange.
* `Reply.isSuccess`, `Reply.isFailure`: what the status of a reply says.
* `Reply.nth`: replies as an unending sequence.
* `Exchange`: the replies to come and the requests made.
* `Exchange.send`: one more turn.
-/

namespace PullReport

/-- What a request asks for: to get something, or to take something. -/
inductive Request.Method where
  | get
  | post
  deriving DecidableEq, Repr

/-- A request: its method, path and query, the headers that matter here, and its body. -/
structure Request where
  method : Request.Method
  target : String
  accept : String
  authorization : Option String := none
  contentType : Option String := none
  body : String := ""
  deriving DecidableEq, Repr

namespace Request

/-- The name by which the program introduces itself in every request. -/
def userAgent : String := "pr-helper"

/-- Whether a text can be the value of a header, in which a tab is the only control character. -/
def isHeaderValue (text : String) : Bool :=
  text.toList.all fun c => c = '\t' || (0x20 ≤ c.toNat && c.toNat ≠ 0x7F)

/-- A header value as it arrives, without the spaces and tabs at its ends. -/
def headerValue (text : String) : String :=
  let isPadding (c : Char) : Bool := c = ' ' || c = '\t'
  String.ofList ((text.toList.dropWhile isPadding).reverse.dropWhile isPadding).reverse

end Request

/-- A reply with its status and body, or no reply because the server cannot be reached. -/
inductive Reply where
  | answer (status : Nat) (body : String)
  | unreachable
  deriving DecidableEq, Repr

namespace Reply

/-- The reply of a server that has none left. -/
def exhausted : Reply := answer 500 "no response left"

/-- Whether a status says that all is well. -/
def isSuccess (status : Nat) : Bool := 200 ≤ status && status < 300

/-- Whether a status says that something went wrong, be it with the request or with the server. -/
def isFailure (status : Nat) : Bool := 400 ≤ status

/-- The reply to the request that is made behind `i` others. -/
def nth (replies : List Reply) (i : Nat) : Reply := replies.getD i .exhausted

end Reply

/-- The replies that are to come and the requests made so far, both in order. -/
structure Exchange where
  replies : List Reply
  sent : List Request := []
  deriving DecidableEq, Repr

namespace Exchange

/-- The reply to one more request, and the exchange behind it. -/
def send (exchange : Exchange) (request : Request) : Reply × Exchange :=
  (exchange.replies.headD .exhausted, ⟨exchange.replies.drop 1, exchange.sent ++ [request]⟩)

end Exchange

end PullReport
