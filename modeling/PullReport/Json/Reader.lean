import PullReport.Json.Token

/-!
# Reading JSON

A JSON text is read token by token. The state between two tokens knows the containers that are open
and what may come next; the containers hold what they have got so far, last one first. Since the
open containers are data, a text may nest as deeply as it likes.

## Main definitions

* `Json.Frame`: an open container around the place where a value stands.
* `Json.Reader`: the states; `Reader.step`.
* `Json.scan?`: lexer and reader run over a text together.
* `Json.read?`: the value of a text.
-/

namespace PullReport

namespace Json

/-- An open container that waits for a value: an array with the items before it, or an object with
the members before it and the name the value will have. -/
inductive Frame where
  | array (items : List Json)
  | object (members : List (Option String × Json)) (name : Option String)
  deriving Repr

/-- What has been read and what may come next. A container may be closed early only right behind its
opening bracket. -/
inductive Reader where
  | value (frames : List Frame) (mayClose : Bool)
  | name (members : List (Option String × Json)) (frames : List Frame) (mayClose : Bool)
  | colon (members : List (Option String × Json)) (name : Option String) (frames : List Frame)
  | complete (value : Json) (frames : List Frame)
  deriving Repr

namespace Reader

/-- The state behind one more token, if that token may stand there. -/
def step : Reader → Token → Option Reader
  | value frames _, .scalar v => some (complete v frames)
  | value frames _, .text s => some (complete (string s) frames)
  | value frames _, .openArray => some (value (.array [] :: frames) true)
  | value frames _, .openObject => some (name [] frames true)
  | value (.array items :: frames) true, .closeArray =>
    some (complete (array items.reverse) frames)
  | name members frames _, .text s => some (colon members s frames)
  | name members frames true, .closeObject => some (complete (object members.reverse) frames)
  | colon members s frames, .colon => some (value (.object members s :: frames) false)
  | complete v (.array items :: frames), .comma =>
    some (value (.array (v :: items) :: frames) false)
  | complete v (.array items :: frames), .closeArray =>
    some (complete (array (v :: items).reverse) frames)
  | complete v (.object members s :: frames), .comma =>
    some (name ((s, v) :: members) frames false)
  | complete v (.object members s :: frames), .closeObject =>
    some (complete (object ((s, v) :: members).reverse) frames)
  | _, _ => none

/-- The state behind a sequence of tokens. -/
def run? (state : Reader) : List Token → Option Reader
  | [] => some state
  | token :: tokens =>
    match step state token with
    | none => none
    | some next => run? next tokens

end Reader

/-- The state behind a text, given the states of lexer and reader in front of it. Tokens are read
as soon as they are complete. -/
def scan? (lexer : Lexer) (reader : Reader) : List Char → Option Reader
  | [] =>
    match lexer.completed? with
    | none => none
    | some tokens => reader.run? tokens
  | c :: cs =>
    match lexer.step c with
    | none => none
    | some (tokens, lexer) =>
      match reader.run? tokens with
      | none => none
      | some reader => scan? lexer reader cs

/-- The value of a text that holds one JSON value and nothing else but white space. -/
def read? (text : String) : Option Json :=
  match scan? .between (.value [] false) text.toList with
  | some (.complete v []) => some v
  | _ => none

end Json

end PullReport
