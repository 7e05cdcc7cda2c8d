import PullReport.Text.Number

/-!
# Writing JSON strings

A text as a JSON string. Only what JSON forbids inside a string is escaped: quotes, backslashes and
control characters, the latter by their short form where there is one.

## Main definitions

* `Json.escape`: one character inside a JSON string.
* `Json.quote`: a text as a JSON string.
* `Json.singleton`: an object with one member, whose value is a text.
-/

namespace PullReport

namespace Json

/-- A character as it stands inside a JSON string. -/
def escape (c : Char) : List Char :=
  if c = '"' then ['\\', '"']
  else if c = '\\' then ['\\', '\\']
  else if c = '\x08' then ['\\', 'b']
  else if c = '\x0c' then ['\\', 'f']
  else if c = '\n' then ['\\', 'n']
  else if c = '\r' then ['\\', 'r']
  else if c = '\t' then ['\\', 't']
  else if c.toNat < 0x20 then
    ['\\', 'u', '0', '0', Text.lowerHexDigit (c.toNat / 16),
      Text.lowerHexDigit (c.toNat % 16)]
  else [c]

/-- A text as a JSON string. -/
def quote (text : String) : List Char := '"' :: text.toList.flatMap escape ++ ['"']

/-- The object whose only member is the given text under the given name. -/
def singleton (name text : String) : String :=
  String.ofList ('\x7b' :: quote name ++ ':' :: quote text ++ ['\x7d'])

end Json

end PullReport
