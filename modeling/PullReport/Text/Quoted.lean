import PullReport.Text.Unprintable

/-!
# Texts in quotes

How a text from the outside is shown inside a message, so that the reader sees where it begins and
ends and what is in it: in double quotes, with the usual escapes, and with every character that has
no visible form given by its code point.

## Main definitions

* `Text.hexDigits`: a number in lower-case hexadecimal without leading zeros.
* `Text.escapeChar`: one character as it stands between the quotes.
* `Text.quoted`: a whole text with its quotes.
-/

namespace PullReport

namespace Text

/-- A number in hexadecimal with lower-case letters and no leading zero. -/
def hexDigits (n : Nat) : List Char := Nat.toDigits 16 n

/-- A character as it stands between double quotes. A single quote needs no escape there. -/
def escapeChar (c : Char) : List Char :=
  if c = '\x00' then ['\\', '0']
  else if c = '\t' then ['\\', 't']
  else if c = '\n' then ['\\', 'n']
  else if c = '\r' then ['\\', 'r']
  else if c = '"' then ['\\', '"']
  else if c = '\\' then ['\\', '\\']
  else if c ≠ ' ' ∧ isUnprintable c then
    ['\\', 'u', '\x7b'] ++ hexDigits c.toNat ++ ['\x7d']
  else [c]

/-- A text in double quotes. -/
def quoted (s : String) : String :=
  String.ofList ('"' :: s.toList.flatMap escapeChar ++ ['"'])

end Text

end PullReport
