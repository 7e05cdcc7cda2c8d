import PullReport.Text.Number

/-!
# JSON values

A JSON value as written: the members of an object stay in their order and a name may occur twice,
a number keeps its numeral, and a string may fail to denote a text.

The last point needs a word. An escape can name half of a surrogate pair, and where the other half
is missing the string is well formed but stands for no sequence of characters. Such a string may be
skipped, but not used. It is kept as `none`.

## Main definitions

* `Json`: JSON values.
* `Json.natural?`, `Json.text?`, `Json.list?`: the value as a number, a text and a list.
-/

namespace PullReport

/-- A JSON value. -/
inductive Json where
  | null
  | bool (value : Bool)
  | number (numeral : List Char)
  | string (text : Option String)
  | array (items : List Json)
  | object (members : List (Option String × Json))
  deriving Repr

namespace Json

/-- The value as a number below `2 ^ 64`. Only a plain numeral is one: a sign, a fraction or an
exponent makes it another kind of number, even where its value is natural. -/
def natural? : Json → Option Nat
  | number numeral => Text.word64? numeral
  | _ => none

/-- The value as a text. -/
def text? : Json → Option String
  | string text => text
  | _ => none

/-- The value as a list, each item read by `read?`. One unreadable item spoils the list. -/
def list? {α : Type} (read? : Json → Option α) : Json → Option (List α)
  | array items => items.mapM read?
  | _ => none

end Json

end PullReport
