import PullReport.Toml.Quotation
import PullReport.Toml.Scalar

/-!
# TOML keys and values

A key is a list of names with points between them. A value is a scalar, a string, an array of values
or a table between braces, and arrays and such tables hold values in their turn. How deep they may
nest is limited, and so is the number of names in a key.

## Main definitions

* `Toml.key?`: a key.
* `Toml.afterGap?`: the text behind blanks, line ends and comments.
* `Toml.items?`, `Toml.inlineEntries?`: the insides of an array and of a table between braces.
* `Toml.value?`: a value.
-/

namespace PullReport

namespace Toml

/-! ### Blanks and comments -/

/-- The text behind blanks within the line. -/
def afterSpaces (cs : List Char) : List Char := cs.dropWhile isSpace

/-- The text behind blanks, line ends and comments. A comment ends with its line. -/
def afterGap? (inComment : Bool) : List Char → Option (List Char)
  | [] => some []
  | c :: cs =>
    if c = '\n' then afterGap? false cs
    else if inComment then
      if isPrintable c then afterGap? true cs else none
    else if c = '#' then afterGap? true cs
    else if isSpace c then afterGap? false cs
    else some (c :: cs)

/-! ### Keys -/

/-- Whether a character can stand in a name without quotes. -/
def isBareKeyChar (c : Char) : Bool := c.isAlphanum || c == '-' || c == '_'

/-- One name of a key, bare or quoted. -/
def name? (cs : List Char) : Option (List Char × List Char) :=
  match cs.takeWhile isBareKeyChar with
  | [] => quotedName? cs
  | bare => some (bare, cs.dropWhile isBareKeyChar)

/-- A key: its names but the last, and the last. -/
structure Key where
  path : List String
  last : String
  deriving DecidableEq, Repr

/-- All names of a key. -/
def Key.names (key : Key) : List String := key.path ++ [key.last]

/-- A key of at most so many names, with blanks around each name, and what follows it. -/
def keyWithin? : Nat → List Char → Option (Key × List Char)
  | 0, _ => none
  | limit + 1, cs =>
    match name? (afterSpaces cs) with
    | none => none
    | some (name, rest) =>
      let name := String.ofList name
      match afterSpaces rest with
      | '.' :: rest => (keyWithin? limit rest).map fun (key, rest) =>
          (⟨name :: key.path, key.last⟩, rest)
      | rest => some (⟨[], name⟩, rest)

/-- How many names a key may have, and how deep values may nest. -/
def depthLimit : Nat := 79

/-- A key with the blanks around it, and what follows. -/
def key? (cs : List Char) : Option (Key × List Char) := keyWithin? depthLimit cs

/-! ### Values -/

/-- The rest of an array, and what follows it, given how to read a value. Every item takes a
character at least, so `fuel` may be the length of the text. A comma may follow the last item. -/
def items? (value? : List Char → Option (Toml × List Char)) :
    Nat → List Char → Option (List Toml × List Char)
  | 0, _ => none
  | fuel + 1, cs => do
    let cs ← afterGap? false cs
    if cs.head? = some ']' then return ([], cs.drop 1)
    let (item, rest) ← value? cs
    match ← afterGap? false rest with
    | ',' :: rest => do
      let (items, rest) ← items? value? fuel rest
      return (item :: items, rest)
    | ']' :: rest => return ([item], rest)
    | _ => none

/-- A key, a value and the blanks around both, and what follows. -/
def keyValue? (value? : List Char → Option (Toml × List Char)) (cs : List Char) :
    Option (Key × Toml × List Char) := do
  let (key, rest) ← key? cs
  match rest with
  | '=' :: rest => do
    let (value, rest) ← value? (afterSpaces rest)
    return (key, value, afterSpaces rest)
  | _ => none

/-- The rest of a table between braces that has these entries already, and what follows it. Here no
comma may follow the last entry. -/
def inlineEntries? (value? : List Char → Option (Toml × List Char)) (entries : Entries) :
    Nat → List Char → Option (Entries × List Char)
  | 0, _ => none
  | fuel + 1, cs => do
    let (key, value, rest) ← keyValue? value? cs
    let entries ← insert? key.path key.last value entries
    match rest with
    | ',' :: rest => inlineEntries? value? entries fuel rest
    | '\x7d' :: rest => return (entries, rest)
    | _ => none

/-- A value in which arrays and tables nest at most so deep, and what follows it. -/
def valueWithin? : Nat → List Char → Option (Toml × List Char)
  | depth, '[' :: cs =>
    match depth with
    | 0 => none
    | depth + 1 => (items? (valueWithin? depth) (cs.length + 1) cs).map fun (items, rest) =>
        (array items, rest)
  | depth, '\x7b' :: cs =>
    match depth with
    | 0 => none
    | depth + 1 =>
      match afterSpaces cs with
      | '\x7d' :: rest => some (table .inline [], rest)
      | _ => (inlineEntries? (valueWithin? depth) [] (cs.length + 1) cs).map fun (entries, rest) =>
          (table .inline entries, rest)
  | _, '"' :: cs => (quoted? ('"' :: cs)).map fun (chars, rest) =>
      (text (String.ofList chars), rest)
  | _, '\'' :: cs => (quoted? ('\'' :: cs)).map fun (chars, rest) =>
      (text (String.ofList chars), rest)
  | _, cs => scalar? cs

/-- A value, and what follows it. -/
def value? (cs : List Char) : Option (Toml × List Char) := valueWithin? depthLimit cs

end Toml

end PullReport
