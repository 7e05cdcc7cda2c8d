import PullReport.Text.Number

/-!
# TOML strings

A string stands between quotes, single ones or double ones, and where the quotes are tripled it may
run over several lines. Between double quotes a backslash starts an escape; between single quotes
nothing is special. A document is read with line feeds as its only line ends, so a carriage return
belongs to no string.

## Main definitions

* `Toml.Quotation`: the four ways to quote.
* `Toml.Quotation.body?`: the text behind an opening quote, up to the closing one.
* `Toml.quoted?`: a string of any of the four ways; `Toml.quotedName?`: one on a single line.
-/

namespace PullReport

namespace Toml

/-- A tab or a character that is no control character. These can stand in comments, and between
quotes as far as the quotes do not make them special. -/
def isPrintable (c : Char) : Bool := c == '\t' || (0x20 ≤ c.toNat && c.toNat ≠ 0x7F)

/-- The blanks within a line. -/
def isSpace (c : Char) : Bool := c == ' ' || c == '\t'

/-- A way to quote: by which character, and whether over several lines. -/
structure Quotation where
  quote : Char
  multiline : Bool
  deriving DecidableEq, Repr

namespace Quotation

/-- Whether a backslash is special. -/
def escapes (q : Quotation) : Bool := q.quote == '"'

/-- Whether a character can stand for itself. -/
def allows (q : Quotation) (c : Char) : Bool := isPrintable c || (q.multiline && c == '\n')

/-- What a text that starts with closing quotes adds to the string, and what follows the quotes. A
tripled quote may have up to two more quotes in front of it, which belong to the string. -/
def closing? (q : Quotation) (cs : List Char) : Option (List Char × List Char) :=
  if q.multiline then
    if [q.quote, q.quote, q.quote].isPrefixOf cs then
      let extra := min 2 ((cs.drop 3).takeWhile (· = q.quote)).length
      some (List.replicate extra q.quote, cs.drop (3 + extra))
    else none
  else if cs.head? = some q.quote then some ([], cs.drop 1)
  else none

/-- The unfinished escape in front of a character. An escaped line end also takes the blanks and
line ends that follow it. -/
inductive Pending where
  | nothing
  | backslash
  | codePoint (value missing : Nat)
  | lineEnd (seen : Bool)
  deriving DecidableEq, Repr

/-- What is pending in front of a character when an escaped line end is over. -/
def Pending.before (pending : Pending) (c : Char) : Pending :=
  if pending = .lineEnd true ∧ ¬ (isSpace c ∨ c = '\n') then .nothing else pending

/-- The character that a one-letter escape stands for. -/
def simpleEscape? : Char → Option Char
  | 'b' => some '\x08'
  | 't' => some '\t'
  | 'n' => some '\n'
  | 'f' => some '\x0c'
  | 'r' => some '\r'
  | '"' => some '"'
  | '\\' => some '\\'
  | _ => none

/-- A text with one more character in front, and the rest behind it. -/
def push (c : Char) (read : Option (List Char × List Char)) : Option (List Char × List Char) :=
  read.map fun (chars, rest) => (c :: chars, rest)

/-- The string behind an opening quote or an unfinished escape, and what follows its closing
quote. -/
def body? (q : Quotation) (pending : Pending) : List Char → Option (List Char × List Char)
  | [] => none
  | c :: cs =>
    match pending.before c with
    | .nothing =>
      match q.closing? (c :: cs) with
      | some found => some found
      | none =>
        if q.escapes ∧ c = '\\' then body? q .backslash cs
        else if q.allows c then push c (body? q .nothing cs)
        else none
    | .backslash =>
      if c = 'u' then body? q (.codePoint 0 4) cs
      else if c = 'U' then body? q (.codePoint 0 8) cs
      else if q.multiline ∧ (isSpace c ∨ c = '\n') then body? q (.lineEnd (c = '\n')) cs
      else
        match simpleEscape? c with
        | some d => push d (body? q .nothing cs)
        | none => none
    | .codePoint value missing =>
      match Text.hexValue? c with
      | none => none
      | some digit =>
        let value := 16 * value + digit
        if 1 < missing then body? q (.codePoint value (missing - 1)) cs
        else if value.isValidChar then push (Char.ofNat value) (body? q .nothing cs)
        else none
    | .lineEnd seen =>
      if isSpace c ∨ c = '\n' then body? q (.lineEnd (seen ∨ c = '\n')) cs else none

end Quotation

/-- A string on a single line, and what follows it. -/
def quotedName? : List Char → Option (List Char × List Char)
  | '"' :: cs => Quotation.body? ⟨'"', false⟩ .nothing cs
  | '\'' :: cs => Quotation.body? ⟨'\'', false⟩ .nothing cs
  | _ => none

/-- The text of a string over several lines, which leaves out a line end right behind its opening
quotes. -/
def multiline? (quote : Char) : List Char → Option (List Char × List Char)
  | '\n' :: cs => Quotation.body? ⟨quote, true⟩ .nothing cs
  | cs => Quotation.body? ⟨quote, true⟩ .nothing cs

/-- A string, and what follows it. -/
def quoted? : List Char → Option (List Char × List Char)
  | '"' :: '"' :: '"' :: cs => multiline? '"' cs
  | '\'' :: '\'' :: '\'' :: cs => multiline? '\'' cs
  | cs => quotedName? cs

end Toml

end PullReport
