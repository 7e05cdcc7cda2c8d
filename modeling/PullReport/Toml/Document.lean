import PullReport.Toml.Value

/-!
# TOML documents

A document is a sequence of headers and of keys with values. A header says to which table the keys
behind it belong; keys in front of any header belong to the document's own table.

A line ends with a line feed or with a carriage return and a line feed. No other carriage return can
stand anywhere, and a string over several lines has line feeds only, so the pairs are replaced
before anything else is read.

## Main definitions

* `Toml.Document`: the tables so far, and the one to which keys belong.
* `Toml.Document.statement?`: a header, or a key with its value.
* `Toml.read?`: the entries of a document.
-/

namespace PullReport

namespace Toml

/-- The tables of a document up to some point, and the path of the one that keys belong to. -/
structure Document where
  entries : Entries
  current : List String
  deriving Repr

/-- The text behind the end of a line, in front of which blanks and a comment may stand. The end of
the document ends a line, too. -/
def afterLineEnd? (cs : List Char) : Option (List Char) :=
  let behind (cs : List Char) : Option (List Char) :=
    match cs with
    | [] => some []
    | c :: cs => if c = '\n' then some cs else none
  match afterSpaces cs with
  | '#' :: cs => behind (cs.dropWhile isPrintable)
  | cs => behind cs

/-- The text with a line feed for every carriage return and line feed. -/
def unifyLineEnds : List Char → List Char
  | [] => []
  | '\r' :: '\n' :: cs => '\n' :: unifyLineEnds cs
  | c :: cs => c :: unifyLineEnds cs

namespace Document

/-- The document behind the header of a table. -/
def enter? (doc : Document) (key : Key) : Option Document :=
  (open? key.path key.last doc.entries).map fun entries => ⟨entries, key.names⟩

/-- The document behind the header of one more table of an array. -/
def enterNext? (doc : Document) (key : Key) : Option Document :=
  (openNext? key.path key.last doc.entries).map fun entries => ⟨entries, key.names⟩

/-- The document behind a key with its value. -/
def add? (doc : Document) (key : Key) (value : Toml) : Option Document :=
  (alter? false (fun _ => insert? key.path key.last value) .header doc.current doc.entries).map
    fun entries => ⟨entries, doc.current⟩

/-- The document behind the statement at the front of a text, and the text behind that statement's
line. -/
def statement? (doc : Document) : List Char → Option (Document × List Char)
  | '[' :: '[' :: cs => do
    let (key, rest) ← key? cs
    match rest with
    | ']' :: ']' :: rest => return (← doc.enterNext? key, ← afterLineEnd? rest)
    | _ => none
  | '[' :: cs => do
    let (key, rest) ← key? cs
    match rest with
    | ']' :: rest => return (← doc.enter? key, ← afterLineEnd? rest)
    | _ => none
  | cs => do
    let (key, value, rest) ← keyValue? value? cs
    return (← doc.add? key value, ← afterLineEnd? rest)

/-- The document behind a whole text. Every statement takes a character at least, so `fuel` may be
the length of the text. -/
def statements? (doc : Document) : Nat → List Char → Option Document
  | 0, _ => none
  | fuel + 1, cs => do
    match ← afterGap? false cs with
    | [] => return doc
    | cs => do
      let (doc, rest) ← doc.statement? cs
      doc.statements? fuel rest

end Document

/-- The entries of the document that a text holds. A byte order mark may stand at its front. -/
def read? (text : String) : Option Entries :=
  let cs := match text.toList with
    | '\uFEFF' :: cs => cs
    | cs => cs
  let cs := unifyLineEnds cs
  (Document.statements? ⟨[], []⟩ (cs.length + 1) cs).map (·.entries)

end Toml

end PullReport
