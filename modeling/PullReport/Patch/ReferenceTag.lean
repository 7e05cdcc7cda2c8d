import PullReport.Text.Blank
import PullReport.Text.Search

/-!
# Reference tags

The dependency tags of a project manifest, found on one line. A tag names its dependency in the
attribute `Include`, which stands first; a `Version` may or must follow, as the kind has it; then
only blanks may come before the tag's end.

Two of the kinds never carry a version. They are recorded under a sentinel in place of one, so that
the presence of such a reference can be told from its absence.

## Main definitions

* `ReferenceKind`: the four tags, in the order in which they are looked for.
* `ReferenceTag`: a tag as found on a line.
* `ReferenceTag.at?`: the tag of one kind at the front of a text.
* `ReferenceTag.find?`: the first kind with a tag anywhere on the line, at its leftmost place.
* `noVersion`: the sentinel.
-/

namespace PullReport

open Text

/-- The four dependency tags. -/
inductive ReferenceKind where
  | package
  | project
  | framework
  | assembly
  deriving DecidableEq, Repr

namespace ReferenceKind

/-- The kinds in the order in which a line is searched for them. -/
def all : List ReferenceKind := [package, project, framework, assembly]

/-- The name of the tag. -/
def tagName : ReferenceKind → String
  | package => "PackageReference"
  | project => "ProjectReference"
  | framework => "FrameworkReference"
  | assembly => "Reference"

/-- The kinds whose tags never carry a version. -/
def isUnversioned : ReferenceKind → Bool
  | project | framework => true
  | package | assembly => false

end ReferenceKind

/-- Stands for the version of a tag whose kind has none. -/
def noVersion : String := "[NoVersion]"

/-- A dependency tag on a line. The version is empty if the tag gives none. -/
structure ReferenceTag where
  kind : ReferenceKind
  name : String
  version : String
  deriving DecidableEq, Repr

namespace ReferenceTag

/-- The value of the attribute `key` at the front of a text and what follows its closing quote. The
value ends at the next quote. -/
def attribute? (key : List Char) (cs : List Char) : Option (List Char × List Char) := do
  let value ← (key ++ ['=', '"']).isPrefixOf? cs
  match value.dropWhile (· ≠ '"') with
  | [] => none
  | _ :: rest => some (value.takeWhile (· ≠ '"'), rest)

/-- Whether only blanks come before the end of the tag. -/
def closes (cs : List Char) : Bool :=
  match trimStart cs with
  | '>' :: _ => true
  | '/' :: '>' :: _ => true
  | _ => false

/-- What the rest of a tag, behind its `Include`, says about the version: nothing for a kind
without versions, a text that is not empty for a package, and any text or none for an assembly. -/
def version? : ReferenceKind → List Char → Option (List Char)
  | .package, cs => do
    let (version, rest) ← attribute? "Version".toList (← afterBlanks? cs)
    if version ≠ [] ∧ closes rest then some version else none
  | .project, cs => if closes cs then some [] else none
  | .framework, cs => if closes cs then some [] else none
  | .assembly, cs =>
    match attribute? "Version".toList (trimStart cs) with
    | some (version, rest) => if closes rest then some version else none
    | none => if closes cs then some [] else none

/-- The tag of one kind that starts right at the front of a text. -/
def at? (kind : ReferenceKind) (cs : List Char) : Option ReferenceTag := do
  let opened ← ('<' :: kind.tagName.toList).isPrefixOf? cs
  let (name, rest) ← attribute? "Include".toList (← afterBlanks? opened)
  if name = [] then none
  else (version? kind rest).map fun version =>
    ⟨kind, String.ofList name, String.ofList version⟩

/-- The tag on a line. The kinds are tried in order, each over the whole line. -/
def find? (line : List Char) : Option ReferenceTag :=
  ReferenceKind.all.findSome? fun kind => leftmost? (at? kind) line

end ReferenceTag

end PullReport
