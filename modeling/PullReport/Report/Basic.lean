import PullReport.Analysis.Basic

/-!
# The report as plain text

A report says where the changed files came from, how many of them were analyzed, and what was found.
Its plain text has three blocks with an empty line between each two: test counts, deleted methods,
reference changes. The reference block lists new, updated and removed references under a heading
each; a heading without entries is left out, and so is a change without a class.

## Main definitions

* `Report`, `Report.ofFiles`: a report and how it comes about.
* `TestTally.text`, `DeletedMethod.lines`, `DeletedMethod.text`, `ReferenceChange.text`: the blocks.
* `Analysis.text`: the whole text.
* `Analysis.commentBody`: the text in the form in which it is posted as a comment.
-/

namespace PullReport

/-- The findings about one pull request or local diff. -/
structure Report where
  source : String
  filesAnalyzed : Nat
  analysis : Analysis
  deriving DecidableEq, Repr

/-- The report on some changed files. Only the relevant ones are counted and analyzed. -/
def Report.ofFiles (filter : FileFilter) (source : String) (files : List ChangedFile) : Report :=
  let relevant := filter.relevant files
  ⟨source, relevant.length, Analysis.ofFiles filter relevant⟩

/-- The block of test counts. -/
def TestTally.text (tally : TestTally) : String :=
  "Added Tests: " ++ toString tally.added ++ "\nDeleted Tests: " ++ toString tally.deleted

namespace DeletedMethod

/-- Stands for the methods where there are none. -/
def noneLine : String := "* none *"

/-- The line of one method. -/
def line (method : DeletedMethod) : String := "- " ++ method.filename ++ " : " ++ method.method

/-- A line for each method, or the one line that says there is none. -/
def lines : List DeletedMethod → List String
  | [] => [noneLine]
  | methods => methods.map line

/-- The block of deleted methods. -/
def text (methods : List DeletedMethod) : String :=
  "Deleted Public Methods:\n" ++ "\n".intercalate (lines methods)

end DeletedMethod

namespace ChangeClass

/-- The heading over the changes of a class. -/
def heading : ChangeClass → String
  | added => "New references:"
  | updated => "Updated references:"
  | removed => "Removed references:"

end ChangeClass

namespace ReferenceChange

/-- Stands for the changes where none has a class. -/
def noneLine : String := "* no reference changes detected *"

/-- A version behind the name of a reference. The sentinel and the empty version show nothing. -/
def versionSuffix (version : Option String) : String :=
  match version with
  | some v => if v ≠ "" ∧ v ≠ noVersion then " (version " ++ v ++ ")" else ""
  | none => ""

/-- A version on one side of an update. -/
def versionLabel (version : Option String) : String :=
  match version with
  | some v => if v = noVersion then "no version" else v
  | none => ""

/-- The line of a change under the heading of a class. -/
def line (cls : ChangeClass) (change : ReferenceChange) : String :=
  let versions := match cls with
    | .added => versionSuffix change.new
    | .updated =>
      " (version " ++ versionLabel change.old ++ " -> " ++ versionLabel change.new ++ ")"
    | .removed => versionSuffix change.old
  "- " ++ change.name ++ versions ++ " [" ++ change.kind.tagName ++ "]"

/-- The changes of a class, in the order given. -/
def ofClass (cls : ChangeClass) (changes : List ReferenceChange) : List ReferenceChange :=
  changes.filter (·.readsAs cls)

/-- The heading of a class and the lines under it, or nothing where no change has that class. -/
def sectionLines (changes : List ReferenceChange) (cls : ChangeClass) : List String :=
  match ofClass cls changes with
  | [] => []
  | members => cls.heading :: members.map (line cls)

/-- The sections that have entries, each as its lines. -/
def sections (changes : List ReferenceChange) : List (List String) :=
  (ChangeClass.all.map (sectionLines changes)).filter (· ≠ [])

/-- The block of reference changes: the sections with an empty line between each two. -/
def text (changes : List ReferenceChange) : String :=
  "Project References:\n" ++
    match sections changes with
    | [] => noneLine
    | blocks => "\n\n".intercalate (blocks.map "\n".intercalate)

end ReferenceChange

namespace Analysis

/-- The whole text of a report. -/
def text (analysis : Analysis) : String :=
  "\n\n".intercalate
    [analysis.tests.text, DeletedMethod.text analysis.deletedMethods,
      ReferenceChange.text analysis.references]

/-- What every posted comment starts with. -/
def commentHeading : String := "<b>PullRequestHelper:</b><br /><br />"

/-- A text as the body of a comment. Comments are shown as markup, so each line feed becomes the
markup's line break. -/
def commentBody (text : String) : String :=
  commentHeading ++
    String.ofList (text.toList.flatMap fun c => if c = '\n' then "<br />".toList else [c])

end Analysis

end PullReport
