import PullReport.Text.Lines

/-!
# Changed files

A file that a pull request changes, with the part of the unified diff that concerns it.

## Main definitions

* `ChangedFile`: the path of the file and its hunks as one text.
* `ChangedFile.lines`: the lines of the hunks.
-/

namespace PullReport

/-- A changed file. The patch of a binary or oversized file is empty. -/
structure ChangedFile where
  filename : String
  patch : String
  deriving DecidableEq, Repr

/-- The lines of the patch; an empty patch has none. -/
def ChangedFile.lines (file : ChangedFile) : List (List Char) := Text.lines file.patch.toList

end PullReport
