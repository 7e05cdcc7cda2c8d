import PullReport.Patch.ChangedFile
import PullReport.Patch.MethodDeclaration

/-!
# Deleted public methods

The public methods whose declarations a pull request removes, in the order of files and lines.

## Main definitions

* `DeletedMethod`: a file and the name of the method declared in it.
* `DeletedMethod.ofFiles`: one record for each removed declaration.
-/

namespace PullReport

/-- A method whose declaration was removed from a file. -/
structure DeletedMethod where
  filename : String
  method : String
  deriving DecidableEq, Repr

namespace DeletedMethod

/-- The records of one file. -/
def ofFile (file : ChangedFile) : List DeletedMethod :=
  file.lines.filterMap fun line =>
    (Patch.removedMethod? line).map fun name => ⟨file.filename, String.ofList name⟩

/-- The records of all files. A method removed twice has two records. -/
def ofFiles (files : List ChangedFile) : List DeletedMethod := files.flatMap ofFile

end DeletedMethod

end PullReport
