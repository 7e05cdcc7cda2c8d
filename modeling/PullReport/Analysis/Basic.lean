import PullReport.Analysis.DeletedMethod
import PullReport.Analysis.FileFilter
import PullReport.Analysis.Reconciler
import PullReport.Analysis.TestTally

/-!
# The analysis of a pull request

The three findings about a list of changed files, each over the files of its sort.

## Main definitions

* `Analysis`: test counts, deleted methods and reference changes.
* `Analysis.ofFiles`: the analysis of files under a filter.
-/

namespace PullReport

/-- What is found in the changed files of a pull request. -/
structure Analysis where
  tests : TestTally
  deletedMethods : List DeletedMethod
  references : List ReferenceChange
  deriving DecidableEq, Repr

/-- Tests and methods come from source files, references from manifests. -/
def Analysis.ofFiles (filter : FileFilter) (files : List ChangedFile) : Analysis :=
  { tests := TestTally.ofFiles (filter.sources files)
    deletedMethods := DeletedMethod.ofFiles (filter.sources files)
    references := ReferenceChange.ofFiles (filter.manifests files) }

end PullReport
