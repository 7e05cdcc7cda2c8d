import PullReport.Report.Basic

/-!
# The report as a document

The report in the form in which it is written to a file: a document with a title, a part for each
finding, file and method names set as code, and the reference block word for word in a fenced
block.

## Main definitions

* `Report.markdown`: the document.
-/

namespace PullReport

/-- The entry of a method in the document. -/
def DeletedMethod.markdownLine (method : DeletedMethod) : String :=
  "- `" ++ method.filename ++ "` : `" ++ method.method ++ "`\n"

/-- The part about deleted methods, below its title. -/
def DeletedMethod.markdown : List DeletedMethod → String
  | [] => "None.\n\n"
  | methods => String.join (methods.map markdownLine) ++ "\n"

/-- The document. -/
def Report.markdown (report : Report) : String :=
  let analysis := report.analysis
  "# Pull Request Helper: " ++ report.source ++ "\n\n"
  ++ "**Files analyzed:** " ++ toString report.filesAnalyzed ++ "\n\n"
  ++ "## Test Changes\n\n"
  ++ "- Added tests: " ++ toString analysis.tests.added ++ "\n"
  ++ "- Deleted tests: " ++ toString analysis.tests.deleted ++ "\n\n"
  ++ "## Deleted Public Methods\n\n"
  ++ DeletedMethod.markdown analysis.deletedMethods
  ++ "## Project References\n\n```text\n"
  ++ ReferenceChange.text analysis.references
  ++ "\n```\n"

end PullReport
