import PullReport.Report.Basic
import PullReport.Report.Style

/-!
# The report on a terminal

The report as it is printed for a person: headed parts, entries indented by two spaces, and, if
colours are on, the style that goes with each kind of entry.

## Main definitions

* `Report.terminalLines`: the printed lines.
* `Report.terminal`: the printed text, every line of it ended by a line feed.
-/

namespace PullReport

/-- The style of the entries of a class. -/
def ChangeClass.style : ChangeClass → Style
  | .added => .green
  | .updated => .yellow
  | .removed => .red

namespace Report

/-- An entry under one of the headed parts. -/
def entry (colour : Bool) (style : Style) (text : String) : String :=
  "  " ++ style.paint colour text

/-- The lines of the part about deleted methods. -/
def methodEntries (colour : Bool) (methods : List DeletedMethod) : List String :=
  (DeletedMethod.lines methods).map (entry colour (if methods = [] then .dimmed else .red))

/-- The lines of one class in the part about references, or none where no change has that class. -/
def sectionEntries (colour : Bool) (changes : List ReferenceChange) (cls : ChangeClass) :
    List String :=
  match ReferenceChange.ofClass cls changes with
  | [] => []
  | members =>
    entry colour .bold cls.heading ::
      members.map fun change => entry colour cls.style (change.line cls)

/-- The lines of the part about references. -/
def referenceEntries (colour : Bool) (changes : List ReferenceChange) : List String :=
  match ChangeClass.all.flatMap (sectionEntries colour changes) with
  | [] => [entry colour .dimmed ReferenceChange.noneLine]
  | entries => entries

/-- The lines of a report. -/
def terminalLines (colour : Bool) (report : Report) : List String :=
  let analysis := report.analysis
  ["", "Pull request: " ++ Style.bold.paint colour report.source,
    "Files analyzed: " ++ toString report.filesAnalyzed, "",
    "═══ Test Changes ═══",
    "  Added tests:   " ++ Style.boldGreen.paint colour (toString analysis.tests.added),
    "  Deleted tests: " ++ Style.boldRed.paint colour (toString analysis.tests.deleted), "",
    "═══ Deleted Public Methods ═══"]
  ++ methodEntries colour analysis.deletedMethods
  ++ ["", "═══ Project References ═══"]
  ++ referenceEntries colour analysis.references
  ++ [""]

/-- The printed text of a report. -/
def terminal (colour : Bool) (report : Report) : String :=
  String.join ((report.terminalLines colour).map (· ++ "\n"))

end Report

end PullReport
