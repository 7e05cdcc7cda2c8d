import PullReport.Patch.ChangedFile
import PullReport.Patch.Line

/-!
# Counting test declarations

How many test declarations a patch adds and removes. A line counts if it stands on one side of the
change, carries a test marker and is not commented out; it counts once, however many markers it
carries.

## Main definitions

* `TestTally`: the two counts.
* `TestTally.ofLines`, `TestTally.ofFiles`: the counts of some lines and of some files.
-/

namespace PullReport

/-- The numbers of test declarations added and removed. -/
structure TestTally where
  added : Nat
  deleted : Nat
  deriving DecidableEq, Repr

namespace TestTally

open Patch

/-- Whether a line declares a test on the given side of the change. -/
def counts (side : Sign) (line : List Char) : Bool :=
  !isCommentedOut line && hasTestMarker line && sign line == side

/-- The tally of a run of lines. -/
def ofLines (ls : List (List Char)) : TestTally :=
  ⟨ls.countP (counts .added), ls.countP (counts .removed)⟩

/-- The tally of files: lines are counted wherever they stand. -/
def ofFiles (files : List ChangedFile) : TestTally := ofLines (files.flatMap ChangedFile.lines)

end TestTally

end PullReport
