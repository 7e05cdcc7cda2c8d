import PullReport.Text.Search

/-!
# Lines of a patch

What can be told from one line of a unified diff alone: on which side of the change it stands,
whether its visible text is a comment, and whether it declares a test. Nothing here looks at the
lines around it.

## Main definitions

* `Patch.Sign`, `Patch.sign`: the side of the change, read off the first character.
* `Patch.isCommentedOut`: the line shows a `//` comment and nothing before it.
* `Patch.testMarkers`, `Patch.hasTestMarker`: the texts by which test declarations are known.
-/

namespace PullReport

namespace Patch

/-- The side of the change a line belongs to. A context line, a hunk header and an empty line belong
to neither. -/
inductive Sign where
  | added
  | removed
  | neutral
  deriving DecidableEq, Repr

/-- The side is the line's first character and nothing else. -/
def sign : List Char → Sign
  | '+' :: _ => .added
  | '-' :: _ => .removed
  | _ => .neutral

/-- A character of the margin left of the visible text: an edit sign or indentation. -/
def isMargin (c : Char) : Bool := c == '+' || c == '-' || c == ' ' || c == '\t'

/-- Whether the first thing after the margin is `//`. The margin may hold any number of signs, so a
line whose own text begins with a sign before the `//` counts as well. -/
def isCommentedOut (line : List Char) : Bool :=
  "//".toList.isPrefixOf (line.dropWhile isMargin)

/-- The attributes that declare a test or one data row of it. -/
def testMarkers : List (List Char) :=
  ["[TestMethod]".toList, "[DataRow(".toList, "[Fact]".toList, "[InlineData(".toList,
    "[Test]".toList, "[TestCase(".toList]

/-- Whether one of the markers stands anywhere in the line, in the case given. -/
def hasTestMarker (line : List Char) : Bool := testMarkers.any (Text.occursIn · line)

end Patch

end PullReport
