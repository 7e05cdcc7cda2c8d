import PullReport.Patch.ChangedFile
import PullReport.Text.Blank

/-!
# Splitting a diff into files

The output of a diff over many files is a sequence of sections. Each starts with a header line that
names the file twice; everything from the section's first hunk line on is its patch. Lines before
the first header belong to no file, and the lines between a header and the first hunk describe the
file rather than change it.

## Main definitions

* `Diff.Error`: what can be wrong with a header.
* `Diff.headerPath`: the path a header names.
* `Diff.split`: the changed files of a diff.
-/

namespace PullReport

namespace Diff

open Text

/-- A header names its file once before and once after the change; either path can be missing. -/
inductive Error where
  | missingOldPath
  | missingNewPath
  deriving DecidableEq, Repr

/-- What is missing, in words. -/
def Error.detail : Error → String
  | missingOldPath => "Missing a/ path in diff header"
  | missingNewPath => "Missing b/ path in diff header"

/-- The text behind the opening words of a header line, for a line that is one. -/
def header? (line : List Char) : Option (List Char) := "diff --git ".toList.isPrefixOf? line

/-- The path named by a header: the new path without its `b/`, else the old one without its `a/`,
else the new one as it stands. Paths are words, so a path ends at its first blank. -/
def headerPath (rest : List Char) : Except Error (List Char) :=
  match nextWord? rest with
  | none => .error .missingOldPath
  | some (old, rest) =>
    match nextWord? rest with
    | none => .error .missingNewPath
    | some (new, _) =>
      match "b/".toList.isPrefixOf? new, "a/".toList.isPrefixOf? old with
      | some path, _ => .ok path
      | none, some path => .ok path
      | none, none => .ok new

/-- Whether a line opens a hunk. -/
def isHunkStart (line : List Char) : Bool := "@@".toList.isPrefixOf line

/-- The section at the front of the lines behind a header: its lines up to the next header, less
those before the first hunk. -/
def hunkLines (ls : List (List Char)) : List (List Char) :=
  (ls.takeWhile fun line => (header? line).isNone).dropWhile (!isHunkStart ·)

/-- The files of the sections that start among these lines, one for each header, in order. -/
def sections : List (List Char) → Except Error (List ChangedFile)
  | [] => .ok []
  | line :: rest =>
    match header? line with
    | none => sections rest
    | some paths => do
      let path ← headerPath paths
      let files ← sections rest
      return ⟨String.ofList path, String.ofList (unlines (hunkLines rest))⟩ :: files

/-- The changed files of a diff, one for each header line, in order. The first header that lacks a
path makes the whole diff unreadable. -/
def split (raw : String) : Except Error (List ChangedFile) := sections (lines raw.toList)

end Diff

end PullReport
