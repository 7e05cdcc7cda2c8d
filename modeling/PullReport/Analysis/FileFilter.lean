import PullReport.Patch.ChangedFile

/-!
# Which files are analyzed

A file is told by the end of its name: source files are searched for tests and methods, manifests
for references. The two sorts need not exclude each other.

## Main definitions

* `FileFilter`: the name endings of both sorts.
* `FileFilter.isSource`, `FileFilter.isManifest`, `FileFilter.isRelevant`: the sorts of a file name.
-/

namespace PullReport

/-- The endings by which source files and manifests are known. -/
structure FileFilter where
  sourceExtensions : List String := [".cs"]
  manifestExtensions : List String := [".csproj"]
  deriving DecidableEq, Repr

namespace FileFilter

/-- Whether a name ends in one of the given texts. The empty text ends every name. -/
def endsInAny (endings : List String) (filename : String) : Bool :=
  endings.any fun ending => ending.toList.isSuffixOf filename.toList

/-- Whether a file of this name is searched for tests and methods. -/
def isSource (filter : FileFilter) (filename : String) : Bool :=
  endsInAny filter.sourceExtensions filename

/-- Whether a file of this name is searched for references. -/
def isManifest (filter : FileFilter) (filename : String) : Bool :=
  endsInAny filter.manifestExtensions filename

/-- Whether a file of this name is searched at all. -/
def isRelevant (filter : FileFilter) (filename : String) : Bool :=
  filter.isSource filename || filter.isManifest filename

/-- The source files among some files. -/
def sources (filter : FileFilter) (files : List ChangedFile) : List ChangedFile :=
  files.filter (filter.isSource ·.filename)

/-- The manifests among some files. -/
def manifests (filter : FileFilter) (files : List ChangedFile) : List ChangedFile :=
  files.filter (filter.isManifest ·.filename)

/-- The files that are searched at all. -/
def relevant (filter : FileFilter) (files : List ChangedFile) : List ChangedFile :=
  files.filter (filter.isRelevant ·.filename)

end FileFilter

end PullReport
