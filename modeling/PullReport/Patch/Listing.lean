import PullReport.Json.Record
import PullReport.Patch.ChangedFile

/-!
# Listings of changed files

The list of changed files as the code host sends it: a JSON array of records. Of each record only
the file name and the patch are used.

## Main definitions

* `ChangedFile.ofJson?`: a file from its record.
* `ChangedFile.listing?`: the files of a listing.
-/

namespace PullReport

namespace ChangedFile

/-- A patch as listed: a binary or oversized file has `null` in its place. -/
def patchOfJson? : Json → Option String
  | .null => some ""
  | value => value.text?

/-- A file from its record. The name must be there; a patch left out is empty. -/
def ofJson? (value : Json) : Option ChangedFile := do
  let field ← value.record? ["filename", "patch"]
  return ⟨← (field "filename").required? Json.text?,
    ← (field "patch").default? "" patchOfJson?⟩

/-- The files of a listing, in the order listed. One unreadable record spoils the listing. -/
def listing? (text : String) : Option (List ChangedFile) := do (← Json.read? text).list? ofJson?

end ChangedFile

end PullReport
