import PullReport.Patch.ChangedFile
import PullReport.Patch.ReferenceTag

/-!
# Changes of references

A reference shows in a manifest's patch as lines that add its tag and lines that remove it. All
lines about one reference, told apart by kind and name, make one change with an old and a new
version. Whether the reference is new, gone or updated is read off the two versions once every line
has been seen.

## Main definitions

* `ReferenceKey`: what references are told apart by.
* `ReferenceMention`: one line about a reference.
* `ReferenceChange`: what is known about one reference.
* `ReferenceChange.update`: what one more mention of it adds.
* `ChangeClass`, `ReferenceChange.readsAs`: how a change reads in a report.
* `ReferenceChange.changeClass?`: the one class as which it reads, if there is one.
-/

namespace PullReport

/-- The two sides of a change: what a manifest said before and what it says after. -/
inductive Side where
  | old
  | new
  deriving DecidableEq, Repr

/-- What references are told apart by. -/
structure ReferenceKey where
  kind : ReferenceKind
  name : String
  deriving DecidableEq, Repr

/-- A line that adds or removes the tag of a reference. -/
structure ReferenceMention where
  side : Side
  kind : ReferenceKind
  name : String
  version : String
  deriving DecidableEq, Repr

namespace ReferenceMention

/-- The mention made by a tag. A kind without versions is recorded under the sentinel. -/
def ofTag (side : Side) (tag : ReferenceTag) : ReferenceMention :=
  ⟨side, tag.kind, tag.name,
    if tag.version = "" ∧ tag.kind.isUnversioned then noVersion else tag.version⟩

/-- The mention made by a patch line, whose tag is looked for behind the edit sign. -/
def ofLine? : List Char → Option ReferenceMention
  | '+' :: content => (ReferenceTag.find? (Text.trim content)).map (ofTag .new)
  | '-' :: content => (ReferenceTag.find? (Text.trim content)).map (ofTag .old)
  | _ => none

/-- The reference that is mentioned. -/
def key (mention : ReferenceMention) : ReferenceKey := ⟨mention.kind, mention.name⟩

end ReferenceMention

/-- What a pull request does to one reference. A version is absent if no line on its side mentions
the reference; it may be empty. -/
structure ReferenceChange where
  name : String
  kind : ReferenceKind
  old : Option String
  new : Option String
  deriving DecidableEq, Repr

namespace ReferenceChange

/-- The reference that changes. -/
def key (change : ReferenceChange) : ReferenceKey := ⟨change.kind, change.name⟩

/-- The change after one more mention of its reference: the last mention on a side decides that
side's version. -/
def update (change : ReferenceChange) (mention : ReferenceMention) : ReferenceChange :=
  match mention.side with
  | .old => { change with old := some mention.version }
  | .new => { change with new := some mention.version }

/-- The change known from a single mention. -/
def ofMention (mention : ReferenceMention) : ReferenceChange :=
  update ⟨mention.name, mention.kind, none, none⟩ mention

@[simp] theorem key_update (change : ReferenceChange) (mention : ReferenceMention) :
    (change.update mention).key = change.key := by
  cases h : mention.side <;> simp [update, key, h]

@[simp] theorem key_ofMention (mention : ReferenceMention) :
    (ofMention mention).key = mention.key := by
  rw [ofMention, key_update]
  rfl

/-- Whether a version counts as present. An empty one does not. -/
def isSet (version : Option String) : Bool := version.any (· ≠ "")

end ReferenceChange

/-- How a change reads in a report. -/
inductive ChangeClass where
  | added
  | updated
  | removed
  deriving DecidableEq, Repr

/-- The classes in the order in which they are listed. -/
def ChangeClass.all : List ChangeClass := [added, updated, removed]

namespace ReferenceChange

/-- Whether a change reads as one of a class, which depends on the versions that are present. -/
def readsAs (change : ReferenceChange) : ChangeClass → Bool
  | .added => !isSet change.old && isSet change.new
  | .updated => isSet change.old && isSet change.new
  | .removed => isSet change.old && !isSet change.new

/-- The class of a change. A change with neither version has none. -/
def changeClass? (change : ReferenceChange) : Option ChangeClass :=
  ChangeClass.all.find? change.readsAs

/-- No change reads as one of two classes. -/
theorem changeClass?_eq_some_iff {change : ReferenceChange} {cls : ChangeClass} :
    change.changeClass? = some cls ↔ change.readsAs cls = true := by
  cases hold : isSet change.old <;> cases hnew : isSet change.new <;> cases cls <;>
    simp [changeClass?, ChangeClass.all, readsAs, hold, hnew]

end ReferenceChange

end PullReport
