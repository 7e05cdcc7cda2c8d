import PullReport.Proofs.Analysis.Edits
import PullReport.Report.Basic

/-!
# Mirrored changes

A pull request that takes another one back removes the lines which that one adds and adds those
which it removes. Turning the edit sign of every line around gives its patches. What is counted and
reconciled in them is the mirror image of what it was before: added and deleted tests change places,
and so do the old and the new version of every reference, while the references and their order stay.
So what was listed as new is listed as removed, and what was updated is still listed as updated.

This needs every reading of a line to treat the two signs alike. Deleted methods are left out on
purpose, since a method that is added is reported nowhere.

## Main definitions

* `Patch.mirrored`, `ChangedFile.mirrored`: a line and a file with the edit signs turned around.
* `Side.mirrored`, `ReferenceMention.mirrored`, `ReferenceChange.mirrored`, `ChangeClass.mirrored`,
  `TestTally.mirrored`: the mirror images of what is read.

## Main results

* `ChangedFile.lines_mirrored`: the lines of a mirrored file are the mirrored lines.
* `TestTally.counts_mirrored`, `ReferenceMention.ofLine?_mirrored`: the readings of one line.
* `ReferenceChange.summary_mirrored`: what a sequence of mentions amounts to.
* `Analysis.ofFiles_mirrored`: the analysis and the sections of its report.
-/

namespace PullReport

open Text

/-! ### Mirror images -/

/-- A line with its edit sign turned around. A line without one stays as it is. -/
def Patch.mirrored : List Char → List Char
  | '+' :: cs => '-' :: cs
  | '-' :: cs => '+' :: cs
  | line => line

/-- A file with the edit sign of every line of its patch turned around. What ends the lines stays as
it is. -/
def ChangedFile.mirrored (file : ChangedFile) : ChangedFile :=
  ⟨file.filename, String.ofList (unlines ((file.patch.toList.splitOn '\n').map Patch.mirrored))⟩

/-- The other side of a change. -/
def Side.mirrored : Side → Side
  | .old => .new
  | .new => .old

/-- A tally with its counts exchanged. -/
def TestTally.mirrored (tally : TestTally) : TestTally := ⟨tally.deleted, tally.added⟩

/-- The mention of the same reference on the other side. -/
def ReferenceMention.mirrored (mention : ReferenceMention) : ReferenceMention :=
  { mention with side := mention.side.mirrored }

/-- The change of the same reference with its versions exchanged. -/
def ReferenceChange.mirrored (change : ReferenceChange) : ReferenceChange :=
  { change with old := change.new, new := change.old }

/-- The class as which a change reads when its versions are exchanged. -/
def ChangeClass.mirrored : ChangeClass → ChangeClass
  | .added => .removed
  | .updated => .updated
  | .removed => .added

/-! ### Lines -/

namespace Patch

/-- A line is mirrored in its first character or not at all. -/
theorem mirrored_cases (line : List Char) :
    (∃ cs, line = '+' :: cs ∧ mirrored line = '-' :: cs) ∨
      (∃ cs, line = '-' :: cs ∧ mirrored line = '+' :: cs) ∨
        (isEdit line = false ∧ mirrored line = line) := by
  rw [mirrored.eq_def]
  split
  · exact Or.inl ⟨_, rfl, rfl⟩
  · exact Or.inr (Or.inl ⟨_, rfl, rfl⟩)
  · rename_i hplus hminus
    refine Or.inr (Or.inr ⟨?_, rfl⟩)
    cases line with
    | nil => rfl
    | cons c cs =>
      have hc : c ≠ '+' := fun hc => hplus cs (by rw [hc])
      have hc' : c ≠ '-' := fun hc => hminus cs (by rw [hc])
      simp [isEdit, hc, hc']

theorem mirrored_eq_nil_iff {line : List Char} : mirrored line = [] ↔ line = [] := by
  rcases mirrored_cases line with ⟨cs, rfl, h⟩ | ⟨cs, rfl, h⟩ | ⟨-, h⟩ <;> rw [h]
  · simp
  · simp

theorem feed_not_mem_mirrored {line : List Char} (h : '\n' ∉ line) : '\n' ∉ mirrored line := by
  rcases mirrored_cases line with ⟨cs, rfl, heq⟩ | ⟨cs, rfl, heq⟩ | ⟨-, heq⟩ <;> rw [heq]
  · simpa using h
  · simpa using h
  · exact h

theorem dropReturn_mirrored (line : List Char) :
    dropReturn (mirrored line) = mirrored (dropReturn line) := by
  rcases mirrored_cases line with ⟨cs, rfl, h⟩ | ⟨cs, rfl, h⟩ | ⟨hedit, h⟩
  · rw [h, dropReturn_cons (Or.inl (by decide)), dropReturn_cons (Or.inl (by decide))]
    rfl
  · rw [h, dropReturn_cons (Or.inl (by decide)), dropReturn_cons (Or.inl (by decide))]
    rfl
  · -- without the carriage return the line still has no sign
    rw [h]
    have hdrop : isEdit (dropReturn line) = false := by
      rw [← isEdit_trimReturns, trimReturns_dropReturn, isEdit_trimReturns, hedit]
    rcases mirrored_cases (dropReturn line) with ⟨cs, hcs, -⟩ | ⟨cs, hcs, -⟩ | ⟨-, heq⟩
    · rw [hcs] at hdrop
      exact absurd hdrop (by simp [isEdit])
    · rw [hcs] at hdrop
      exact absurd hdrop (by simp [isEdit])
    · exact heq.symm

theorem tidy_map_mirrored (pieces : List (List Char)) :
    tidy (pieces.map mirrored) = (tidy pieces).map mirrored := by
  match pieces with
  | [] => rfl
  | [last] =>
    rw [List.map_singleton, tidy, tidy]
    by_cases h : last = []
    · rw [if_pos h, if_pos (mirrored_eq_nil_iff.2 h), List.map_nil]
    · rw [if_neg h, if_neg (mt mirrored_eq_nil_iff.1 h), List.map_singleton]
  | piece :: next :: rest =>
    have ih := tidy_map_mirrored (next :: rest)
    rw [List.map_cons, tidy_cons (by simp), tidy_cons (by simp), ih, dropReturn_mirrored,
      List.map_cons]

/-! ### What one line says -/

/-- What takes the two signs for the same does not see a line mirrored. -/
theorem apply_mirrored {α : Type} {f : List Char → α} (h : ∀ cs, f ('+' :: cs) = f ('-' :: cs))
    (line : List Char) : f (mirrored line) = f line := by
  rcases mirrored_cases line with ⟨cs, rfl, heq⟩ | ⟨cs, rfl, heq⟩ | ⟨-, heq⟩ <;> rw [heq]
  · exact (h cs).symm
  · exact h cs

/-- Both signs belong to the margin. -/
theorem isCommentedOut_mirrored (line : List Char) :
    isCommentedOut (mirrored line) = isCommentedOut line :=
  apply_mirrored (fun _ => rfl) line

/-- Every marker starts with a bracket, so none reaches back to another character. -/
theorem hasTestMarker_cons {c : Char} (hc : c ≠ '[') (cs : List Char) :
    hasTestMarker (c :: cs) = hasTestMarker cs := by
  have hmarkers : ∀ marker ∈ testMarkers, marker.head? = some '[' := by decide
  have hoccurs : ∀ marker ∈ testMarkers, occursIn marker (c :: cs) = occursIn marker cs := by
    intro marker hmarker
    obtain ⟨rest, rfl⟩ := List.head?_eq_some_iff.1 (hmarkers marker hmarker)
    simp [occursIn, List.isPrefixOf, Ne.symm hc]
  rw [hasTestMarker, hasTestMarker, Bool.eq_iff_iff, List.any_eq_true, List.any_eq_true]
  exact exists_congr fun marker => and_congr_right fun hmarker => by rw [hoccurs marker hmarker]

theorem hasTestMarker_mirrored (line : List Char) :
    hasTestMarker (mirrored line) = hasTestMarker line := by
  refine apply_mirrored (fun cs => ?_) line
  rw [hasTestMarker_cons (by decide), hasTestMarker_cons (by decide)]

end Patch

/-- A line that counts on one side counts on the other when it is mirrored. -/
theorem TestTally.counts_mirrored (line : List Char) :
    counts .added (Patch.mirrored line) = counts .removed line ∧
      counts .removed (Patch.mirrored line) = counts .added line := by
  rw [counts, counts, counts, counts, Patch.isCommentedOut_mirrored, Patch.hasTestMarker_mirrored]
  rcases Patch.mirrored_cases line with ⟨cs, rfl, h⟩ | ⟨cs, rfl, h⟩ | ⟨hedit, h⟩ <;> rw [h]
  · exact ⟨rfl, rfl⟩
  · exact ⟨rfl, rfl⟩
  · rw [Patch.sign_eq_neutral hedit]
    exact ⟨rfl, rfl⟩

namespace ReferenceMention

@[simp] theorem key_mirrored (mention : ReferenceMention) : mention.mirrored.key = mention.key :=
  rfl

/-- The tag is looked for behind the sign, so only the side of the mention changes. -/
theorem ofLine?_mirrored (line : List Char) :
    ofLine? (Patch.mirrored line) = (ofLine? line).map mirrored := by
  rcases Patch.mirrored_cases line with ⟨cs, rfl, h⟩ | ⟨cs, rfl, h⟩ | ⟨hedit, h⟩ <;> rw [h]
  · rw [ofLine?, ofLine?, Option.map_map]
    rfl
  · rw [ofLine?, ofLine?, Option.map_map]
    rfl
  · rw [ofLine?_eq_none hedit]
    rfl

end ReferenceMention

/-! ### Files -/

/-- **The lines of a mirrored file** are the mirrored lines of the file. -/
theorem ChangedFile.lines_mirrored (file : ChangedFile) :
    file.mirrored.lines = file.lines.map Patch.mirrored := by
  have hfeed : ∀ line ∈ (file.patch.toList.splitOn '\n').map Patch.mirrored, '\n' ∉ line := by
    intro line hline
    obtain ⟨piece, hpiece, rfl⟩ := List.mem_map.1 hline
    exact Patch.feed_not_mem_mirrored (not_mem_of_mem_splitOn hpiece)
  rw [lines, mirrored, String.toList_ofList, lines_unlines hfeed, Patch.tidy_map_mirrored,
    ← lines_eq_tidy, lines]

/-- Files are chosen by their names, which stay. -/
theorem ChangedFile.filter_map_mirrored (chosen : String → Bool) (files : List ChangedFile) :
    (files.map mirrored).filter (chosen ·.filename) =
      (files.filter (chosen ·.filename)).map mirrored := by
  rw [List.filter_map]
  rfl

theorem TestTally.ofFiles_map_mirrored (files : List ChangedFile) :
    ofFiles (files.map ChangedFile.mirrored) = (ofFiles files).mirrored := by
  have hlines : (files.map ChangedFile.mirrored).flatMap ChangedFile.lines =
      (files.flatMap ChangedFile.lines).map Patch.mirrored := by
    rw [List.flatMap_map, List.map_flatMap]
    exact List.flatMap_congr fun file _ => file.lines_mirrored
  have hadded : counts .added ∘ Patch.mirrored = counts .removed :=
    funext fun line => (counts_mirrored line).1
  have hremoved : counts .removed ∘ Patch.mirrored = counts .added :=
    funext fun line => (counts_mirrored line).2
  rw [ofFiles, hlines, ofLines, List.countP_map, List.countP_map, hadded, hremoved]
  rfl

theorem ReferenceMention.inFiles_mirrored (files : List ChangedFile) :
    inFiles (files.map ChangedFile.mirrored) = (inFiles files).map mirrored := by
  rw [inFiles_eq_flatMap, inFiles_eq_flatMap, List.flatMap_map, List.map_flatMap]
  refine List.flatMap_congr fun file _ => ?_
  rw [file.lines_mirrored, List.filterMap_map, List.map_filterMap]
  exact List.filterMap_congr fun line _ => ofLine?_mirrored line

/-! ### Reconciled changes -/

/-- The last mention on one side is the last mirrored one on the other. -/
theorem ReferenceMention.lastVersion_mirrored (mentions : List ReferenceMention) (side : Side)
    (key : ReferenceKey) :
    lastVersion (mentions.map mirrored) side key = lastVersion mentions side.mirrored key := by
  have hside : ∀ mention : ReferenceMention,
      mention.mirrored.side = side ↔ mention.side = side.mirrored := by
    intro mention
    rw [mirrored]
    cases mention.side <;> cases side <;> simp [Side.mirrored]
  rw [lastVersion, List.filter_map, List.map_map, lastVersion]
  refine congrArg (fun seen => (List.map version seen).getLast?) (List.filter_congr ?_)
  intro mention _
  rw [Function.comp_apply, decide_eq_decide, hside, key_mirrored]

namespace ReferenceChange

/-- **Equivariance.** The mirrored mentions amount to the mirrored changes, in the same order. -/
theorem summary_mirrored (mentions : List ReferenceMention) :
    summary (mentions.map ReferenceMention.mirrored) = (summary mentions).map mirrored := by
  have hkeys : (mentions.map ReferenceMention.mirrored).map ReferenceMention.key =
      mentions.map ReferenceMention.key := by
    rw [List.map_map]
    exact List.map_congr_left fun mention _ => mention.key_mirrored
  rw [summary, summary, hkeys, List.map_map]
  refine List.map_congr_left fun key _ => ?_
  rw [entry, ReferenceMention.lastVersion_mirrored, ReferenceMention.lastVersion_mirrored]
  rfl

theorem ofFiles_map_mirrored (files : List ChangedFile) :
    ofFiles (files.map ChangedFile.mirrored) = (ofFiles files).map mirrored := by
  rw [ofFiles_eq_summary, ReferenceMention.inFiles_mirrored, summary_mirrored, ofFiles_eq_summary]

/-! ### Sections of the report -/

theorem readsAs_mirrored (change : ReferenceChange) (cls : ChangeClass) :
    change.mirrored.readsAs cls = change.readsAs cls.mirrored := by
  cases cls with
  | added => exact Bool.and_comm _ _
  | updated => exact Bool.and_comm _ _
  | removed => exact Bool.and_comm _ _

/-- The members of a section are those of the mirrored section, mirrored. -/
theorem ofClass_mirrored (cls : ChangeClass) (changes : List ReferenceChange) :
    ofClass cls (changes.map mirrored) = (ofClass cls.mirrored changes).map mirrored := by
  rw [ofClass, List.filter_map, ofClass]
  exact congrArg (List.map mirrored)
    (List.filter_congr fun change _ => change.readsAs_mirrored cls)

/-- An entry shows the one version that matters for its class, which is on the other side of a
mirrored change. -/
theorem line_mirrored {cls : ChangeClass} (h : cls ≠ .updated) (change : ReferenceChange) :
    line cls change.mirrored = line cls.mirrored change := by
  cases cls with
  | added => rfl
  | updated => exact absurd rfl h
  | removed => rfl

/-- The entries of the sections for new and for removed references are the same with the sections
exchanged. -/
theorem map_line_ofClass_mirrored {cls : ChangeClass} (h : cls ≠ .updated)
    (changes : List ReferenceChange) :
    (ofClass cls (changes.map mirrored)).map (line cls) =
      (ofClass cls.mirrored changes).map (line cls.mirrored) := by
  rw [ofClass_mirrored, List.map_map]
  exact List.map_congr_left fun change _ => line_mirrored h change

end ReferenceChange

/-! ### The analysis -/

/-- **The mirrored analysis.** When the edit signs in all patches are turned around, the test counts
are exchanged and the references are the same in the same order, each with its versions exchanged.
So the sections for new and for removed references exchange their members, down to the entries in
the report, and the section for updated references keeps its members. -/
theorem Analysis.ofFiles_mirrored (filter : FileFilter) (files : List ChangedFile) :
    let before := ofFiles filter files
    let after := ofFiles filter (files.map ChangedFile.mirrored)
    (∀ file : ChangedFile, file.mirrored.filename = file.filename ∧
      file.mirrored.lines = file.lines.map Patch.mirrored) ∧
    after.tests = before.tests.mirrored ∧
    after.references = before.references.map ReferenceChange.mirrored ∧
    (∀ cls : ChangeClass, ReferenceChange.ofClass cls after.references =
      (ReferenceChange.ofClass cls.mirrored before.references).map ReferenceChange.mirrored) ∧
    (ReferenceChange.ofClass .added after.references).map (ReferenceChange.line .added) =
      (ReferenceChange.ofClass .removed before.references).map (ReferenceChange.line .removed) ∧
    (ReferenceChange.ofClass .removed after.references).map (ReferenceChange.line .removed) =
      (ReferenceChange.ofClass .added before.references).map (ReferenceChange.line .added) := by
  intro before after
  have hreferences : after.references = before.references.map ReferenceChange.mirrored := by
    show ReferenceChange.ofFiles (filter.manifests (files.map ChangedFile.mirrored)) = _
    rw [FileFilter.manifests, ChangedFile.filter_map_mirrored, ReferenceChange.ofFiles_map_mirrored]
    rfl
  have htests : after.tests = before.tests.mirrored := by
    show TestTally.ofFiles (filter.sources (files.map ChangedFile.mirrored)) = _
    rw [FileFilter.sources, ChangedFile.filter_map_mirrored, TestTally.ofFiles_map_mirrored]
    rfl
  refine ⟨fun file => ⟨rfl, file.lines_mirrored⟩, htests, hreferences, ?_⟩
  rw [hreferences]
  exact ⟨fun cls => ReferenceChange.ofClass_mirrored cls before.references,
    ReferenceChange.map_line_ofClass_mirrored (by decide) before.references,
    ReferenceChange.map_line_ofClass_mirrored (by decide) before.references⟩

end PullReport
