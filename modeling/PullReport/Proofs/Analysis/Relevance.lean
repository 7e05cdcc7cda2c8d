import Mathlib.Data.List.Forall2
import PullReport.Proofs.References.Reconciliation
import PullReport.Report.Basic

/-!
# Which files matter to which finding

A file is searched for tests and methods if its name is that of a source file, and for references if
its name is that of a manifest. So files of other names do not matter at all, and what a file of one
sort holds does not matter to the findings about the other. The two sorts may overlap, and then the
files in both matter to everything.

A report filters its files twice, once to count the relevant ones and once for each finding. The
second filter is the finer one, so the first takes nothing away from what is found.

## Main definitions

* `ChangedFile.AgreeOn`: files of the same names, which are the same where the name is chosen.

## Main results

* `Analysis.ofFiles_relevant`: the analysis of the relevant files is that of all files.
* `Report.ofFiles_eq`: what a report on some files says.
* `Analysis.ofFiles_of_relevant_eq`: irrelevant files do not matter.
* `Analysis.references_of_agreeOn`, `Analysis.findings_of_agreeOn`: nor do files of the other sort.
* `Analysis.ofFiles_of_both_sorts`: a file of both sorts matters to every finding.
-/

namespace PullReport

/-! ### Filtering twice -/

/-- Files that are chosen among files of a wider choice are chosen among all. -/
theorem ChangedFile.filter_filter {chosen wider : String → Bool}
    (h : ∀ name, chosen name = true → wider name = true) (files : List ChangedFile) :
    (files.filter (wider ·.filename)).filter (chosen ·.filename) =
      files.filter (chosen ·.filename) := by
  rw [List.filter_filter]
  refine List.filter_congr fun file _ => ?_
  cases hchosen : chosen file.filename with
  | false => rfl
  | true => rw [h _ hchosen, Bool.and_true]

/-- A file that is chosen keeps its place among the files that are. -/
theorem ChangedFile.filter_append_cons {chosen : String → Bool} {file : ChangedFile}
    (h : chosen file.filename = true) (before after : List ChangedFile) :
    (before ++ file :: after).filter (chosen ·.filename) =
      before.filter (chosen ·.filename) ++ file :: after.filter (chosen ·.filename) := by
  rw [List.filter_append, List.filter_cons, if_pos h]

namespace FileFilter

variable (filter : FileFilter) (files : List ChangedFile)

theorem sources_relevant : filter.sources (filter.relevant files) = filter.sources files := by
  refine ChangedFile.filter_filter (fun name h => ?_) files
  rw [isRelevant, h, Bool.true_or]

theorem manifests_relevant : filter.manifests (filter.relevant files) = filter.manifests files := by
  refine ChangedFile.filter_filter (fun name h => ?_) files
  rw [isRelevant, h, Bool.or_true]

end FileFilter

namespace Analysis

/-- **Filtering first** makes no difference to what is found. -/
theorem ofFiles_relevant (filter : FileFilter) (files : List ChangedFile) :
    ofFiles filter (filter.relevant files) = ofFiles filter files := by
  rw [ofFiles, filter.sources_relevant, filter.manifests_relevant, ofFiles]

/-- **Irrelevant files.** Files of which the same ones are relevant, in the same order, have the
same analysis, whatever other files stand before, between and behind them. -/
theorem ofFiles_of_relevant_eq {filter : FileFilter} {files others : List ChangedFile}
    (h : filter.relevant files = filter.relevant others) :
    ofFiles filter files = ofFiles filter others := by
  rw [← ofFiles_relevant, h, ofFiles_relevant]

end Analysis

/-- What a report on some files says: it counts the relevant ones, and what it finds is what all of
them give. -/
theorem Report.ofFiles_eq (filter : FileFilter) (source : String) (files : List ChangedFile) :
    ofFiles filter source files =
      ⟨source, files.countP (filter.isRelevant ·.filename), Analysis.ofFiles filter files⟩ := by
  rw [ofFiles, Analysis.ofFiles_relevant, FileFilter.relevant, List.countP_eq_length_filter]

/-! ### Files of one sort -/

/-- Files of the same names, in the same order, that are the same wherever the name is chosen. -/
def ChangedFile.AgreeOn (chosen : String → Bool) (files others : List ChangedFile) : Prop :=
  List.Forall₂ (fun file other => file.filename = other.filename ∧
    (chosen file.filename = true → file.patch = other.patch)) files others

theorem ChangedFile.AgreeOn.filter_eq {chosen : String → Bool} {files others : List ChangedFile}
    (h : AgreeOn chosen files others) :
    files.filter (chosen ·.filename) = others.filter (chosen ·.filename) := by
  induction h with
  | nil => rfl
  | @cons file other _ _ hagree _ ih =>
    obtain ⟨name, patch⟩ := file
    obtain ⟨name', patch'⟩ := other
    obtain ⟨rfl, hpatch⟩ : name = name' ∧ (chosen name = true → patch = patch') := hagree
    rw [List.filter_cons, List.filter_cons, ih]
    by_cases hname : chosen name = true
    · rw [hpatch hname]
    · rw [if_neg hname, if_neg hname]

namespace Analysis

variable {filter : FileFilter} {files others : List ChangedFile}

/-- **References come from manifests.** What else is in files of the same names does not matter. -/
theorem references_of_agreeOn (h : ChangedFile.AgreeOn filter.isManifest files others) :
    (ofFiles filter files).references = (ofFiles filter others).references := by
  rw [ofFiles, ofFiles, FileFilter.manifests, h.filter_eq, FileFilter.manifests]

/-- **Tests and methods come from source files.** -/
theorem findings_of_agreeOn (h : ChangedFile.AgreeOn filter.isSource files others) :
    (ofFiles filter files).tests = (ofFiles filter others).tests ∧
      (ofFiles filter files).deletedMethods = (ofFiles filter others).deletedMethods := by
  rw [ofFiles, ofFiles, FileFilter.sources, h.filter_eq, FileFilter.sources]
  exact ⟨rfl, rfl⟩

/-! ### Files of both sorts -/

/-- Every finding about some files, one of which is of both sorts, takes in what is in that file, at
its place among the files of the sort. -/
theorem ofFiles_of_both_sorts (filter : FileFilter) {file : ChangedFile}
    (hsource : filter.isSource file.filename = true)
    (hmanifest : filter.isManifest file.filename = true) (before after : List ChangedFile) :
    ofFiles filter (before ++ file :: after) =
      { tests := TestTally.ofLines ((filter.sources before).flatMap ChangedFile.lines ++
          file.lines ++ (filter.sources after).flatMap ChangedFile.lines)
        deletedMethods := DeletedMethod.ofFiles (filter.sources before) ++
          DeletedMethod.ofFile file ++ DeletedMethod.ofFiles (filter.sources after)
        references := ReferenceChange.summary (ReferenceMention.inFiles (filter.manifests before) ++
          file.lines.filterMap ReferenceMention.ofLine? ++
            ReferenceMention.inFiles (filter.manifests after)) } := by
  have hsources : filter.sources (before ++ file :: after) =
      filter.sources before ++ file :: filter.sources after :=
    ChangedFile.filter_append_cons hsource before after
  have hmanifests : filter.manifests (before ++ file :: after) =
      filter.manifests before ++ file :: filter.manifests after :=
    ChangedFile.filter_append_cons hmanifest before after
  rw [ofFiles, hsources, hmanifests, TestTally.ofFiles, DeletedMethod.ofFiles,
    ReferenceChange.ofFiles_eq_summary, ReferenceMention.inFiles_eq_flatMap,
    ReferenceMention.inFiles_eq_flatMap, ReferenceMention.inFiles_eq_flatMap, List.flatMap_append,
    List.flatMap_append, List.flatMap_append, List.flatMap_cons, List.flatMap_cons,
    List.flatMap_cons, ← List.append_assoc, ← List.append_assoc, ← List.append_assoc]
  rfl

end Analysis

end PullReport
