import PullReport.Program.Run
import PullReport.Proofs.Analysis.Edits
import PullReport.Proofs.Diff.Layout

/-!
# Diffs with other line ends

A report on a diff is the same whether its lines end in a line feed or in a carriage return and a
line feed, in any mixture. A diff is cut into lines, the lines of a section are joined to make a
patch, and the patch is cut again; each cut drops at most one carriage return from a line. So some
of them come through to where headers, paths and edits are read, and the files that a converted diff
is split into are in general not the same files. But they show the same.

## Main results

* `Diff.map_shown_sections`: the files of a list of lines show the same whatever carriage returns
  stand at the ends of the lines.
* `Diff.map_shown_split_withReturns`: so do the files of a diff whose line ends are converted.
* `Report.ofFiles_of_map_shown`: files that show the same have the same report.
* `Program.localReport_withReturns`: conversion leaves the report, or the error, as it is.
-/

namespace PullReport

/-! ### Results that agree -/

/-- Results that agree in one respect agree in every other that depends on it. -/
theorem map_eq_map_of_map_eq {ε α β γ : Type} {f : α → β} {g : α → γ}
    (h : ∀ a b, f a = f b → g a = g b) {result other : Except ε α}
    (heq : result.map f = other.map f) : result.map g = other.map g := by
  cases result with
  | error e =>
    cases other with
    | error e' => exact congrArg Except.error (Except.error.inj heq)
    | ok b => cases heq
  | ok a =>
    cases other with
    | error e' => cases heq
    | ok b => exact congrArg Except.ok (h a b (Except.ok.inj heq))

namespace Diff

open Text

/-! ### Headers and hunks -/

/-- A header path depends on the words of the header only. -/
theorem headerPath_congr {paths others : List Char} (h : words paths = words others) :
    headerPath paths = headerPath others := by
  match hwords : words others with
  | [] => rw [headerPath_of_words_eq_nil (h.trans hwords), headerPath_of_words_eq_nil hwords]
  | [old] =>
    rw [headerPath_of_words_eq_singleton (h.trans hwords), headerPath_of_words_eq_singleton hwords]
  | old :: new :: more =>
    rw [headerPath_of_words_eq_cons_cons (h.trans hwords), headerPath_of_words_eq_cons_cons hwords]

/-- What the header line of a section says about its path, for a line that is one. -/
def readHeader? (line : List Char) : Option (Except Error (List Char)) :=
  (header? line).map headerPath

theorem header?_concat_return (line : List Char) :
    header? (line ++ ['\r']) = (header? line).map (· ++ ['\r']) :=
  isPrefixOf?_concat (by decide) line

theorem readHeader?_trimReturns (line : List Char) :
    readHeader? (trimReturns line) = readHeader? line := by
  refine apply_trimReturns (fun line => ?_) line
  have hpath : headerPath ∘ (· ++ ['\r']) = headerPath := by
    funext paths
    exact headerPath_congr (words_concat_of_isBlank (by decide) paths)
  rw [readHeader?, header?_concat_return, Option.map_map, hpath, readHeader?]

theorem isNone_header?_trimReturns (line : List Char) :
    (header? (trimReturns line)).isNone = (header? line).isNone := by
  have hread : ∀ line, (header? line).isNone = (readHeader? line).isNone :=
    fun line => Option.isNone_map.symm
  rw [hread, readHeader?_trimReturns, ← hread]

theorem isHunkStart_trimReturns (line : List Char) :
    isHunkStart (trimReturns line) = isHunkStart line :=
  apply_trimReturns (fun line => isPrefixOf_concat (by decide) line) line

theorem hunkLines_map_trimReturns (ls : List (List Char)) :
    hunkLines (ls.map trimReturns) = (hunkLines ls).map trimReturns := by
  have hheader : (fun line => (header? line).isNone) ∘ trimReturns =
      fun line => (header? line).isNone := funext isNone_header?_trimReturns
  have hhunk : (!isHunkStart ·) ∘ trimReturns = (!isHunkStart ·) := by
    funext line
    rw [Function.comp_apply, isHunkStart_trimReturns]
  rw [hunkLines, List.takeWhile_map, hheader, List.dropWhile_map, hhunk, ← hunkLines]

/-! ### Sections -/

theorem sections_cons (line : List Char) (rest : List (List Char)) :
    sections (line :: rest) =
      match readHeader? line with
      | none => sections rest
      | some path => do
        let path ← path
        let files ← sections rest
        return ⟨String.ofList path, String.ofList (unlines (hunkLines rest))⟩ :: files := by
  rw [sections, readHeader?]
  cases header? line <;> rfl

/-- A file whose patch is made of lines shows the edits among them. -/
theorem shown_of_unlines (name : String) {ls : List (List Char)} (h : ∀ line ∈ ls, '\n' ∉ line) :
    ChangedFile.shown ⟨name, String.ofList (unlines ls)⟩ = (name, Patch.edits ls) := by
  rw [ChangedFile.shown, ChangedFile.edits, ChangedFile.lines, String.toList_ofList,
    Patch.edits_lines_unlines h]

theorem mem_of_mem_hunkLines {line : List Char} {ls : List (List Char)}
    (h : line ∈ hunkLines ls) : line ∈ ls :=
  (List.takeWhile_sublist _).subset ((List.dropWhile_sublist _).subset h)

/-- What the files of the sections show, or what is wrong with a header. -/
def shownSections (ls : List (List Char)) : Except Error (List (String × List (List Char))) :=
  (sections ls).map (List.map ChangedFile.shown)

/-- **One line more.** What it adds depends on what it says as a header and on the edits in the
hunks behind it. -/
theorem shownSections_cons {line : List Char} {rest : List (List Char)}
    (h : ∀ line ∈ rest, '\n' ∉ line) :
    shownSections (line :: rest) =
      match readHeader? line with
      | none => shownSections rest
      | some path => do
        let path ← path
        let shown ← shownSections rest
        return (String.ofList path, Patch.edits (hunkLines rest)) :: shown := by
  have hhunks : ∀ line ∈ hunkLines rest, '\n' ∉ line :=
    fun line hline => h line (mem_of_mem_hunkLines hline)
  rw [shownSections, sections_cons, shownSections]
  cases readHeader? line with
  | none => rfl
  | some path =>
    cases path with
    | error e => rfl
    | ok path =>
      cases sections rest with
      | error e => rfl
      | ok files =>
        simp [bind, Except.bind, Except.map, pure, Except.pure, shown_of_unlines _ hhunks]

/-- **Any lines.** Carriage returns at their ends do not change what the files show. -/
theorem shownSections_map_trimReturns {ls : List (List Char)} (h : ∀ line ∈ ls, '\n' ∉ line) :
    shownSections (ls.map trimReturns) = shownSections ls := by
  have htrim : ∀ line ∈ ls.map trimReturns, '\n' ∉ line := by
    intro line hline
    obtain ⟨original, horiginal, rfl⟩ := List.mem_map.1 hline
    exact fun hfeed => h original horiginal ((List.rdropWhile_prefix _ _).subset hfeed)
  induction ls with
  | nil => rfl
  | cons line rest ih =>
    rw [List.map_cons, List.forall_mem_cons] at htrim
    rw [List.forall_mem_cons] at h
    have hedits :
        Patch.edits (hunkLines (rest.map trimReturns)) = Patch.edits (hunkLines rest) := by
      rw [hunkLines_map_trimReturns, Patch.edits_map trimReturns_trimReturns]
    rw [List.map_cons, shownSections_cons htrim.2, shownSections_cons h.2, readHeader?_trimReturns,
      ih h.2 htrim.2, hedits]

/-- The files of a diff show the same, and its headers lack the same, when a carriage return is put
before every line feed. -/
theorem map_shown_split_withReturns (raw : String) :
    (split (String.ofList (withReturns raw.toList))).map (List.map ChangedFile.shown) =
      (split raw).map (List.map ChangedFile.shown) := by
  have hfeed : ∀ cs : List Char, ∀ line ∈ lines cs, '\n' ∉ line :=
    fun _ => feed_not_mem_of_mem_lines
  show shownSections _ = shownSections _
  rw [String.toList_ofList]
  calc shownSections (lines (withReturns raw.toList))
      = shownSections ((lines (withReturns raw.toList)).map trimReturns) :=
        (shownSections_map_trimReturns (hfeed _)).symm
    _ = shownSections ((lines raw.toList).map trimReturns) := by
        rw [map_trimReturns_lines_withReturns]
    _ = shownSections (lines raw.toList) := shownSections_map_trimReturns (hfeed _)

end Diff

/-! ### Reports -/

/-- Files that show the same have the same report: which of them are relevant depends on their
names, and what is found in these depends on what they show. -/
theorem Report.ofFiles_of_map_shown (filter : FileFilter) (source : String)
    {files others : List ChangedFile}
    (h : files.map ChangedFile.shown = others.map ChangedFile.shown) :
    ofFiles filter source files = ofFiles filter source others := by
  have hrelevant : ∀ files : List ChangedFile, (filter.relevant files).map ChangedFile.shown =
      (files.map ChangedFile.shown).filter (filter.isRelevant ·.1) := by
    intro files
    rw [List.filter_map]
    rfl
  have hshown : (filter.relevant files).map ChangedFile.shown =
      (filter.relevant others).map ChangedFile.shown := by
    rw [hrelevant, h, hrelevant]
  have hlength : (filter.relevant files).length = (filter.relevant others).length := by
    simpa using congrArg List.length hshown
  rw [ofFiles, hlength, Analysis.ofFiles_of_map_shown filter hshown, ofFiles]

/-- **Line ends do not matter.** The report on a diff, or the error that makes the diff unreadable,
stays the same when a carriage return is put before every line feed, whatever carriage returns there
are already. -/
theorem Program.localReport_withReturns (filter : FileFilter) (source diff : String) :
    localReport filter source (String.ofList (Text.withReturns diff.toList)) =
      localReport filter source diff := by
  rw [localReport, localReport]
  have hreport : ∀ files others : List ChangedFile,
      files.map ChangedFile.shown = others.map ChangedFile.shown →
        Report.ofFiles filter source files = Report.ofFiles filter source others :=
    fun _ _ => Report.ofFiles_of_map_shown filter source
  exact map_eq_map_of_map_eq hreport (Diff.map_shown_split_withReturns diff)

end PullReport
