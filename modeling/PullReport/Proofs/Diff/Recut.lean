import PullReport.Proofs.Analysis.Edits
import PullReport.Proofs.Diff.Layout

/-!
# Hunks that are joined and cut again

The hunks of a section are lines of the diff. They are joined to make the patch of a file, and the
patch is cut into lines before anything is read off it. The lines that come out are not quite those
that went in. A line feed now stands behind every line but the last, and if a carriage return is in
front of it, which is so if the diff had two of them there, then it goes with the line feed. The
last line has no line feed behind it, so it keeps its carriage returns, but it is no line if it is
empty.

Both happen at the ends of lines. What makes a line an edit is its first character, so the edits
that come out are those that went in, one for one and in their order, up to that carriage return.

## Main definitions

* `Diff.MayLoseReturn`: a line as it was or without one carriage return at its end.
* `Diff.Recut`: what lines that are joined and cut again come to.

## Main results

* `Diff.recut_lines_unlines`: any lines without line feeds.
* `Diff.split_recuts_hunks`: the lines of the files that a diff is split into.
-/

namespace PullReport

namespace Diff

open Text Patch

/-! ### Lines that are joined and cut again -/

/-- What becomes of a line that keeps everything but perhaps one carriage return at its end. -/
def MayLoseReturn (line cut : List Char) : Prop := cut = line ∨ cut ++ ['\r'] = line

theorem mayLoseReturn_dropReturn (line : List Char) : MayLoseReturn line (dropReturn line) := by
  induction line using List.reverseRecOn with
  | nil => exact Or.inl rfl
  | append_singleton line c =>
    by_cases hc : c = '\r'
    · rw [hc, dropReturn_concat_return]
      exact Or.inr rfl
    · rw [dropReturn, if_neg (by simpa using hc)]
      exact Or.inl rfl

/-- What lines come to when they are joined and cut again. -/
structure Recut (joined cut : List (List Char)) : Prop where
  /-- Every line but the last loses one carriage return at its end, if it has any. The last line
  stays as it is, or is left out if it is empty. -/
  cut_eq : cut = joined.dropLast.map dropReturn ++ joined.getLast?.toList.filter (· ≠ [])
  /-- Every edit is still there, and there are no others. -/
  edits : List.Forall₂ MayLoseReturn (joined.filter isEdit) (cut.filter isEdit)

/-- The edits among tidied pieces are those among the pieces. The last piece is one of them only if
it is not empty, and then it is not left out. -/
theorem forall₂_isEdit_tidy (pieces : List (List Char)) :
    List.Forall₂ MayLoseReturn (pieces.filter isEdit) ((tidy pieces).filter isEdit) := by
  match pieces with
  | [] => exact List.Forall₂.nil
  | [last] =>
    rw [tidy]
    split
    · rename_i hlast
      rw [hlast]
      exact List.Forall₂.nil
    · exact List.forall₂_same.2 fun _ _ => Or.inl rfl
  | piece :: next :: rest =>
    have ih := forall₂_isEdit_tidy (next :: rest)
    rw [tidy_cons (List.cons_ne_nil _ _), List.filter_cons (x := piece),
      List.filter_cons (x := dropReturn piece), isEdit_dropReturn]
    split
    · exact List.Forall₂.cons (mayLoseReturn_dropReturn piece) ih
    · exact ih

/-- **Lines that are joined and cut again** are the same lines up to their ends. -/
theorem recut_lines_unlines {ls : List (List Char)} (h : ∀ line ∈ ls, '\n' ∉ line) :
    Recut ls (lines (unlines ls)) := by
  rw [lines_unlines h]
  exact ⟨tidy_eq ls, forall₂_isEdit_tidy ls⟩

/-! ### Files of a diff -/

theorem Section.recut_of_file {s : Section} {file : ChangedFile} (h : s.file = .ok file)
    (hfeed : ∀ line ∈ s.hunks, '\n' ∉ line) : Recut s.hunks file.lines := by
  rw [ChangedFile.lines, (makes_of_file h).patch]
  exact recut_lines_unlines hfeed

theorem Layout.mem_lines_of_mem_hunks {layout : Layout} {s : Section} {line : List Char}
    (hs : s ∈ layout.sections) (hline : line ∈ s.hunks) : line ∈ layout.lines := by
  have hsection : line ∈ s.lines :=
    List.mem_cons_of_mem _ (List.mem_append_right s.preface hline)
  exact List.mem_append_right _ (List.mem_flatMap.2 ⟨s, hs, hsection⟩)

/-- **The lines of the files of a diff.** A diff that can be split is laid out in one way, and has
one file for each section, in order. The lines of that file are those of the section's hunks, joined
and cut again. -/
theorem split_recuts_hunks {raw : String} {files : List ChangedFile} (h : split raw = .ok files) :
    (∃! layout : Layout, layout.lines = lines raw.toList) ∧
      ∀ layout : Layout, layout.lines = lines raw.toList →
        List.Forall₂ (fun s file => Recut s.hunks file.lines) layout.sections files := by
  constructor
  · obtain ⟨layout, hlayout⟩ := exists_layout (lines raw.toList)
    exact ⟨layout, hlayout, fun other hother => Layout.ext_of_lines (hother.trans hlayout.symm)⟩
  · intro layout hlayout
    have hfeed : ∀ s ∈ layout.sections, ∀ line ∈ s.hunks, '\n' ∉ line := by
      intro s hs line hline
      have hmem : line ∈ lines raw.toList := hlayout ▸ Layout.mem_lines_of_mem_hunks hs hline
      exact feed_not_mem_of_mem_lines line hmem
    have hfiles : List.Forall₂ (fun s file => s.file = .ok file) layout.sections files :=
      (split_eq_ok_iff hlayout).1 h
    exact ((List.forall₂_and_left _ _).2 ⟨hfeed, hfiles⟩).imp fun _ _ hmade =>
      Section.recut_of_file hmade.2 hmade.1

/-- Two carriage returns at the line ends of one section, and an empty line at the end of another.
The one that is left behind the last line of the first section stays there, and the empty line is
left out. -/
theorem split_recuts_double_returns :
    let raw := "diff --git a/x b/x\n@@ -1 +1 @@\r\r\n-a\r\r\n+b\r\r\n" ++
      "diff --git a/y b/y\nindex 1\n@@ -0,0 +1 @@\n+c\n\n"
    let first : Section :=
      { paths := "a/x b/x".toList
        preface := []
        hunks := ["@@ -1 +1 @@\r".toList, "-a\r".toList, "+b\r".toList]
        preface_not_header := by decide
        preface_not_hunk := by decide
        hunks_not_header := by decide
        hunks_start := by decide }
    let second : Section :=
      { paths := "a/y b/y".toList
        preface := ["index 1".toList]
        hunks := ["@@ -0,0 +1 @@".toList, "+c".toList, []]
        preface_not_header := by decide
        preface_not_hunk := by decide
        hunks_not_header := by decide
        hunks_start := by decide }
    let layout : Layout := ⟨[], [first, second], by decide⟩
    ∃ x y, split raw = .ok [x, y] ∧ layout.lines = lines raw.toList ∧
      Recut first.hunks x.lines ∧ Recut second.hunks y.lines ∧
        x.lines = ["@@ -1 +1 @@".toList, "-a".toList, "+b\r".toList] ∧
          y.lines = ["@@ -0,0 +1 @@".toList, "+c".toList] := by
  intro raw first second layout
  have hsplit : split raw = .ok [⟨"x", "@@ -1 +1 @@\r\n-a\r\n+b\r"⟩,
      ⟨"y", "@@ -0,0 +1 @@\n+c\n"⟩] := by decide +kernel
  have hlayout : layout.lines = lines raw.toList := by decide +kernel
  have hrecut := (split_recuts_hunks hsplit).2 layout hlayout
  obtain ⟨hx, hrest⟩ := List.forall₂_cons.1 hrecut
  obtain ⟨hy, -⟩ := List.forall₂_cons.1 hrest
  exact ⟨_, _, hsplit, hlayout, hx, hy, hx.cut_eq.trans (by decide), hy.cut_eq.trans (by decide)⟩

end Diff

end PullReport
