import PullReport.Analysis.Basic
import PullReport.Proofs.Patch.Returns
import PullReport.Proofs.References.Reconciliation

/-!
# Edits are all that counts

The lines of a patch that add or remove something are its edits. Everything that is found in changed
files is read off their edits, one by one, so hunk headers, context lines and empty lines may change
in any way, and so may carriage returns at the ends of lines. Nor does it matter where one file ends
and the next one begins, as long as the names stay: the edits of a patch that is cut at a line feed
are those of its two parts.

The second statement is about texts and not about lines. A cut can fall right behind a line feed or
before one, or between a carriage return and its line feed, and then the lines of the two parts are
not the lines of the whole. Their edits are.

## Main definitions

* `Patch.edits`, `ChangedFile.edits`: the edits among lines and in a patch.
* `Edit`, `Edit.inFiles`: edits with the names of their files.

## Main results

* `Patch.edits_lines_append_feed`: the edits of a patch that is cut in two.
* `Patch.filterMap_edits`, `Patch.countP_edits`: readings that see edits only.
* `Analysis.ofFiles_congr`: the analysis reads the edits in the files and nothing else.
* `Analysis.ofFiles_of_same_edits`: what may change in files without a change of the analysis.
-/

namespace PullReport

namespace Patch

open Text

variable {α : Type} {line : List Char}

/-! ### Edits among lines -/

/-- Whether a line adds or removes something, which its first character says. -/
def isEdit (line : List Char) : Bool := line.head? = some '+' ∨ line.head? = some '-'

/-- The edits among some lines, without carriage returns at their ends. -/
def edits (ls : List (List Char)) : List (List Char) := (ls.filter isEdit).map trimReturns

theorem sign_eq_neutral (h : isEdit line = false) : sign line = .neutral := by
  rw [sign.eq_def]
  split <;> simp_all [isEdit]

theorem isEdit_concat_return (line : List Char) : isEdit (line ++ ['\r']) = isEdit line := by
  cases line <;> rfl

theorem isEdit_trimReturns (line : List Char) : isEdit (trimReturns line) = isEdit line :=
  apply_trimReturns isEdit_concat_return line

theorem isEdit_dropReturn (line : List Char) : isEdit (dropReturn line) = isEdit line := by
  rw [← isEdit_trimReturns, trimReturns_dropReturn, isEdit_trimReturns]

theorem edits_append (front back : List (List Char)) :
    edits (front ++ back) = edits front ++ edits back := by
  simp [edits]

theorem edits_cons (line : List Char) (ls : List (List Char)) :
    edits (line :: ls) = edits [line] ++ edits ls :=
  edits_append [line] ls

/-- A change at the ends of lines that leaves them the same but for carriage returns leaves the
edits the same. -/
theorem edits_map {f : List Char → List Char} (h : ∀ line, trimReturns (f line) = trimReturns line)
    (ls : List (List Char)) : edits (ls.map f) = edits ls := by
  have hedit : isEdit ∘ f = isEdit := by
    funext line
    rw [Function.comp_apply, ← isEdit_trimReturns (f line), h, isEdit_trimReturns]
  have htrim : trimReturns ∘ f = trimReturns := funext h
  rw [edits, List.filter_map, hedit, List.map_map, htrim, ← edits]

/-! ### Edits in texts -/

/-- Tidying drops one carriage return from a piece and perhaps a last empty piece. -/
theorem edits_tidy (pieces : List (List Char)) : edits (tidy pieces) = edits pieces := by
  match pieces with
  | [] => rfl
  | [last] =>
    rw [tidy]
    split
    · rename_i hlast
      rw [hlast]
      rfl
    · rfl
  | piece :: next :: rest =>
    have hdrop : edits [dropReturn piece] = edits [piece] :=
      edits_map trimReturns_dropReturn [piece]
    rw [tidy_cons (List.cons_ne_nil _ _), edits_cons, edits_tidy (next :: rest), hdrop,
      ← edits_cons]

/-- The edits in a text are those among the pieces between its line feeds. -/
theorem edits_lines (cs : List Char) : edits (lines cs) = edits (cs.splitOn '\n') := by
  rw [lines_eq_tidy, edits_tidy]

/-- **A patch cut in two.** No edit is lost or made where a text is cut at a line feed. -/
theorem edits_lines_append_feed (front back : List Char) :
    edits (lines (front ++ '\n' :: back)) = edits (lines front) ++ edits (lines back) := by
  rw [lines_append_feed, edits_append, edits_map trimReturns_dropReturn, ← edits_lines]

/-- The edits among lines are still there when the lines are joined. -/
theorem edits_lines_unlines {ls : List (List Char)} (h : ∀ line ∈ ls, '\n' ∉ line) :
    edits (lines (unlines ls)) = edits ls := by
  rw [lines_unlines h, edits_tidy]

/-! ### Readings that see edits only -/

/-- What finds nothing in a line that is no edit, and does not see carriage returns, finds the same
among the edits as among all lines. -/
theorem filterMap_edits {read? : List Char → Option α}
    (hneutral : ∀ line, isEdit line = false → read? line = none)
    (hreturns : ∀ line, read? (trimReturns line) = read? line) (ls : List (List Char)) :
    (edits ls).filterMap read? = ls.filterMap read? := by
  have hcomp : read? ∘ trimReturns = read? := funext hreturns
  rw [edits, List.filterMap_map, hcomp, List.filterMap_filter]
  refine List.filterMap_congr fun line _ => ?_
  cases hline : isEdit line with
  | false => rw [if_neg Bool.false_ne_true, hneutral line hline]
  | true => rw [if_pos rfl]

theorem countP_edits {p : List Char → Bool}
    (hneutral : ∀ line, isEdit line = false → p line = false)
    (hreturns : ∀ line, p (trimReturns line) = p line) (ls : List (List Char)) :
    (edits ls).countP p = ls.countP p := by
  have hcomp : p ∘ trimReturns = p := funext hreturns
  rw [edits, List.countP_map, hcomp, List.countP_filter]
  refine List.countP_congr fun line _ => ?_
  cases hline : isEdit line with
  | false => simp [hneutral line hline]
  | true => simp

theorem removedMethod?_eq_none (h : isEdit line = false) : removedMethod? line = none := by
  rw [removedMethod?.eq_def]
  split
  · simp [isEdit] at h
  · rfl

end Patch

open Patch

theorem TestTally.counts_eq_false {side : Sign} {line : List Char} (hside : side ≠ .neutral)
    (h : isEdit line = false) : counts side line = false := by
  have hsign : (sign line == side) = false := by
    rw [sign_eq_neutral h]
    simpa using hside.symm
  rw [counts, hsign, Bool.and_false]

theorem ReferenceMention.ofLine?_eq_none {line : List Char} (h : isEdit line = false) :
    ofLine? line = none := by
  rw [ofLine?.eq_def]
  split
  · simp [isEdit] at h
  · simp [isEdit] at h
  · rfl

/-! ### Edits in files -/

/-- The edits in the patch of a file. -/
def ChangedFile.edits (file : ChangedFile) : List (List Char) := Patch.edits file.lines

/-- What is shown of a file: its name and its edits. -/
def ChangedFile.shown (file : ChangedFile) : String × List (List Char) :=
  (file.filename, file.edits)

/-- An edit, under the name of its file. -/
structure Edit where
  filename : String
  line : List Char
  deriving DecidableEq, Repr

namespace Edit

/-- The edits that a file shows. -/
def ofShown (shown : String × List (List Char)) : List Edit := shown.2.map (Edit.mk shown.1)

/-- Every edit in some files, in the order of files and lines. -/
def inFiles (files : List ChangedFile) : List Edit := files.flatMap fun file => ofShown file.shown

@[simp] theorem map_line_ofShown (shown : String × List (List Char)) :
    (ofShown shown).map line = shown.2 := by
  rw [ofShown, List.map_map]
  exact List.map_id _

@[simp] theorem inFiles_cons (file : ChangedFile) (files : List ChangedFile) :
    inFiles (file :: files) = ofShown file.shown ++ inFiles files := rfl

theorem inFiles_append (front back : List ChangedFile) :
    inFiles (front ++ back) = inFiles front ++ inFiles back := List.flatMap_append

theorem inFiles_eq_flatMap_shown (files : List ChangedFile) :
    inFiles files = (files.map ChangedFile.shown).flatMap ofShown := by
  rw [inFiles, List.flatMap_map]

/-- Files that are chosen by their names bring the edits that stand under these names. -/
theorem inFiles_filter (chosen : String → Bool) (files : List ChangedFile) :
    inFiles (files.filter (chosen ·.filename)) = (inFiles files).filter (chosen ·.filename) := by
  induction files with
  | nil => rfl
  | cons file files ih =>
    rw [inFiles_cons, List.filter_append, ← ih, ofShown, List.filter_map]
    by_cases hfile : chosen file.filename
    · simp [ofShown, ChangedFile.shown, Function.comp_def, hfile]
    · simp [ChangedFile.shown, Function.comp_def, hfile]

theorem inFiles_cut (before after : List ChangedFile) (name front back : String) :
    inFiles (before ++ ⟨name, front ++ "\n" ++ back⟩ :: after) =
      inFiles (before ++ ⟨name, front⟩ :: ⟨name, back⟩ :: after) := by
  have hcut : ChangedFile.edits ⟨name, front ++ "\n" ++ back⟩ =
      ChangedFile.edits ⟨name, front⟩ ++ ChangedFile.edits ⟨name, back⟩ := by
    have htext : (front ++ "\n" ++ back).toList = front.toList ++ '\n' :: back.toList := by simp
    rw [ChangedFile.edits, ChangedFile.lines, htext, edits_lines_append_feed]
    rfl
  rw [inFiles_append, inFiles_append, inFiles_cons, inFiles_cons, inFiles_cons, ← List.append_assoc]
  simp [ofShown, ChangedFile.shown, hcut]

end Edit

/-! ### The three findings -/

theorem TestTally.ofFiles_eq_ofLines_edits (files : List ChangedFile) :
    ofFiles files = ofLines ((Edit.inFiles files).map Edit.line) := by
  have hlines : (Edit.inFiles files).map Edit.line = edits (files.flatMap ChangedFile.lines) := by
    induction files with
    | nil => rfl
    | cons file files ih =>
      rw [Edit.inFiles_cons, List.map_append, ih, List.flatMap_cons, edits_append,
        Edit.map_line_ofShown]
      rfl
  have hcount : ∀ side, side ≠ .neutral → ∀ ls, (edits ls).countP (counts side) =
      ls.countP (counts side) := fun side hside ls =>
    countP_edits (fun _ => counts_eq_false hside) (counts_trimReturns side) ls
  rw [ofFiles, hlines, ofLines, ofLines, hcount _ (by decide), hcount _ (by decide)]

theorem DeletedMethod.ofFiles_eq_filterMap_edits (files : List ChangedFile) :
    ofFiles files = (Edit.inFiles files).filterMap fun edit =>
      (removedMethod? edit.line).map fun name => ⟨edit.filename, String.ofList name⟩ := by
  rw [ofFiles, Edit.inFiles, List.filterMap_flatMap]
  refine List.flatMap_congr fun file _ => ?_
  rw [ofFile, Edit.ofShown, List.filterMap_map]
  refine (filterMap_edits (fun line h => ?_) (fun line => ?_) file.lines).symm
  · rw [removedMethod?_eq_none h]
    rfl
  · rw [removedMethod?_trimReturns]

theorem ReferenceMention.inFiles_eq_filterMap_edits (files : List ChangedFile) :
    inFiles files = (Edit.inFiles files).filterMap fun edit => ofLine? edit.line := by
  rw [inFiles_eq_flatMap, Edit.inFiles, List.filterMap_flatMap]
  refine List.flatMap_congr fun file _ => ?_
  rw [Edit.ofShown, List.filterMap_map]
  exact (filterMap_edits (fun _ => ofLine?_eq_none) ofLine?_trimReturns file.lines).symm

namespace Analysis

/-- **What an analysis reads.** Files with the same edits under the same names, one after the other,
have the same analysis. -/
theorem ofFiles_congr (filter : FileFilter) {files others : List ChangedFile}
    (h : Edit.inFiles files = Edit.inFiles others) :
    ofFiles filter files = ofFiles filter others := by
  have hchosen : ∀ chosen : String → Bool,
      Edit.inFiles (files.filter (chosen ·.filename)) =
        Edit.inFiles (others.filter (chosen ·.filename)) := by
    intro chosen
    rw [Edit.inFiles_filter, h, Edit.inFiles_filter]
  have hsources : Edit.inFiles (filter.sources files) = Edit.inFiles (filter.sources others) :=
    hchosen filter.isSource
  have hmanifests :
      Edit.inFiles (filter.manifests files) = Edit.inFiles (filter.manifests others) :=
    hchosen filter.isManifest
  have htests : TestTally.ofFiles (filter.sources files) =
      TestTally.ofFiles (filter.sources others) := by
    rw [TestTally.ofFiles_eq_ofLines_edits, hsources, TestTally.ofFiles_eq_ofLines_edits]
  have hmethods : DeletedMethod.ofFiles (filter.sources files) =
      DeletedMethod.ofFiles (filter.sources others) := by
    rw [DeletedMethod.ofFiles_eq_filterMap_edits, hsources,
      DeletedMethod.ofFiles_eq_filterMap_edits]
  have hreferences : ReferenceChange.ofFiles (filter.manifests files) =
      ReferenceChange.ofFiles (filter.manifests others) := by
    rw [ReferenceChange.ofFiles_eq_summary, ReferenceMention.inFiles_eq_filterMap_edits, hmanifests,
      ReferenceChange.ofFiles_eq_summary, ReferenceMention.inFiles_eq_filterMap_edits]
  rw [ofFiles, htests, hmethods, hreferences, ofFiles]

/-- Files that show the same, one by one, have the same analysis. -/
theorem ofFiles_of_map_shown (filter : FileFilter) {files others : List ChangedFile}
    (h : files.map ChangedFile.shown = others.map ChangedFile.shown) :
    ofFiles filter files = ofFiles filter others := by
  refine ofFiles_congr filter ?_
  rw [Edit.inFiles_eq_flatMap_shown, h, Edit.inFiles_eq_flatMap_shown]

/-- **What may change in the files** without a change of the analysis: everything in their patches
that is no edit, and carriage returns at the ends of lines; and a file may be cut in two of the same
name at any line feed of its patch, whatever files stand around it. -/
theorem ofFiles_of_same_edits (filter : FileFilter) :
    (∀ files others : List ChangedFile,
      files.map ChangedFile.filename = others.map ChangedFile.filename →
        files.map ChangedFile.edits = others.map ChangedFile.edits →
          ofFiles filter files = ofFiles filter others) ∧
      ∀ (before after : List ChangedFile) (name front back : String),
        ofFiles filter (before ++ ⟨name, front ++ "\n" ++ back⟩ :: after) =
          ofFiles filter (before ++ ⟨name, front⟩ :: ⟨name, back⟩ :: after) := by
  constructor
  · intro files others hnames hedits
    have hshown : files.map ChangedFile.shown = others.map ChangedFile.shown := by
      calc files.map ChangedFile.shown
          = (files.map ChangedFile.filename).zip (files.map ChangedFile.edits) :=
            List.zip_map'.symm
        _ = others.map ChangedFile.shown := by
            rw [hnames, hedits]
            exact List.zip_map'
    exact ofFiles_of_map_shown filter hshown
  · intro before after name front back
    exact ofFiles_congr filter (Edit.inFiles_cut before after name front back)

/-- A hunk header, context, an empty line and three carriage returns may go. -/
theorem ofFiles_of_bare_edits :
    let files : List ChangedFile := [⟨"Log.cs",
      "@@ -1,3 +1,3 @@\n class Log\r\n-  public void Write()\r\n\n+  [Test]\r\r"⟩]
    let others : List ChangedFile := [⟨"Log.cs", "-  public void Write()\n+  [Test]"⟩]
    files.map ChangedFile.filename = others.map ChangedFile.filename ∧
      files.map ChangedFile.edits = others.map ChangedFile.edits ∧
        ofFiles {} files = ofFiles {} others ∧
          ofFiles {} others = ⟨⟨1, 0⟩, [⟨"Log.cs", "Write"⟩], []⟩ := by
  intro files others
  have hnames : files.map ChangedFile.filename = others.map ChangedFile.filename := rfl
  have hedits : files.map ChangedFile.edits = others.map ChangedFile.edits := by decide +kernel
  have hsame : ofFiles {} files = ofFiles {} others :=
    (ofFiles_of_same_edits {}).1 files others hnames hedits
  exact ⟨hnames, hedits, hsame, by decide +kernel⟩

end Analysis

end PullReport
