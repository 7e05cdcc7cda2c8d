import Mathlib.Data.List.Forall2
import Mathlib.Logic.ExistsUnique
import PullReport.Patch.Diff
import PullReport.Proofs.Text.Reading
import PullReport.Proofs.Text.Words

/-!
# The layout of a diff

Every diff, in fact every list of lines, can be laid out in exactly one way: some lines that belong
to no file, and then sections, each with a header, the lines that describe the file, and the hunks
from the first hunk line on. Splitting a diff gives one file for each section of its layout, and the
patch of that file is made of the hunks and of nothing else. So each line has one place, and its
place alone decides whether it gets into a patch, and into which.

## Main definitions

* `Diff.Section`, `Diff.Layout`: a section and a layout; what their lines must be like is part of
  the structures.
* `Diff.Section.file`: the file that a section stands for, or what is wrong with its header.
* `Diff.Section.Makes`, `Diff.Layout.FirstFault`: what that file is, and where a diff cannot be
  read.

## Main results

* `Diff.exists_layout`, `Diff.Layout.ext_of_lines`: there is one layout.
* `Diff.sections_lines`: what the layout comes to.
* `Diff.split_reads_layout`: splitting a diff, in terms of its layout.
-/

namespace PullReport

/-! ### Lists of results -/

section Results

variable {ε α β : Type} {f : α → Except ε β}

theorem mapM_eq_ok_iff {xs : List α} {ys : List β} :
    xs.mapM f = .ok ys ↔ List.Forall₂ (fun x y => f x = .ok y) xs ys := by
  induction xs generalizing ys with
  | nil => simp [pure, Except.pure, eq_comm]
  | cons x xs ih =>
    rw [List.mapM_cons, List.forall₂_cons_left_iff]
    cases hx : f x with
    | error e => simp [bind, Except.bind]
    | ok y =>
      cases hxs : xs.mapM f with
      | error e => simp [bind, Except.bind, ← ih, hxs]
      | ok rest => simp [bind, Except.bind, pure, Except.pure, ← ih, hxs, eq_comm]

/-- A list of results fails as the first of them that fails. -/
theorem mapM_eq_error_iff {xs : List α} {e : ε} :
    xs.mapM f = .error e ↔
      ∃ good bad rest, xs = good ++ bad :: rest ∧ (∀ x ∈ good, ∃ y, f x = .ok y) ∧
        f bad = .error e := by
  induction xs with
  | nil => simp [pure, Except.pure]
  | cons x xs ih =>
    rw [List.mapM_cons]
    constructor
    · intro h
      cases hx : f x with
      | error e' =>
        rw [hx] at h
        obtain rfl : e' = e := Except.error.inj h
        exact ⟨[], x, xs, rfl, by simp, hx⟩
      | ok y =>
        cases hxs : xs.mapM f with
        | ok rest =>
          rw [hx, hxs] at h
          cases h
        | error e' =>
          rw [hx, hxs] at h
          obtain rfl : e' = e := Except.error.inj h
          obtain ⟨good, bad, rest, rfl, hgood, hbad⟩ := ih.1 hxs
          refine ⟨x :: good, bad, rest, rfl, fun z hz => ?_, hbad⟩
          rcases List.mem_cons.1 hz with rfl | hz
          · exact ⟨y, hx⟩
          · exact hgood z hz
    · rintro ⟨good, bad, rest, heq, hgood, hbad⟩
      cases good with
      | nil =>
        obtain ⟨rfl, rfl⟩ := List.cons.inj heq
        rw [hbad]
        rfl
      | cons z good =>
        obtain ⟨rfl, hxs⟩ := List.cons.inj heq
        obtain ⟨y, hy⟩ := hgood x List.mem_cons_self
        have hfail : xs.mapM f = .error e :=
          ih.2 ⟨good, bad, rest, hxs, fun z hz => hgood z (List.mem_cons_of_mem _ hz), hbad⟩
        rw [hy, hfail]
        rfl

end Results

namespace Diff

open Text

/-! ### Header lines and hunk lines -/

/-- The words with which every header line opens. -/
def opening : List Char := "diff --git ".toList

/-- A line that opens a section. -/
def IsHeader (line : List Char) : Prop := opening <+: line

instance : DecidablePred IsHeader := fun line => inferInstanceAs (Decidable (opening <+: line))

theorem header?_eq_some_iff {line paths : List Char} :
    header? line = some paths ↔ opening ++ paths = line := isPrefixOf?_eq_some_iff

theorem header?_eq_none_iff {line : List Char} : header? line = none ↔ ¬ IsHeader line := by
  rw [IsHeader, ← isSome_isPrefixOf?_iff, Bool.not_eq_true, Option.isSome_eq_false_iff,
    Option.isNone_iff_eq_none]
  rfl

theorem isNone_header?_iff {line : List Char} :
    (header? line).isNone = true ↔ ¬ IsHeader line := by
  rw [Option.isNone_iff_eq_none, header?_eq_none_iff]

theorem isHunkStart_iff {line : List Char} : isHunkStart line = true ↔ "@@".toList <+: line :=
  List.isPrefixOf_iff_prefix

theorem isHunkStart_eq_false_iff {line : List Char} :
    isHunkStart line = false ↔ ¬ "@@".toList <+: line :=
  Bool.eq_false_iff.trans (not_congr isHunkStart_iff)

/-! ### Layouts -/

/-- A section of a diff: the text behind the opening words of its header, the lines that describe
the file, and the lines from the first hunk line on. -/
@[ext] structure Section where
  paths : List Char
  preface : List (List Char)
  hunks : List (List Char)
  preface_not_header : ∀ line ∈ preface, ¬ IsHeader line
  preface_not_hunk : ∀ line ∈ preface, ¬ "@@".toList <+: line
  hunks_not_header : ∀ line ∈ hunks, ¬ IsHeader line
  hunks_start : ∀ line ∈ hunks.head?, "@@".toList <+: line

/-- All lines of a section. -/
def Section.lines (s : Section) : List (List Char) := (opening ++ s.paths) :: (s.preface ++ s.hunks)

/-- A diff laid out: the lines before the first header, and the sections. -/
@[ext] structure Layout where
  preamble : List (List Char)
  sections : List Section
  preamble_not_header : ∀ line ∈ preamble, ¬ IsHeader line

/-- All lines of a layout. -/
def Layout.lines (layout : Layout) : List (List Char) :=
  layout.preamble ++ layout.sections.flatMap Section.lines

namespace Section

theorem body_not_header (s : Section) : ∀ line ∈ s.preface ++ s.hunks, ¬ IsHeader line := by
  intro line hline
  rcases List.mem_append.1 hline with hline | hline
  · exact s.preface_not_header line hline
  · exact s.hunks_not_header line hline

/-- The preface ends where the hunks begin. -/
theorem takeWhile_body (s : Section) :
    (s.preface ++ s.hunks).takeWhile (!isHunkStart ·) = s.preface := by
  have hpreface : ∀ line ∈ s.preface, (!isHunkStart line) = true := by
    intro line hline
    rw [isHunkStart_eq_false_iff.2 (s.preface_not_hunk line hline), Bool.not_false]
  rw [List.takeWhile_append_of_pos hpreface]
  cases hhunks : s.hunks with
  | nil => rw [List.takeWhile_nil, List.append_nil]
  | cons line rest =>
    have hstart : isHunkStart line = true :=
      isHunkStart_iff.2 (s.hunks_start line (by rw [hhunks]; rfl))
    rw [List.takeWhile_cons_of_neg (by simp [hstart]), List.append_nil]

theorem dropWhile_body (s : Section) :
    (s.preface ++ s.hunks).dropWhile (!isHunkStart ·) = s.hunks := by
  have h := List.takeWhile_append_dropWhile (p := (!isHunkStart ·)) (l := s.preface ++ s.hunks)
  rw [takeWhile_body] at h
  exact List.append_cancel_left h

/-- Behind some lines without a header among them, sections begin with a header. -/
theorem takeWhile_append_lines {front : List (List Char)} (h : ∀ line ∈ front, ¬ IsHeader line)
    (sections : List Section) :
    (front ++ sections.flatMap lines).takeWhile (fun line => (header? line).isNone) = front := by
  rw [List.takeWhile_append_of_pos fun line hline => isNone_header?_iff.2 (h line hline)]
  cases sections with
  | nil => rw [List.flatMap_nil, List.takeWhile_nil, List.append_nil]
  | cons s sections =>
    have hheader : header? (opening ++ s.paths) = some s.paths := header?_eq_some_iff.2 rfl
    rw [List.flatMap_cons, lines, List.cons_append,
      List.takeWhile_cons_of_neg (by simp [hheader]), List.append_nil]

/-- Sections are told apart by their lines. -/
theorem eq_of_flatMap_lines {sections others : List Section}
    (h : sections.flatMap lines = others.flatMap lines) : sections = others := by
  induction sections generalizing others with
  | nil =>
    cases others with
    | nil => rfl
    | cons t others => simp [lines] at h
  | cons s sections ih =>
    cases others with
    | nil => simp [lines] at h
    | cons t others =>
      rw [List.flatMap_cons, List.flatMap_cons, lines, lines, List.cons_append, List.cons_append]
        at h
      obtain ⟨hheader, hrest⟩ := List.cons.inj h
      have hpaths : s.paths = t.paths := List.append_cancel_left hheader
      have hbody : s.preface ++ s.hunks = t.preface ++ t.hunks := by
        rw [← takeWhile_append_lines s.body_not_header sections, hrest,
          takeWhile_append_lines t.body_not_header]
      have hpreface : s.preface = t.preface := by
        rw [← s.takeWhile_body, hbody, t.takeWhile_body]
      have hhunks : s.hunks = t.hunks := by
        rw [← s.dropWhile_body, hbody, t.dropWhile_body]
      have hothers : sections.flatMap lines = others.flatMap lines := by
        rw [hbody] at hrest
        exact List.append_cancel_left hrest
      rw [ih hothers, Section.ext hpaths hpreface hhunks]

end Section

/-- Layouts are told apart by their lines. -/
theorem Layout.ext_of_lines {layout other : Layout} (h : layout.lines = other.lines) :
    layout = other := by
  have hpreamble : layout.preamble = other.preamble := by
    rw [← Section.takeWhile_append_lines layout.preamble_not_header layout.sections, ← lines, h,
      lines, Section.takeWhile_append_lines other.preamble_not_header]
  refine Layout.ext hpreamble (Section.eq_of_flatMap_lines ?_)
  rw [lines, lines, hpreamble] at h
  exact List.append_cancel_left h

/-- Whatever the lines, they can be laid out. A header takes the lines before the next one with
it. -/
theorem exists_layout (ls : List (List Char)) : ∃ layout : Layout, layout.lines = ls := by
  induction ls with
  | nil => exact ⟨⟨[], [], by simp⟩, rfl⟩
  | cons line ls ih =>
    obtain ⟨layout, rfl⟩ := ih
    cases hheader : header? line with
    | none =>
      refine ⟨⟨line :: layout.preamble, layout.sections, ?_⟩, rfl⟩
      intro l hl
      rcases List.mem_cons.1 hl with rfl | hl
      · exact header?_eq_none_iff.1 hheader
      · exact layout.preamble_not_header l hl
    | some paths =>
      have hbody := List.takeWhile_append_dropWhile (p := (!isHunkStart ·)) (l := layout.preamble)
      refine ⟨⟨[], ⟨paths, layout.preamble.takeWhile (!isHunkStart ·),
        layout.preamble.dropWhile (!isHunkStart ·), ?_, ?_, ?_, ?_⟩ :: layout.sections, by simp⟩,
        ?_⟩
      · intro l hl
        exact layout.preamble_not_header l ((List.takeWhile_sublist _).subset hl)
      · intro l hl
        have hneutral := List.all_eq_true.1 List.all_takeWhile l hl
        exact isHunkStart_eq_false_iff.1 (by simpa using hneutral)
      · intro l hl
        exact layout.preamble_not_header l ((List.dropWhile_sublist _).subset hl)
      · intro l hl
        have hhead := List.head?_dropWhile_not (!isHunkStart ·) layout.preamble
        rw [Option.mem_def.1 hl] at hhead
        exact isHunkStart_iff.1 (by simpa using hhead)
      · rw [Layout.lines, List.nil_append, List.flatMap_cons, Section.lines, hbody,
          header?_eq_some_iff.1 hheader, List.cons_append]
        rfl

/-! ### What a header says -/

theorem headerPath_of_words_eq_nil {paths : List Char} (h : words paths = []) :
    headerPath paths = .error .missingOldPath := by
  rcases nextWord?_eq paths with ⟨hnext, -⟩ | ⟨old, rest, -, hwords⟩
  · rw [headerPath, hnext]
  · rw [hwords] at h
    cases h

theorem headerPath_of_words_eq_singleton {paths old : List Char} (h : words paths = [old]) :
    headerPath paths = .error .missingNewPath := by
  rcases nextWord?_eq paths with ⟨-, hwords⟩ | ⟨word, rest, hnext, hwords⟩
  · rw [hwords] at h
    cases h
  · have hrest : words rest = [] := by
      rw [hwords] at h
      exact (List.cons.inj h).2
    rcases nextWord?_eq rest with ⟨hnext', -⟩ | ⟨new, rest', -, hwords'⟩
    · rw [headerPath, hnext]
      dsimp only
      rw [hnext']
    · rw [hwords'] at hrest
      cases hrest

/-- The path that two words name: the second without its `b/`, else the first without its `a/`,
else the second as it stands. -/
def namedPath (old new : List Char) : List Char :=
  (("b/".toList.isPrefixOf? new).or ("a/".toList.isPrefixOf? old)).getD new

/-- The first two words of a header decide which path it names. -/
theorem headerPath_of_words_eq_cons_cons {paths old new : List Char} {more : List (List Char)}
    (h : words paths = old :: new :: more) : headerPath paths = .ok (namedPath old new) := by
  rcases nextWord?_eq paths with ⟨-, hwords⟩ | ⟨word, rest, hnext, hwords⟩
  · rw [hwords] at h
    cases h
  · obtain ⟨rfl, hrest⟩ := List.cons.inj (hwords.symm.trans h)
    rcases nextWord?_eq rest with ⟨-, hwords'⟩ | ⟨word', rest', hnext', hwords'⟩
    · rw [hwords'] at hrest
      cases hrest
    · obtain ⟨rfl, -⟩ := List.cons.inj (hwords'.symm.trans hrest)
      simp only [headerPath, hnext, hnext', namedPath]
      cases "b/".toList.isPrefixOf? word' <;> cases "a/".toList.isPrefixOf? word <;> rfl

/-- A header with two words names a path. -/
theorem exists_headerPath_of_words {paths : List Char} (h : 2 ≤ (words paths).length) :
    ∃ path, headerPath paths = .ok path := by
  match hwords : words paths with
  | [] => simp [hwords] at h
  | [_] => simp [hwords] at h
  | old :: new :: more => exact ⟨_, headerPath_of_words_eq_cons_cons hwords⟩

/-- The words of a header that names a file before and after the change. -/
theorem words_paths {p q : List Char} (h : ∀ c ∈ p ++ q, isBlank c = false) :
    words ("a/".toList ++ p ++ " b/".toList ++ q) = ["a/".toList ++ p, "b/".toList ++ q] := by
  obtain ⟨hp, hq⟩ := List.forall_mem_append.1 h
  have hold : ∀ c ∈ "a/".toList ++ p, isBlank c = false :=
    List.forall_mem_append.2 ⟨by simp [isBlank], hp⟩
  have hnew : ∀ c ∈ "b/".toList ++ q, isBlank c = false :=
    List.forall_mem_append.2 ⟨by simp [isBlank], hq⟩
  have hback : words ("b/".toList ++ q) = ["b/".toList ++ q] := by
    have hword := words_append_of_word [] (by simp) hnew (by simp)
    rwa [List.append_nil, words_nil] at hword
  have hfront := words_append_of_word (' ' :: ("b/".toList ++ q)) (by simp) hold
    (by simp [isBlank])
  rw [words_cons_of_isBlank (by decide), hback] at hfront
  exact (congrArg words (by simp)).trans hfront

/-! ### Sections as files -/

namespace Section

/-- The file that a section stands for, if its header can be read. -/
def file (s : Section) : Except Error ChangedFile := do
  let path ← headerPath s.paths
  return ⟨String.ofList path, String.ofList (unlines s.hunks)⟩

/-- What a header with fewer than two words lacks, in words. -/
def Lacks (s : Section) (e : Error) : Prop :=
  (words s.paths = [] ∧ e.detail = "Missing a/ path in diff header") ∨
    ((words s.paths).length = 1 ∧ e.detail = "Missing b/ path in diff header")

/-- The file that a section makes: its patch is the hunks joined by line feeds, and a header that
names the file in the usual way gives it the name it has after the change. -/
structure Makes (s : Section) (file : ChangedFile) : Prop where
  patch : file.patch.toList = unlines s.hunks
  filename : ∀ p q : List Char, (∀ c ∈ p ++ q, isBlank c = false) →
    s.paths = "a/".toList ++ p ++ " b/".toList ++ q → file.filename.toList = q

theorem file_eq_error_iff {s : Section} {e : Error} : s.file = .error e ↔ s.Lacks e := by
  have hfile : s.file = .error e ↔ headerPath s.paths = .error e := by
    rw [file]
    cases headerPath s.paths <;> simp [bind, Except.bind, pure, Except.pure]
  rw [hfile, Lacks]
  match hwords : words s.paths with
  | [] =>
    rw [headerPath_of_words_eq_nil hwords]
    cases e <;> simp [Error.detail]
  | [old] =>
    rw [headerPath_of_words_eq_singleton hwords]
    cases e <;> simp [Error.detail]
  | old :: new :: more =>
    have htwo : 2 ≤ (words s.paths).length := by simp [hwords]
    obtain ⟨path, hpath⟩ := exists_headerPath_of_words htwo
    simp [hpath]

theorem exists_file_iff {s : Section} :
    (∃ file, s.file = .ok file) ↔ 2 ≤ (words s.paths).length := by
  constructor
  · rintro ⟨made, hmade⟩
    by_contra hcon
    -- with fewer words the section lacks a path
    obtain ⟨e, he⟩ : ∃ e, s.Lacks e := by
      match hwords : words s.paths with
      | [] => exact ⟨.missingOldPath, Or.inl ⟨hwords, rfl⟩⟩
      | [old] => exact ⟨.missingNewPath, Or.inr ⟨by rw [hwords]; rfl, rfl⟩⟩
      | old :: new :: more => simp [hwords] at hcon
    rw [file_eq_error_iff.2 he] at hmade
    cases hmade
  · intro h
    obtain ⟨path, hpath⟩ := exists_headerPath_of_words h
    rw [file, hpath]
    exact ⟨_, rfl⟩

theorem makes_of_file {s : Section} {made : ChangedFile} (h : s.file = .ok made) :
    s.Makes made := by
  cases hpath : headerPath s.paths with
  | error e =>
    rw [file, hpath] at h
    cases h
  | ok path =>
    rw [file, hpath] at h
    obtain rfl := Except.ok.inj h
    refine ⟨String.toList_ofList, fun p q hblank hpaths => ?_⟩
    have hwords : words s.paths = ["a/".toList ++ p, "b/".toList ++ q] := by
      rw [hpaths, words_paths hblank]
    rw [headerPath_of_words_eq_cons_cons hwords, namedPath, isPrefixOf?_append] at hpath
    rw [String.toList_ofList, ← Except.ok.inj hpath]
    rfl

end Section

/-! ### Splitting -/

/-- Lines before the first header are passed over. -/
theorem sections_append {front : List (List Char)} (h : ∀ line ∈ front, ¬ IsHeader line)
    (ls : List (List Char)) : sections (front ++ ls) = sections ls := by
  induction front with
  | nil => rfl
  | cons line front ih =>
    rw [List.cons_append, sections, header?_eq_none_iff.2 (h line List.mem_cons_self)]
    exact ih fun l hl => h l (List.mem_cons_of_mem _ hl)

/-- A section is one file, and the lines behind it are those of the other sections. -/
theorem sections_flatMap_lines (ss : List Section) :
    sections (ss.flatMap Section.lines) = ss.mapM Section.file := by
  induction ss with
  | nil => rfl
  | cons s ss ih =>
    have hheader : header? (opening ++ s.paths) = some s.paths := header?_eq_some_iff.2 rfl
    have hhunks : hunkLines (s.preface ++ s.hunks ++ ss.flatMap Section.lines) = s.hunks := by
      rw [hunkLines, Section.takeWhile_append_lines s.body_not_header, s.dropWhile_body]
    rw [List.flatMap_cons, Section.lines, List.cons_append, sections, hheader, List.mapM_cons,
      Section.file]
    dsimp only
    rw [hhunks, sections_append s.body_not_header, ih]
    cases headerPath s.paths <;> rfl

/-- **What a layout comes to.** The files of laid out lines are those of the sections, and a section
without a file spoils them all. -/
theorem sections_lines (layout : Layout) :
    sections layout.lines = layout.sections.mapM Section.file := by
  rw [Layout.lines, sections_append layout.preamble_not_header, sections_flatMap_lines]

/-- The first section whose header lacks a path, and what it lacks. -/
def Layout.FirstFault (layout : Layout) (e : Error) : Prop :=
  ∃ good bad rest, layout.sections = good ++ bad :: rest ∧
    (∀ s ∈ good, 2 ≤ (words s.paths).length) ∧ bad.Lacks e

theorem split_eq_error_iff {raw : String} {layout : Layout}
    (h : layout.lines = lines raw.toList) {e : Error} :
    split raw = .error e ↔ layout.FirstFault e := by
  rw [split, ← h, sections_lines, mapM_eq_error_iff, Layout.FirstFault]
  simp only [Section.exists_file_iff, Section.file_eq_error_iff]

theorem split_eq_ok_iff {raw : String} {layout : Layout}
    (h : layout.lines = lines raw.toList) {files : List ChangedFile} :
    split raw = .ok files ↔
      List.Forall₂ (fun s file => s.file = .ok file) layout.sections files := by
  rw [split, ← h, sections_lines, mapM_eq_ok_iff]

/-- A diff can be split if every header has two words. -/
theorem exists_split_iff {raw : String} {layout : Layout} (h : layout.lines = lines raw.toList) :
    (∃ files, split raw = .ok files) ↔ ∀ s ∈ layout.sections, 2 ≤ (words s.paths).length := by
  simp only [split_eq_ok_iff h, ← Section.exists_file_iff]
  induction layout.sections with
  | nil => simp
  | cons s ss ih =>
    simp only [List.forall₂_cons_left_iff, List.forall_mem_cons, ← ih]
    constructor
    · rintro ⟨files, file, rest, hfile, hrest, -⟩
      exact ⟨⟨file, hfile⟩, rest, hrest⟩
    · rintro ⟨⟨file, hfile⟩, rest, hrest⟩
      exact ⟨file :: rest, file, rest, hfile, hrest, rfl⟩

/-- **Splitting a diff.** The lines of a diff can be laid out in exactly one way. The diff cannot be
read if and only if some header has fewer than two words, and then it fails with what the first such
header lacks. Otherwise there is one file for each section, in order, made of that section's header
and hunks. -/
theorem split_reads_layout (raw : String) :
    (∃! layout : Layout, layout.lines = lines raw.toList) ∧
      ∀ layout : Layout, layout.lines = lines raw.toList →
        ((∃ e, split raw = .error e) ↔ ∃ s ∈ layout.sections, (words s.paths).length < 2) ∧
        (∀ e, split raw = .error e ↔ layout.FirstFault e) ∧
        ((∀ s ∈ layout.sections, 2 ≤ (words s.paths).length) →
          ∃ files, split raw = .ok files ∧ List.Forall₂ Section.Makes layout.sections files) := by
  refine ⟨?_, fun layout h => ⟨?_, fun e => split_eq_error_iff h, fun hwords => ?_⟩⟩
  · obtain ⟨layout, hlayout⟩ := exists_layout (lines raw.toList)
    exact ⟨layout, hlayout, fun other hother => Layout.ext_of_lines (hother.trans hlayout.symm)⟩
  · have hok := exists_split_iff h
    rw [← not_iff_not]
    simp only [not_exists, not_and, Nat.not_lt, ← hok]
    cases split raw <;> simp
  · obtain ⟨files, hfiles⟩ := (exists_split_iff h).2 hwords
    exact ⟨files, hfiles, ((split_eq_ok_iff h).1 hfiles).imp fun s file => Section.makes_of_file⟩

/-- A line that looks like one above the first hunk stays in the hunks, and lines before the first
header and above the first hunk stay out of the patch. -/
theorem split_of_hunk_with_dashes :
    let raw := "From: x\ndiff --git a/old.cs b/new.cs\n--- a/old.cs\n@@ -1 +1 @@\n--- x\n+++ x\n"
    let header : Section :=
      { paths := "a/old.cs b/new.cs".toList
        preface := ["--- a/old.cs".toList]
        hunks := ["@@ -1 +1 @@".toList, "--- x".toList, "+++ x".toList]
        preface_not_header := by decide
        preface_not_hunk := by decide
        hunks_not_header := by decide
        hunks_start := by decide }
    let layout : Layout := ⟨["From: x".toList], [header], by decide⟩
    layout.lines = lines raw.toList ∧
      ∃ file, split raw = .ok [file] ∧ file.filename.toList = "new.cs".toList ∧
        file.patch.toList = "@@ -1 +1 @@\n--- x\n+++ x".toList := by
  intro raw header layout
  have hlines : layout.lines = lines raw.toList := by decide
  have hwords : ∀ s ∈ layout.sections, 2 ≤ (words s.paths).length := by
    intro s hs
    obtain rfl : s = header := List.mem_singleton.1 hs
    decide
  obtain ⟨files, hfiles, hmakes⟩ := ((split_reads_layout raw).2 layout hlines).2.2 hwords
  obtain ⟨file, rest, hfile, hrest, rfl⟩ := List.forall₂_cons_left_iff.1 hmakes
  obtain rfl := List.forall₂_nil_left_iff.1 hrest
  have hpaths : ∀ c ∈ "old.cs".toList ++ "new.cs".toList, isBlank c = false := by simp [isBlank]
  exact ⟨hlines, file, hfiles, hfile.filename "old.cs".toList "new.cs".toList hpaths rfl,
    hfile.patch⟩

end Diff

end PullReport
