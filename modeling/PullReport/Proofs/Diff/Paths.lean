import PullReport.Analysis.FileFilter
import PullReport.Proofs.Diff.Layout
import PullReport.Proofs.Text.Runs

/-!
# Paths in headers

A header has nothing but blanks to part the path before the change from the path after it, and it is
read word by word. So a file gets the path that its header names if that path has no blank, and it
never does otherwise, since no file has a blank in its name. A path with a blank is cut at the first
one, unless the word behind that begins with `b/`: then this word is taken for the path after the
change.

## Main definitions

* `Diff.Section.IsFor`: the header names one path on both sides.
* `Diff.Named`: how the file of such a section is called.

## Main results

* `Diff.Section.isBlank_of_file`: no file has a blank in its name.
* `Diff.split_names_paths`: the names of all files of a diff.
-/

namespace PullReport

namespace Diff

open Text

variable {s : Section} {made : ChangedFile} {p old new : List Char}

/-- The header of the section names a path, which stays the same in the change. -/
def Section.IsFor (s : Section) (p : List Char) : Prop :=
  s.paths = "a/".toList ++ p ++ " b/".toList ++ p

/-- What the file of a section for a path is called: by that path if it has no blank, and by some
other name if it has. Then it is the part before the first blank, as long as the word behind that
does not look like a path after the change. -/
structure Named (p : List Char) (made : ChangedFile) : Prop where
  eq_iff : made.filename.toList = p ↔ ∀ c ∈ p, isBlank c = false
  cut : ∀ front blank back, p = front ++ blank :: back → (∀ c ∈ front, isBlank c = false) →
    isBlank blank = true → (∀ word ∈ (words back).head?, ¬ "b/".toList <+: word) →
    made.filename.toList = front

/-! ### Names without blanks -/

/-- Each character of a named path is one of the words that name it. -/
theorem mem_of_mem_namedPath {c : Char} (h : c ∈ namedPath old new) : c ∈ old ∨ c ∈ new := by
  rw [namedPath] at h
  cases hnew : "b/".toList.isPrefixOf? new with
  | some path =>
    rw [hnew] at h
    exact .inr ((isPrefixOf?_suffix hnew).subset h)
  | none =>
    cases hold : "a/".toList.isPrefixOf? old with
    | some path =>
      rw [hnew, hold] at h
      exact .inl ((isPrefixOf?_suffix hold).subset h)
    | none =>
      rw [hnew, hold] at h
      exact .inr h

/-- The file of a section is named by the first two words of its header. -/
theorem Section.exists_words_of_file (h : s.file = .ok made) :
    ∃ old new more, words s.paths = old :: new :: more ∧
      made.filename.toList = namedPath old new := by
  have htwo : 2 ≤ (words s.paths).length := Section.exists_file_iff.1 ⟨made, h⟩
  match hwords : words s.paths with
  | [] => simp [hwords] at htwo
  | [_] => simp [hwords] at htwo
  | old :: new :: more =>
    rw [Section.file, headerPath_of_words_eq_cons_cons hwords] at h
    obtain rfl := Except.ok.inj h
    exact ⟨old, new, more, rfl, String.toList_ofList⟩

theorem Section.filename_of_words {more : List (List Char)} (h : s.file = .ok made)
    (hwords : words s.paths = old :: new :: more) : made.filename.toList = namedPath old new := by
  obtain ⟨old', new', more', hwords', hname⟩ := Section.exists_words_of_file h
  rw [hwords] at hwords'
  obtain ⟨rfl, hrest⟩ := List.cons.inj hwords'
  obtain ⟨rfl, -⟩ := List.cons.inj hrest
  exact hname

/-- **No file has a blank in its name**, because words have none. -/
theorem Section.isBlank_of_file (h : s.file = .ok made) :
    ∀ c ∈ made.filename.toList, isBlank c = false := by
  obtain ⟨old, new, more, hwords, hname⟩ := Section.exists_words_of_file h
  have hold : old ∈ words s.paths := by simp [hwords]
  have hnew : new ∈ words s.paths := by simp [hwords]
  intro c hc
  rw [hname] at hc
  rcases mem_of_mem_namedPath hc with hc | hc
  · exact isBlank_of_mem_words hold c hc
  · exact isBlank_of_mem_words hnew c hc

/-! ### Headers for one path -/

/-- The words of such a header are those of its two sides. -/
theorem Section.IsFor.words_eq (h : s.IsFor p) :
    words s.paths = words ("a/".toList ++ p) ++ words ("b/".toList ++ p) := by
  have hpaths : s.paths = ("a/".toList ++ p) ++ ' ' :: ("b/".toList ++ p) := by
    rw [h]
    simp
  rw [hpaths, words_append_cons (by decide)]

/-- Up to its first blank, a side of the header is one word. -/
theorem words_side {side front back : List Char} (hside : ∀ c ∈ side, isBlank c = false)
    (hne : side ≠ []) (hfront : ∀ c ∈ front, isBlank c = false)
    (hback : ∀ c ∈ back.head?, isBlank c = true) :
    words (side ++ (front ++ back)) = (side ++ front) :: words back := by
  rw [← List.append_assoc]
  exact words_append_of_word back (by simp [hne]) (List.forall_mem_append.2 ⟨hside, hfront⟩) hback

/-- A path is cut at its first blank, or it has none. -/
theorem exists_cut (p : List Char) :
    ∃ front back, p = front ++ back ∧ (∀ c ∈ front, isBlank c = false) ∧
      ∀ c ∈ back.head?, isBlank c = true := by
  refine ⟨p.takeWhile (!isBlank ·), p.dropWhile (!isBlank ·),
    List.takeWhile_append_dropWhile.symm, fun c hc => ?_, fun c hc => ?_⟩
  · simpa using of_mem_takeWhile hc
  · simpa using head?_dropWhile hc

theorem isBlank_old : ∀ c ∈ "a/".toList, isBlank c = false := by simp [isBlank]

theorem isBlank_new : ∀ c ∈ "b/".toList, isBlank c = false := by simp [isBlank]

/-- Such a header can always be read. -/
theorem Section.IsFor.two_le_length (h : s.IsFor p) : 2 ≤ (words s.paths).length := by
  obtain ⟨front, back, rfl, hfront, hback⟩ := exists_cut p
  rw [h.words_eq, words_side isBlank_old (by decide) hfront hback,
    words_side isBlank_new (by decide) hfront hback]
  simp only [List.length_append, List.length_cons]
  omega

/-- The old path is taken where the second word is no new one. -/
theorem namedPath_of_not_prefix (h : ¬ "b/".toList <+: new) :
    namedPath ("a/".toList ++ p) new = p := by
  have hnone : "b/".toList.isPrefixOf? new = none :=
    Option.not_isSome_iff_eq_none.1 (mt isSome_isPrefixOf?_iff.1 h)
  rw [namedPath, hnone, isPrefixOf?_append]
  rfl

theorem namedPath_of_append (old p : List Char) : namedPath old ("b/".toList ++ p) = p := by
  rw [namedPath, isPrefixOf?_append]
  rfl

/-- **How the file of such a header is called.** -/
theorem Section.IsFor.named (h : s.IsFor p) (hfile : s.file = .ok made) : Named p made where
  eq_iff := by
    refine ⟨?_, fun hblank => ?_⟩
    · rintro rfl
      exact Section.isBlank_of_file hfile
    · exact (Section.makes_of_file hfile).filename p p (List.forall_mem_append.2 ⟨hblank, hblank⟩) h
  cut := by
    rintro front blank back rfl hfront hblank hword
    have hhead : ∀ c ∈ (blank :: back).head?, isBlank c = true := by
      rintro c hc
      obtain rfl : blank = c := Option.some.inj hc
      exact hblank
    have hwords := h.words_eq
    rw [words_side isBlank_old (by decide) hfront hhead,
      words_side isBlank_new (by decide) hfront hhead, words_cons_of_isBlank hblank] at hwords
    cases hback : words back with
    | nil =>
      -- nothing but blanks, and the second word is the new path up to its first blank
      rw [hback] at hwords
      rw [Section.filename_of_words hfile hwords, namedPath_of_append]
    | cons word more =>
      rw [hback] at hwords hword
      rw [Section.filename_of_words hfile hwords, namedPath_of_not_prefix (hword word rfl)]

/-! ### Splitting -/

/-- **The names of the files of a diff.** A header with one path on both sides is never what makes a
diff unreadable, and where the diff can be read, the file of that header is called by that path if
and only if the path has no blank. -/
theorem split_names_paths (raw : String) (layout : Layout) (h : layout.lines = lines raw.toList) :
    (∀ e, split raw = .error e → ∃ s ∈ layout.sections, s.Lacks e ∧ ∀ p, ¬ s.IsFor p) ∧
    ∀ files, split raw = .ok files →
      List.Forall₂ (fun s made => ∀ p, s.IsFor p → Named p made) layout.sections files := by
  refine ⟨fun e he => ?_, fun files hfiles => ?_⟩
  · obtain ⟨good, bad, rest, hsections, -, hlacks⟩ := (split_eq_error_iff h).1 he
    refine ⟨bad, by simp [hsections], hlacks, fun p hp => ?_⟩
    obtain ⟨made, hmade⟩ := Section.exists_file_iff.2 hp.two_le_length
    rw [Section.file_eq_error_iff.2 hlacks] at hmade
    cases hmade
  · exact ((split_eq_ok_iff h).1 hfiles).imp fun s made hmade p hp => hp.named hmade

/-- A path without blanks is kept, and one with a blank in the name of a directory is cut. -/
theorem split_names_paths_of_two_headers :
    let raw := "diff --git a/src/A.cs b/src/A.cs\ndiff --git a/my src/B.cs b/my src/B.cs\n"
    let kept : Section := ⟨"a/src/A.cs b/src/A.cs".toList, [], [], nofun, nofun, nofun, nofun⟩
    let cut : Section :=
      ⟨"a/my src/B.cs b/my src/B.cs".toList, [], [], nofun, nofun, nofun, nofun⟩
    let layout : Layout := ⟨[], [kept, cut], nofun⟩
    layout.lines = lines raw.toList ∧
      ∃ first second, split raw = .ok [first, second] ∧
        first.filename.toList = "src/A.cs".toList ∧ second.filename.toList = "my".toList := by
  intro raw kept cut layout
  have hlines : layout.lines = lines raw.toList := by decide
  obtain ⟨files, hfiles⟩ : ∃ files, split raw = .ok files := (exists_split_iff hlines).2 (by decide)
  have hnamed := (split_names_paths raw layout hlines).2 files hfiles
  obtain ⟨first, behind, hfirst, hbehind, rfl⟩ := List.forall₂_cons_left_iff.1 hnamed
  obtain ⟨second, rest, hsecond, hrest, rfl⟩ := List.forall₂_cons_left_iff.1 hbehind
  obtain rfl := List.forall₂_nil_left_iff.1 hrest
  have hkept : ∀ c ∈ "src/A.cs".toList, isBlank c = false := by simp [isBlank]
  have hfront : ∀ c ∈ "my".toList, isBlank c = false := by simp [isBlank]
  have hword : ∀ word ∈ (words "src/B.cs".toList).head?, ¬ "b/".toList <+: word := by
    rintro word hword
    obtain rfl : "src/B.cs".toList = word := Option.some.inj hword
    decide
  exact ⟨hlines, first, second, hfiles, (hfirst "src/A.cs".toList rfl).eq_iff.2 hkept,
    (hsecond "my src/B.cs".toList rfl).cut _ ' ' _ rfl hfront (by decide) hword⟩

/-- The header names a source file, but the file that it makes is no source file any more. -/
theorem split_drops_path_with_blank :
    split "diff --git a/my file.cs b/my file.cs\n@@ -1 +1 @@\n-a\n+b\n" =
        .ok [⟨"my", "@@ -1 +1 @@\n-a\n+b"⟩] ∧
      FileFilter.isRelevant {} "my file.cs" = true ∧ FileFilter.isRelevant {} "my" = false := by
  decide +kernel

end Diff

end PullReport
