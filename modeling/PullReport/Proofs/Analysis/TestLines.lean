import PullReport.Proofs.Patch.Returns
import PullReport.Proofs.Text.Runs

/-!
# Which lines declare a test

A line declares a test if it adds or removes something, has a test marker in it, and is not
commented out, that is, no `//` stands behind its edit sign with nothing but spaces and tabs
between. Such lines are counted, but not all of them. The margin in front of a comment may hold
further signs, and then the text of the line itself begins with a sign, as the second line of a sum
may do, with a remark behind its plus sign. These lines are taken for comments, and the tally is too
low by just as many.

## Main definitions

* `Patch.OpensComment`: a text begins with a comment.
* `Patch.DeclaresTest`: a line declares a test on one side of the change.
* `Patch.HasSignedComment`: a line has a further sign before a comment.

## Main results

* `Patch.isCommentedOut_iff`: which lines are taken for comments.
* `TestTally.counts_iff`: a line counts if it declares a test and has no further sign like that.
* `TestTally.ofFiles_misses_signed_comments`: the tally of files.
-/

namespace PullReport

namespace Patch

open Text

variable {side : Sign} {line text : List Char} {p : Char → Bool}

/-! ### Comments -/

/-- A character of indentation. -/
def isIndentation (c : Char) : Bool := c == ' ' || c == '\t'

/-- A text begins with a comment, perhaps behind indentation. -/
def OpensComment (text : List Char) : Prop :=
  ∃ indent rest, (∀ c ∈ indent, c = ' ' ∨ c = '\t') ∧ text = indent ++ '/' :: '/' :: rest

/-- A text begins with indentation and a sign, and then there is nothing but more of these before a
comment. -/
def OpensSignedComment (text : List Char) : Prop :=
  ∃ indent sign margin rest, (∀ c ∈ indent, c = ' ' ∨ c = '\t') ∧ (sign = '+' ∨ sign = '-') ∧
    (∀ c ∈ margin, isMargin c = true) ∧ text = indent ++ sign :: (margin ++ '/' :: '/' :: rest)

/-- A line has a further sign before a comment, behind the sign of its edit. -/
def HasSignedComment (line : List Char) : Prop := OpensSignedComment (line.drop 1)

theorem isIndentation_iff {c : Char} : isIndentation c = true ↔ c = ' ' ∨ c = '\t' := by
  simp [isIndentation]

/-- What is no indentation in a margin is a sign. -/
theorem isMargin_iff {c : Char} :
    isMargin c = true ↔ (c = '+' ∨ c = '-') ∨ c = ' ' ∨ c = '\t' := by
  simp [isMargin, or_assoc]

theorem dropWhile_append_slashes (hslash : p '/' = false) {front rest : List Char}
    (hfront : ∀ c ∈ front, p c = true) :
    (front ++ '/' :: '/' :: rest).dropWhile p = '/' :: '/' :: rest := by
  refine dropWhile_append_of_head hfront fun c hc => ?_
  obtain rfl : '/' = c := Option.some.inj hc
  exact hslash

/-- A comment stands behind a run of some characters. -/
theorem slashes_isPrefixOf_dropWhile_iff (hslash : p '/' = false) :
    "//".toList.isPrefixOf (text.dropWhile p) = true ↔
      ∃ front rest, (∀ c ∈ front, p c = true) ∧ text = front ++ '/' :: '/' :: rest := by
  rw [List.isPrefixOf_iff_prefix]
  constructor
  · rintro ⟨rest, hrest⟩
    refine ⟨text.takeWhile p, rest, fun _ => of_mem_takeWhile, ?_⟩
    rw [show '/' :: '/' :: rest = text.dropWhile p from hrest, List.takeWhile_append_dropWhile]
  · rintro ⟨front, rest, hfront, rfl⟩
    rw [dropWhile_append_slashes hslash hfront]
    exact ⟨rest, rfl⟩

theorem opensComment_iff :
    OpensComment text ↔ "//".toList.isPrefixOf (text.dropWhile isIndentation) = true := by
  rw [slashes_isPrefixOf_dropWhile_iff rfl]
  simp only [OpensComment, isIndentation_iff]

instance : DecidablePred OpensComment := fun _ => decidable_of_iff _ opensComment_iff.symm

/-- A margin in front of a comment is indentation, or there is a sign in it. -/
theorem margin_comment_iff :
    "//".toList.isPrefixOf (text.dropWhile isMargin) = true ↔
      OpensComment text ∨ OpensSignedComment text := by
  rw [slashes_isPrefixOf_dropWhile_iff rfl]
  constructor
  · rintro ⟨front, rest, hfront, rfl⟩
    have hindent : ∀ c ∈ front.takeWhile isIndentation, c = ' ' ∨ c = '\t' := fun c hc =>
      isIndentation_iff.1 (of_mem_takeWhile hc)
    have hcut := List.takeWhile_append_dropWhile (p := isIndentation) (l := front)
    cases hdrop : front.dropWhile isIndentation with
    | nil =>
      rw [hdrop, List.append_nil] at hcut
      exact .inl ⟨front, rest, hcut ▸ hindent, rfl⟩
    | cons sign margin =>
      rw [hdrop] at hcut
      rw [← hcut] at hfront
      obtain ⟨hsign, hmargin⟩ := List.forall_mem_cons.1 (List.forall_mem_append.1 hfront).2
      have hstop : sign ∈ (front.dropWhile isIndentation).head? := by rw [hdrop]; rfl
      have hnot : isIndentation sign = false := head?_dropWhile hstop
      refine .inr ⟨_, sign, margin, rest, hindent, ?_, hmargin, ?_⟩
      · exact (isMargin_iff.1 hsign).resolve_right (by simp [← isIndentation_iff, hnot])
      · rw [← List.cons_append, ← List.append_assoc, hcut]
  · have hindentation {indent : List Char} (h : ∀ c ∈ indent, c = ' ' ∨ c = '\t') :
        ∀ c ∈ indent, isMargin c = true := fun c hc => isMargin_iff.2 (.inr (h c hc))
    rintro (⟨indent, rest, hindent, rfl⟩ | hsigned)
    · exact ⟨indent, rest, hindentation hindent, rfl⟩
    · obtain ⟨indent, sign, margin, rest, hindent, hsign, hmargin, rfl⟩ := hsigned
      refine ⟨indent ++ sign :: margin, rest, ?_, by simp⟩
      rw [List.forall_mem_append, List.forall_mem_cons]
      exact ⟨hindentation hindent, isMargin_iff.2 (.inl hsign), hmargin⟩

/-- A text that begins with a sign does not begin with a comment. -/
theorem OpensSignedComment.not_opensComment (h : OpensSignedComment text) :
    ¬ OpensComment text := by
  obtain ⟨indent, sign, margin, rest, hindent, hsign, -, rfl⟩ := h
  have hhead : ∀ c ∈ (sign :: (margin ++ '/' :: '/' :: rest)).head?, isIndentation c = false := by
    intro c hc
    obtain rfl : sign = c := Option.some.inj hc
    rcases hsign with rfl | rfl <;> rfl
  rw [opensComment_iff,
    dropWhile_append_of_head (fun c hc => isIndentation_iff.2 (hindent c hc)) hhead]
  rcases hsign with rfl | rfl <;> exact Bool.false_ne_true

instance : DecidablePred OpensSignedComment := fun text =>
  decidable_of_iff
    ("//".toList.isPrefixOf (text.dropWhile isMargin) = true ∧ ¬ OpensComment text) <| by
      rw [margin_comment_iff]
      constructor
      · rintro ⟨h, hnot⟩
        exact h.resolve_left hnot
      · exact fun h => ⟨.inr h, h.not_opensComment⟩

instance : DecidablePred HasSignedComment := fun line =>
  inferInstanceAs (Decidable (OpensSignedComment (line.drop 1)))

/-- **Which edits are taken for comments**: those whose text begins with a comment, and those that
have a further sign before one. -/
theorem isCommentedOut_iff (h : sign line ≠ .neutral) :
    isCommentedOut line = true ↔ OpensComment (line.drop 1) ∨ HasSignedComment line := by
  cases line with
  | nil => exact absurd rfl h
  | cons c text =>
    have hc : isMargin c = true := by
      rw [sign.eq_def] at h
      split at h <;> simp_all [isMargin]
    rw [isCommentedOut, List.dropWhile_cons_of_pos hc, margin_comment_iff]
    rfl

/-! ### Tests -/

/-- A line declares a test on one side of the change. -/
structure DeclaresTest (side : Sign) (line : List Char) : Prop where
  sign_eq : sign line = side
  marked : ∃ marker ∈ testMarkers, marker <:+: line
  not_comment : ¬ OpensComment (line.drop 1)

theorem hasTestMarker_iff :
    hasTestMarker line = true ↔ ∃ marker ∈ testMarkers, marker <:+: line := by
  simp only [hasTestMarker, List.any_eq_true, occursIn_iff]

instance (side : Sign) : DecidablePred (DeclaresTest side) := fun line =>
  decidable_of_iff (sign line = side ∧ hasTestMarker line = true ∧ ¬ OpensComment (line.drop 1))
    ⟨fun ⟨hsign, hmarker, hnot⟩ => ⟨hsign, hasTestMarker_iff.1 hmarker, hnot⟩,
      fun h => ⟨h.sign_eq, hasTestMarker_iff.2 h.marked, h.not_comment⟩⟩

end Patch

namespace TestTally

open Patch

variable {side : Sign} {line : List Char}

/-- **Which lines count**: those that declare a test and have no further sign before a comment. -/
theorem counts_iff (hside : side ≠ .neutral) :
    counts side line = true ↔ DeclaresTest side line ∧ ¬ HasSignedComment line := by
  simp only [counts, Bool.and_eq_true, Bool.not_eq_true', beq_iff_eq, hasTestMarker_iff,
    ← Bool.not_eq_true]
  constructor
  · rintro ⟨⟨hcomment, hmarked⟩, rfl⟩
    rw [isCommentedOut_iff hside, not_or] at hcomment
    exact ⟨⟨rfl, hmarked, hcomment.1⟩, hcomment.2⟩
  · rintro ⟨⟨rfl, hmarked, hnot⟩, hsigned⟩
    refine ⟨⟨?_, hmarked⟩, rfl⟩
    rw [isCommentedOut_iff hside, not_or]
    exact ⟨hnot, hsigned⟩

/-- The lines that declare a test are those that count and those that are taken for comments. -/
theorem countP_declaresTest (hside : side ≠ .neutral) (lines : List (List Char)) :
    lines.countP (DeclaresTest side ·) =
      lines.countP (counts side) +
        lines.countP fun line => DeclaresTest side line ∧ HasSignedComment line := by
  induction lines with
  | nil => rfl
  | cons line lines ih =>
    rw [List.countP_cons, List.countP_cons, List.countP_cons, ih]
    have hcounts : counts side line = true ↔ _ := counts_iff hside
    by_cases hdeclares : DeclaresTest side line
    · by_cases hsigned : HasSignedComment line
      · have hline : counts side line = false := by simp [← Bool.not_eq_true, hcounts, hsigned]
        simp [hdeclares, hsigned, hline, Nat.add_assoc]
      · have hline : counts side line = true := hcounts.2 ⟨hdeclares, hsigned⟩
        simp [hdeclares, hsigned, hline, Nat.add_right_comm]
    · have hline : counts side line = false := by simp [← Bool.not_eq_true, hcounts, hdeclares]
      simp [hdeclares, hline]

/-- The tests that files declare on one side of the change. -/
def declared (side : Sign) (files : List ChangedFile) : Nat :=
  (files.flatMap ChangedFile.lines).countP (DeclaresTest side ·)

/-- The lines of files that declare a test and are taken for comments. -/
def missed (side : Sign) (files : List ChangedFile) : List (List Char) :=
  (files.flatMap ChangedFile.lines).filter fun line =>
    DeclaresTest side line ∧ HasSignedComment line

/-- **The tally of files** has one less on each side for every line that declares a test and has a
further sign before a comment. So it is the number of tests that are declared just when there is no
line like that. -/
theorem ofFiles_misses_signed_comments (files : List ChangedFile) :
    declared .added files = (ofFiles files).added + (missed .added files).length ∧
    declared .removed files = (ofFiles files).deleted + (missed .removed files).length ∧
    (ofFiles files = ⟨declared .added files, declared .removed files⟩ ↔
      ∀ line ∈ files.flatMap ChangedFile.lines,
        DeclaresTest .added line ∨ DeclaresTest .removed line → ¬ HasSignedComment line) := by
  have hside (side : Sign) (hside : side ≠ .neutral) :
      declared side files =
        (files.flatMap ChangedFile.lines).countP (counts side) + (missed side files).length := by
    rw [declared, missed, ← List.countP_eq_length_filter, countP_declaresTest hside]
  have hadded := hside .added nofun
  have hremoved := hside .removed nofun
  refine ⟨hadded, hremoved, ?_⟩
  have hmissed : (missed .added files = [] ∧ missed .removed files = []) ↔
      ∀ line ∈ files.flatMap ChangedFile.lines,
        DeclaresTest .added line ∨ DeclaresTest .removed line → ¬ HasSignedComment line := by
    simp only [missed, List.filter_eq_nil_iff, decide_eq_true_eq, not_and, ← forall_and, or_imp]
  rw [← hmissed, ← List.length_eq_zero_iff, ← List.length_eq_zero_iff, hadded, hremoved, ofFiles,
    ofLines, TestTally.mk.injEq]
  omega

/-- The second line of a sum has a remark about a test behind its plus sign. -/
theorem ofFiles_misses_line_of_sum :
    let file : ChangedFile := ⟨"Sums.cs", "@@ -1 +1,2 @@\n var sum = first\n+    + // [Fact]"⟩
    DeclaresTest .added "+    + // [Fact]".toList ∧ declared .added [file] = 1 ∧
      ofFiles [file] = ⟨0, 0⟩ := by
  decide

end TestTally

end PullReport
