import PullReport.Text.Blank
import PullReport.Text.Lines
import PullReport.Text.Search

/-!
# What readers take from a text

A reader that works from the front of a text leaves a suffix of it behind, and what it takes is a
stretch of it. So whatever is read from a text has only characters of that text, and what is read
from a line has no line feed in it.

## Main results

* `Text.trim_isInfix`, `Text.afterBlanks?_suffix`, `Text.isPrefixOf?_suffix`: the small readers.
* `Text.exists_suffix_of_leftmost?`: a search succeeds at some suffix of the text.
* `Text.feed_not_mem_of_mem_lines`: no line has a line feed in it.
-/

namespace PullReport

namespace Text

/-! ### Readers -/

theorem trimStart_suffix (cs : List Char) : trimStart cs <:+ cs := List.dropWhile_suffix _

theorem trimEnd_isPrefix (cs : List Char) : trimEnd cs <+: cs := by
  rw [← List.reverse_suffix, trimEnd, List.reverse_reverse]
  exact List.dropWhile_suffix _

theorem trim_isInfix (cs : List Char) : trim cs <:+: cs :=
  (trimEnd_isPrefix _).isInfix.trans (trimStart_suffix cs).isInfix

theorem afterBlanks?_suffix {cs rest : List Char} (h : afterBlanks? cs = some rest) :
    rest <:+ cs := by
  cases cs with
  | nil => cases h
  | cons c cs =>
    rw [afterBlanks?, Option.ite_none_right_eq_some, Option.some.injEq] at h
    rw [← h.2]
    exact (trimStart_suffix cs).trans (List.suffix_cons c cs)

theorem isPrefixOf?_suffix {part whole rest : List Char}
    (h : part.isPrefixOf? whole = some rest) : rest <:+ whole :=
  ⟨part, append_of_isPrefixOf? h⟩

@[simp] theorem isPrefixOf?_append (part rest : List Char) :
    part.isPrefixOf? (part ++ rest) = some rest := by
  induction part with
  | nil => rfl
  | cons c part ih =>
    show (if c == c then part.isPrefixOf? (part ++ rest) else none) = some rest
    rw [if_pos (beq_self_eq_true c), ih]

theorem isPrefixOf?_eq_some_iff {part whole rest : List Char} :
    part.isPrefixOf? whole = some rest ↔ part ++ rest = whole := by
  refine ⟨append_of_isPrefixOf?, ?_⟩
  rintro rfl
  exact isPrefixOf?_append part rest

theorem isSome_isPrefixOf?_iff {part whole : List Char} :
    (part.isPrefixOf? whole).isSome = true ↔ part <+: whole := by
  rw [Option.isSome_iff_exists]
  exact exists_congr fun rest => isPrefixOf?_eq_some_iff

theorem exists_suffix_of_leftmost? {α : Type} {recognise? : List Char → Option α} {cs : List Char}
    {a : α} (h : leftmost? recognise? cs = some a) :
    ∃ suffix, suffix <:+ cs ∧ recognise? suffix = some a := by
  induction cs with
  | nil => exact ⟨[], List.suffix_rfl, h⟩
  | cons c cs ih =>
    rw [leftmost?] at h
    split at h
    · rename_i b hb
      exact ⟨c :: cs, List.suffix_rfl, hb.trans h⟩
    · obtain ⟨suffix, hsuffix, hfound⟩ := ih h
      exact ⟨suffix, hsuffix.trans (List.suffix_cons c cs), hfound⟩

/-- Where a run of characters of a class ends, a character outside the class stands. -/
theorem eq_append_of_dropWhile_eq_cons {p : Char → Bool} {cs rest : List Char} {c : Char}
    (h : cs.dropWhile p = c :: rest) : cs = cs.takeWhile p ++ c :: rest ∧ p c = false := by
  constructor
  · rw [← h, List.takeWhile_append_dropWhile]
  · have hhead := List.head?_dropWhile_not p cs
    rw [h] at hhead
    exact hhead

/-! ### Lines -/

theorem feed_not_mem_of_mem_extend {c : Char} {ls : List (List Char)} (hc : c ≠ '\n')
    (h : ∀ line ∈ ls, '\n' ∉ line) : ∀ line ∈ LineCut.extend c ls, '\n' ∉ line := by
  cases ls with
  | nil => simpa [LineCut.extend] using Ne.symm hc
  | cons first rest =>
    intro line hline
    rcases List.mem_cons.1 hline with rfl | hrest
    · rw [List.mem_cons]
      rintro (hfeed | hfeed)
      · exact hc hfeed.symm
      · exact h first List.mem_cons_self hfeed
    · exact h line (List.mem_cons_of_mem _ hrest)

theorem feed_not_mem_of_mem_lines {cs : List Char} : ∀ line ∈ lines cs, '\n' ∉ line := by
  induction cs with
  | nil => intro line hline; cases hline
  | cons c cs ih =>
    rw [lines, lineCut, List.foldr_cons, LineCut.cons]
    split
    · intro line hline
      rcases List.mem_cons.1 hline with rfl | hrest
      · exact List.not_mem_nil
      · exact ih line hrest
    · rename_i hc
      split
      · exact ih
      · exact feed_not_mem_of_mem_extend hc ih

end Text

end PullReport
