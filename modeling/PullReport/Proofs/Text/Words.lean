import PullReport.Text.Blank

/-!
# Words of a text

The words of a text are what stands between its blanks. Reading a text word by word finds all of
them in order, and blanks at the end of a text make no difference.

## Main definitions

* `Text.words`: the words of a text.

## Main results

* `Text.nextWord?_eq`: the next word of a text is the first of its words.
* `Text.words_append_of_word`: the words of a text that starts with a word.
* `Text.words_append_cons`, `Text.words_concat_of_isBlank`: what a blank does.
* `Text.isBlank_of_mem_words`: words have no blanks.
-/

namespace PullReport

namespace Text

/-- The words of a text: what stands between blanks, where anything does. -/
def words (cs : List Char) : List (List Char) := (cs.splitOnP isBlank).filter (· ≠ [])

@[simp] theorem words_nil : words [] = [] := rfl

theorem words_cons_of_isBlank {c : Char} (hc : isBlank c = true) (cs : List Char) :
    words (c :: cs) = words cs := by
  simp [words, List.splitOnP_cons_eq_if_modifyHead, hc]

/-- A blank parts the words on its one side from those on the other. -/
theorem words_append_cons {c : Char} (hc : isBlank c = true) (front rest : List Char) :
    words (front ++ c :: rest) = words front ++ words rest := by
  rw [words, List.splitOnP_append_cons front rest hc, List.filter_append]
  rfl

theorem words_concat_of_isBlank {c : Char} (hc : isBlank c = true) (cs : List Char) :
    words (cs ++ [c]) = words cs := by
  simp [words, List.splitOnP_append_cons cs [] hc]

/-- What a text is split on is in none of the pieces. -/
theorem not_of_mem_splitOnP {p : Char → Bool} {cs piece : List Char} (h : piece ∈ cs.splitOnP p) :
    ∀ c ∈ piece, p c = false := by
  induction cs generalizing piece with
  | nil =>
    obtain rfl : piece = [] := by simpa using h
    simp
  | cons d cs ih =>
    rw [List.splitOnP_cons_eq_if_modifyHead] at h
    split at h
    · rcases List.mem_cons.1 h with rfl | h
      · simp
      · exact ih h
    · rename_i hd
      cases hpieces : cs.splitOnP p with
      | nil =>
        rw [hpieces] at h
        cases h
      | cons first pieces =>
        rw [hpieces] at h ih
        rcases List.mem_cons.1 h with rfl | h
        · exact List.forall_mem_cons.2 ⟨Bool.eq_false_iff.2 hd, ih List.mem_cons_self⟩
        · exact ih (List.mem_cons_of_mem _ h)

theorem isBlank_of_mem_words {cs word : List Char} (h : word ∈ words cs) :
    ∀ c ∈ word, isBlank c = false :=
  not_of_mem_splitOnP (List.mem_filter.1 h).1

theorem words_trimStart (cs : List Char) : words (trimStart cs) = words cs := by
  induction cs with
  | nil => rfl
  | cons c cs ih =>
    by_cases hc : isBlank c = true
    · rw [trimStart, List.dropWhile_cons_of_pos hc, ← trimStart, ih, words_cons_of_isBlank hc]
    · rw [trimStart, List.dropWhile_cons_of_neg hc]

/-- A word at the front of a text, up to the end of the text or to a blank, is its first word. -/
theorem words_append_of_word {word : List Char} (rest : List Char) (hne : word ≠ [])
    (hword : ∀ c ∈ word, isBlank c = false) (hrest : ∀ c ∈ rest.head?, isBlank c = true) :
    words (word ++ rest) = word :: words rest := by
  cases rest with
  | nil => simp [words, List.splitOnP_eq_singleton hword, hne]
  | cons c rest =>
    have hc : isBlank c = true := hrest c rfl
    rw [words_cons_of_isBlank hc, words,
      List.splitOnP_append_cons_of_forall_mem hword c hc rest, List.filter_cons_of_pos (by simpa)]
    rfl

/-- Reading the next word takes the first of the words and leaves the others. -/
theorem nextWord?_eq (cs : List Char) :
    (nextWord? cs = none ∧ words cs = []) ∨
      ∃ word rest, nextWord? cs = some (word, rest) ∧ words cs = word :: words rest := by
  rw [nextWord?, ← words_trimStart]
  cases hstart : trimStart cs with
  | nil => exact Or.inl ⟨rfl, rfl⟩
  | cons c start =>
    have hc : isBlank c = false := by
      have hhead := List.head?_dropWhile_not isBlank cs
      rwa [← trimStart, hstart] at hhead
    refine Or.inr ⟨_, _, rfl, ?_⟩
    have hword : ∀ d ∈ (c :: start).takeWhile (!isBlank ·), isBlank d = false := by
      intro d hd
      simpa using List.all_eq_true.1 List.all_takeWhile d hd
    have hrest : ∀ d ∈ ((c :: start).dropWhile (!isBlank ·)).head?, isBlank d = true := by
      intro d hd
      have hhead := List.head?_dropWhile_not (!isBlank ·) (c :: start)
      rw [Option.mem_def.1 hd] at hhead
      simpa using hhead
    have hne : (c :: start).takeWhile (!isBlank ·) ≠ [] := by
      rw [List.takeWhile_cons_of_pos (by simp [hc])]
      exact List.cons_ne_nil _ _
    rw [← words_append_of_word _ hne hword hrest, List.takeWhile_append_dropWhile]

end Text

end PullReport
