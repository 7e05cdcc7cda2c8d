/-!
# Lines of a text

A line ends at a line feed, and one carriage return right before that line feed belongs to the line
end. What follows the last line feed is a line only if it is not empty, and it keeps a carriage
return at its end, since no line feed follows.

## Main definitions

* `Text.lines`: the lines of a text.
* `Text.unlines`: lines put back together, a line feed between each two.

The two are not inverse to each other: `unlines` leaves no trace of a last empty line, and a line
that ends in a carriage return loses it when it is cut again.
-/

namespace PullReport

namespace Text

/-- What is known about the text behind a character: whether it starts with a line feed, and its
lines. Cutting goes from the end, because a carriage return is dropped on account of what follows
it. -/
structure LineCut where
  startsWithFeed : Bool
  lines : List (List Char)

/-- A character put in front of the first line; it opens a line where there is none. -/
def LineCut.extend (c : Char) : List (List Char) → List (List Char)
  | [] => [[c]]
  | line :: rest => (c :: line) :: rest

/-- The cut of a text with one more character in front. -/
def LineCut.cons (c : Char) (cut : LineCut) : LineCut :=
  if c = '\n' then ⟨true, [] :: cut.lines⟩
  else if c = '\r' ∧ cut.startsWithFeed then ⟨false, cut.lines⟩
  else ⟨false, LineCut.extend c cut.lines⟩

/-- The cut of a whole text. -/
def lineCut (cs : List Char) : LineCut := cs.foldr LineCut.cons ⟨false, []⟩

/-- The lines of a text. -/
def lines (cs : List Char) : List (List Char) := (lineCut cs).lines

/-- Lines joined by line feeds. -/
def unlines (ls : List (List Char)) : List Char := List.intercalate ['\n'] ls

/-! ### Reading a text from its front -/

@[simp] theorem lines_cons_feed (cs : List Char) : lines ('\n' :: cs) = [] :: lines cs := by
  simp [lines, lineCut, LineCut.cons]

@[simp] theorem lines_cons_return_feed (cs : List Char) :
    lines ('\r' :: '\n' :: cs) = [] :: lines cs := by
  simp [lines, lineCut, LineCut.cons]

/-- The flag of a cut says what it is meant to say. -/
theorem lineCut_startsWithFeed (cs : List Char) :
    (lineCut cs).startsWithFeed = (cs.head? == some '\n') := by
  cases cs with
  | nil => rfl
  | cons c cs =>
    simp only [lineCut, List.foldr_cons, LineCut.cons]
    split
    · simp_all
    · split <;> simp_all

/-- Any other character goes in front of the first line behind it. -/
theorem lines_cons_of_ne {c : Char} {cs : List Char} (feed : c ≠ '\n')
    (ret : ¬ (c = '\r' ∧ cs.head? = some '\n')) :
    lines (c :: cs) = LineCut.extend c (lines cs) := by
  have flag := lineCut_startsWithFeed cs
  have : ¬ (c = '\r' ∧ (lineCut cs).startsWithFeed = true) := by
    intro h
    apply ret
    rw [flag] at h
    simpa using h
  simp only [lines, lineCut, List.foldr_cons] at *
  rw [LineCut.cons, if_neg feed, if_neg this]

end Text

end PullReport
