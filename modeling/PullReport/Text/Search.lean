/-!
# Searching a text

Recognisers in this library read from the front of a text. The two searches here slide them along
it: a search for a fixed text inside another, and the leftmost place at which a recogniser succeeds.

## Main definitions

* `Text.occursIn`: whether a text stands somewhere inside another.
* `Text.leftmost?`: the answer of a recogniser at the first place where it has one.
* `Text.enclosed?`: what stands before the next closing character, if that is anything at all.
-/

namespace PullReport

namespace Text

/-- Whether `part` stands somewhere inside the text. -/
def occursIn (part : List Char) : List Char → Bool
  | [] => part.isEmpty
  | c :: cs => part.isPrefixOf (c :: cs) || occursIn part cs

/-- The answer of `recognise?` at the leftmost place of the text, its end included, where it has
one. -/
def leftmost? {α : Type} (recognise? : List Char → Option α) : List Char → Option α
  | [] => recognise? []
  | c :: cs =>
    match recognise? (c :: cs) with
    | some a => some a
    | none => leftmost? recognise? cs

/-- The characters before the next `close` and the text behind it. At least one character must
stand before `close`, and `close` must be there. -/
def enclosed? (close : Char) (cs : List Char) : Option (List Char × List Char) :=
  match cs.takeWhile (· ≠ close), cs.dropWhile (· ≠ close) with
  | [], _ => none
  | _, [] => none
  | inner, _ :: rest => some (inner, rest)

/-- What is left behind a fixed text at the front of another, put back together with it. -/
theorem append_of_isPrefixOf? {part whole rest : List Char}
    (h : part.isPrefixOf? whole = some rest) : part ++ rest = whole := by
  induction part generalizing whole with
  | nil =>
    have h : some whole = some rest := h
    exact (Option.some.inj h).symm
  | cons c part ih =>
    cases whole with
    | nil => exact nomatch (show none = some rest from h)
    | cons d whole =>
      have h : (if c == d then part.isPrefixOf? whole else none) = some rest := h
      simp only [Option.ite_none_right_eq_some, beq_iff_eq] at h
      rw [List.cons_append, ih h.2, h.1]

end Text

end PullReport
