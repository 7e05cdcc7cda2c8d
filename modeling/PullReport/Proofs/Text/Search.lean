import PullReport.Text.Search

/-!
# What searches find

A recogniser that succeeds only where a certain character stands is found at one of the places of
that character. So a text with one such character is searched at one place, and a search passes over
what stands before the first of them. In the same way a search makes nothing of what its recogniser
does not see at the end of a text.

## Main results

* `findSome?_eq_ite`: a search through a list that can succeed at one element only.
* `Text.leftmost?_eq_none`, `Text.leftmost?_append_of_not_mem`, `Text.leftmost?_of_only_place`: a
  search for what begins with a certain character.
* `Text.leftmost?_append_of_unseen`: a search with a recogniser that does not see all of a text.
-/

namespace PullReport

/-- A search through a list that succeeds at one of the elements only. -/
theorem findSome?_eq_ite {α β : Type} [BEq α] [LawfulBEq α] [DecidableEq α] {f : α → Option β}
    {a : α} {b : Option β} {l : List α} (h : ∀ x ∈ l, f x = if a = x then b else none) :
    l.findSome? f = if a ∈ l then b else none := by
  induction l with
  | nil => rfl
  | cons x l ih =>
    obtain ⟨hx, hl⟩ := List.forall_mem_cons.1 h
    rw [List.findSome?_cons, hx, ih hl]
    by_cases ha : a = x
    · cases b <;> simp [ha]
    · simp [ha]

namespace Text

variable {α : Type} {recognise? : List Char → Option α} {c : Char} {cs front rest : List Char}

/-- What begins with a certain character is not found in a text without it. -/
theorem leftmost?_eq_none (h : ∀ cs, cs.head? ≠ some c → recognise? cs = none) (hc : c ∉ cs) :
    leftmost? recognise? cs = none := by
  induction cs with
  | nil => exact h [] nofun
  | cons d cs ih =>
    obtain ⟨hd, hcs⟩ := not_or.1 (mt List.mem_cons.2 hc)
    have hnone : recognise? (d :: cs) = none := h _ fun hhead => hd (Option.some.inj hhead).symm
    rw [leftmost?, hnone]
    exact ih hcs

/-- A search for what begins with a certain character passes over a text without it. -/
theorem leftmost?_append_of_not_mem (h : ∀ cs, cs.head? ≠ some c → recognise? cs = none)
    (hfront : c ∉ front) (rest : List Char) :
    leftmost? recognise? (front ++ rest) = leftmost? recognise? rest := by
  induction front with
  | nil => rfl
  | cons d front ih =>
    obtain ⟨hd, hfront⟩ := not_or.1 (mt List.mem_cons.2 hfront)
    have hnone : recognise? (d :: (front ++ rest)) = none :=
      h _ fun hhead => hd (Option.some.inj hhead).symm
    rw [List.cons_append, leftmost?, hnone]
    exact ih hfront

/-- What begins with a certain character is found where that character is, or nowhere. -/
theorem leftmost?_of_only_place (h : ∀ cs, cs.head? ≠ some c → recognise? cs = none)
    (hfront : c ∉ front) (hrest : c ∉ rest) :
    leftmost? recognise? (front ++ c :: rest) = recognise? (c :: rest) := by
  rw [leftmost?_append_of_not_mem h hfront, leftmost?]
  split
  · rename_i a ha
    exact ha.symm
  · rename_i hnone
    rw [hnone, leftmost?_eq_none h hrest]

/-- What a recogniser does not see at the end of a text, a search with it does not see either. -/
theorem leftmost?_append_of_unseen
    (h : ∀ tail, c ∉ tail → ∀ cs, recognise? (cs ++ tail) = recognise? cs) {tail : List Char}
    (htail : c ∉ tail) (cs : List Char) :
    leftmost? recognise? (cs ++ tail) = leftmost? recognise? cs := by
  induction cs with
  | nil =>
    -- from every place of the tail on, there is as much to see as in the empty text
    induction tail with
    | nil => rfl
    | cons d tail ih =>
      have hempty : recognise? (d :: tail) = recognise? [] := h _ htail []
      show leftmost? recognise? (d :: tail) = recognise? []
      rw [leftmost?, hempty]
      split
      · rename_i a ha
        exact ha.symm
      · exact ih (mt (List.mem_cons_of_mem d) htail)
  | cons d cs ih =>
    have hsame : recognise? (d :: (cs ++ tail)) = recognise? (d :: cs) := h tail htail (d :: cs)
    rw [List.cons_append, leftmost?, hsame, ih, leftmost?]

end Text

end PullReport
