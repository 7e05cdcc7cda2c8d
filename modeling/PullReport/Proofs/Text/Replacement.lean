/-!
# Replacing parts of a text

Replacing every occurrence of one text by another can in general not be undone: the other text may
have been there before, or come about where a replacement meets what stands around it. The first
cannot be helped. The second is out of the question when the text that is put in starts with a
character that it has nowhere else, since then no occurrence of it can begin in one place and end in
another.

## Main definitions

* `Text.replaced`: a text with every occurrence of a part replaced.

## Main results

* `Text.replaced_singleton`: replacing a single character.
* `Text.replaced_replaced`: replacing a character, undone by replacing the other way round.
-/

namespace PullReport

namespace Text

/-- A text in which every occurrence of `part` is replaced by `other`, from left to right, with the
first `skipped` characters left out. What has been put in is not searched again. -/
def replacedFrom (part other : List Char) : Nat → List Char → List Char
  | _, [] => []
  | skipped + 1, _ :: cs => replacedFrom part other skipped cs
  | 0, c :: cs =>
    if part.isPrefixOf (c :: cs) then other ++ replacedFrom part other (part.length - 1) cs
    else c :: replacedFrom part other 0 cs

/-- A text in which every occurrence of `part`, which is not to be empty, is replaced by `other`. -/
def replaced (part other cs : List Char) : List Char := replacedFrom part other 0 cs

variable {part other cs : List Char} {c : Char}

/-! ### One step -/

theorem replacedFrom_length (part other front back : List Char) :
    replacedFrom part other front.length (front ++ back) = replaced part other back := by
  induction front with
  | nil => rfl
  | cons c front ih => exact ih

/-- An occurrence at the front is replaced as a whole. -/
theorem replaced_append (h : part ≠ []) (other cs : List Char) :
    replaced part other (part ++ cs) = other ++ replaced part other cs := by
  cases part with
  | nil => exact absurd rfl h
  | cons c part =>
    have hfront : (c :: part).isPrefixOf (c :: (part ++ cs)) = true :=
      List.isPrefixOf_iff_prefix.2 (List.prefix_append (c :: part) cs)
    rw [replaced, List.cons_append, replacedFrom, if_pos hfront]
    exact congrArg (other ++ ·) (replacedFrom_length (c :: part) other part cs)

/-- Where no occurrence starts, a character is kept. -/
theorem replaced_cons (h : ¬ part <+: c :: cs) (other : List Char) :
    replaced part other (c :: cs) = c :: replaced part other cs := by
  rw [replaced, replacedFrom, if_neg (mt List.isPrefixOf_iff_prefix.1 h)]
  rfl

/-! ### Single characters -/

/-- Replacing a single character is done character by character. -/
theorem replaced_singleton (c : Char) (other cs : List Char) :
    replaced [c] other cs = cs.flatMap fun d => if d = c then other else [d] := by
  induction cs with
  | nil => rfl
  | cons d cs ih =>
    rw [List.flatMap_cons, ← ih]
    by_cases hd : d = c
    · rw [if_pos hd, hd]
      exact replaced_append (List.cons_ne_nil c []) other cs
    · have hfront : ¬ [c] <+: d :: cs := by
        rw [List.cons_prefix_cons]
        exact fun h => hd h.1.symm
      rw [if_neg hd, replaced_cons hfront]
      rfl

/-- A character that is replaced is gone, if it is not put in again. -/
theorem not_mem_replaced_singleton (h : c ∉ other) (cs : List Char) :
    c ∉ replaced [c] other cs := by
  rw [replaced_singleton, List.mem_flatMap]
  rintro ⟨d, -, hc⟩
  split at hc
  · exact h hc
  · rename_i hd
    exact hd (List.mem_singleton.1 hc).symm

/-! ### Undoing a replacement -/

/-- What stands at the front of a text behind a replacement, and does not have the character with
which every piece that was put in starts, stood there before. -/
theorem prefix_of_prefix_replaced {first : Char} {rest : List Char} (h : first ∉ part)
    (hfront : part <+: replaced [c] (first :: rest) cs) : part <+: cs := by
  induction part generalizing cs with
  | nil => exact List.nil_prefix
  | cons d part ih =>
    obtain ⟨hd, hpart⟩ := not_or.1 (mt List.mem_cons.2 h)
    rw [replaced_singleton] at hfront
    cases cs with
    | nil => exact absurd hfront (by simp)
    | cons e cs =>
      rw [List.flatMap_cons] at hfront
      by_cases he : e = c
      · rw [if_pos he, List.cons_append, List.cons_prefix_cons] at hfront
        exact absurd hfront.1.symm hd
      · rw [if_neg he, List.singleton_append, List.cons_prefix_cons,
          ← replaced_singleton] at hfront
        exact List.cons_prefix_cons.2 ⟨hfront.1, ih hpart hfront.2⟩

/-- **Undoing a replacement.** If a character has been replaced by a text that was nowhere before,
and that starts with a character which it has only there, replacing that text by the character gives
back what there was. -/
theorem replaced_replaced {first : Char} {rest : List Char} (hfirst : first ∉ rest)
    (h : ¬ first :: rest <:+: cs) :
    replaced (first :: rest) [c] (replaced [c] (first :: rest) cs) = cs := by
  induction cs with
  | nil => rfl
  | cons d cs ih =>
    have hcs : ¬ first :: rest <:+: cs :=
      fun hoccurs => h (hoccurs.trans (List.suffix_cons d cs).isInfix)
    have hhead : replaced [c] (first :: rest) (d :: cs) =
        (if d = c then first :: rest else [d]) ++ replaced [c] (first :: rest) cs := by
      rw [replaced_singleton, List.flatMap_cons, ← replaced_singleton]
    rw [hhead]
    by_cases hd : d = c
    · rw [if_pos hd, replaced_append (List.cons_ne_nil first rest), ih hcs, hd]
      rfl
    · -- an occurrence that starts with this character would have been one before
      have hnone : ¬ first :: rest <+: d :: replaced [c] (first :: rest) cs := by
        rw [List.cons_prefix_cons]
        rintro ⟨rfl, hfront⟩
        exact h (List.cons_prefix_cons.2
          ⟨rfl, prefix_of_prefix_replaced hfirst hfront⟩).isInfix
      rw [if_neg hd, List.singleton_append, replaced_cons hnone, ih hcs]

end Text

end PullReport
