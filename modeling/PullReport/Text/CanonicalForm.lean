import PullReport.Text.CombiningClass
import PullReport.Text.Composition

/-!
# The canonical form of a text

A letter with marks can be spelled in several ways: as one character or as several, and with the
marks in several orders. The canonical form is the same for all spellings of a text. It is found by
taking every character apart, putting the marks behind each letter in the order of their combining
classes, and composing what can be composed.

## Main definitions

* `Text.decompose`, `Text.reorder`, `Text.composeAfter`: the three steps.
* `Text.canonicalForm`: the canonical form of a text.
-/

namespace PullReport

namespace Text

/-- A text with every character that is composed of two replaced by the two. -/
def expand (cs : List Char) : List Char :=
  cs.flatMap fun c =>
    match parts? c with
    | some (first, second) => [first, second]
    | none => [c]

/-- A text with every character taken apart. A character has three marks at most. -/
def decompose (cs : List Char) : List Char := expand (expand (expand cs))

/-- A character put in front of a text with its marks in order. It goes behind the marks of lower
classes, which belong to the same letter. -/
def insertMark (c : Char) : List Char → List Char
  | [] => [c]
  | d :: ds =>
    if 0 < combiningClass d ∧ combiningClass d < combiningClass c then d :: insertMark c ds
    else c :: d :: ds

/-- A text with the marks behind each letter in the order of their classes. Marks of one class stay
in the order they are in. -/
def reorder (cs : List Char) : List Char := cs.foldr insertMark []

/-- Whether the marks kept behind a character keep a further one from composing with it: the last
of them attaches at the same place, or the further one starts anew. -/
def blocks (kept : List Char) (c : Char) : Bool :=
  match kept.getLast? with
  | some mark => combiningClass c ≤ combiningClass mark
  | none => false

/-- The composition of a text that goes on with `cs` behind the character `starter` and the marks
`kept` that do not compose with it. -/
def composeAfter (starter : Char) (kept : List Char) : List Char → List Char
  | [] => starter :: kept
  | c :: cs =>
    match if blocks kept c then none else compose? starter c with
    | some whole => composeAfter whole kept cs
    | none =>
      if combiningClass c = 0 then (starter :: kept) ++ composeAfter c [] cs
      else composeAfter starter (kept ++ [c]) cs

/-- The canonical form of a text. -/
def canonicalForm (cs : List Char) : List Char :=
  match reorder (decompose cs) with
  | [] => []
  | c :: rest => composeAfter c [] rest

end Text

end PullReport
