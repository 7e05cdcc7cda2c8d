import PullReport.Text.Blank
import PullReport.Text.Search
import PullReport.Text.Word

/-!
# Removed public methods

The name of the method that a removed line declares. The line reads

> `-`, blanks, `public`, blanks, any modifiers, a return type, blanks, a name, blanks, `(`

where every modifier is followed by blanks and the return type is a word, a word with one pair of
angle brackets behind it, or a tuple in parentheses.

The reading is ambiguous, because a modifier is a word and could be the return type. Modifiers are
therefore read greedily, and one is given back to the return type only if the longer reading leads
nowhere.

## Main definitions

* `Patch.modifiers`: the words that may stand between `public` and the return type.
* `Patch.signatureName?`: the name behind a return type.
* `Patch.declaredName?`: the name behind any number of modifiers and a return type.
* `Patch.removedMethod?`: the name declared by a whole removed line.
-/

namespace PullReport

namespace Patch

open Text

/-- The modifiers a public method may carry. None of them begins another. -/
def modifiers : List (List Char) :=
  ["static".toList, "async".toList, "virtual".toList, "override".toList, "sealed".toList,
    "abstract".toList]

/-- The text behind one modifier and the blanks that end it. -/
def afterModifier? (cs : List Char) : Option (List Char) :=
  modifiers.findSome? fun modifier => (modifier.isPrefixOf? cs).bind afterBlanks?

/-- The text behind a pair of angle brackets, or the same text if it does not start with such a
pair. The pair ends at the first closing bracket and is not empty. -/
def afterTypeArguments (cs : List Char) : List Char :=
  match cs with
  | '<' :: inner =>
    match enclosed? '>' inner with
    | some (_, rest) => rest
    | none => cs
  | _ => cs

/-- The text behind a return type: a tuple in parentheses, or a word and perhaps its type
arguments. -/
def afterReturnType? (cs : List Char) : Option (List Char) :=
  match cs with
  | '(' :: inner => (enclosed? ')' inner).map (·.2)
  | _ => if takeWord cs = [] then none else some (afterTypeArguments (dropWord cs))

/-- The name behind a return type, if an opening parenthesis follows it. -/
def signatureName? (cs : List Char) : Option (List Char) := do
  let cs ← (← afterReturnType? cs) |> afterBlanks?
  match takeWord cs, trimStart (dropWord cs) with
  | [], _ => none
  | name, '(' :: _ => some name
  | _, _ => none

/-! ### Modifiers -/

theorem length_of_afterModifier? {cs rest : List Char} (h : afterModifier? cs = some rest) :
    rest.length < cs.length := by
  obtain ⟨modifier, -, h⟩ := List.exists_of_findSome?_eq_some h
  obtain ⟨behind, hbehind, h⟩ := Option.bind_eq_some_iff.1 h
  have shorter := length_of_afterBlanks? h
  have := congrArg List.length (append_of_isPrefixOf? hbehind)
  simp only [List.length_append] at this
  omega

/-- The name behind modifiers and a return type. As many modifiers are read as there are; the last
of them is given back only when no name is found behind it. -/
def declaredName? (cs : List Char) : Option (List Char) :=
  match _h : afterModifier? cs with
  | some rest =>
    match declaredName? rest with
    | some name => some name
    | none => signatureName? cs
  | none => signatureName? cs
termination_by cs.length
decreasing_by exact length_of_afterModifier? _h

/-- The name of the public method that a removed line declares. The edit sign is the line's first
character. -/
def removedMethod? : List Char → Option (List Char)
  | '-' :: cs => do declaredName? (← afterBlanks? (← "public".toList.isPrefixOf? (trimStart cs)))
  | _ => none

end Patch

end PullReport
