import PullReport.Text.CanonicalForm
import PullReport.Text.Direction
import PullReport.Text.Joining
import PullReport.Url.HostMapping
import PullReport.Url.Punycode

/-!
# Labels of host names

A host name consists of labels between full stops. A label beyond ASCII may be given in its ASCII
form; what it stands for must then be written as it would have been written outright. A label must
not begin with a mark, and the two join controls may stand only where they have an effect. If any
label of a name runs from right to left, all labels must keep to a direction.

## Main definitions

* `Host.decodeLabel?`: the label that a label in ASCII form stands for.
* `Host.joinersTakeEffect`, `Host.keepsDirection`: the conditions on join controls and directions.
* `Host.isName`: whether all labels of a name are as they should be.
-/

namespace PullReport

namespace Host

open Text

/-- Whether a character is an ASCII character. -/
def isAscii (c : Char) : Bool := c.toNat < 0x80

/-! ### ASCII forms -/

/-- Whether a label that an ASCII form stands for is spelled as a mapped name is, and needs an ASCII
form at all. -/
def isWellSpelled (label : List Char) : Bool :=
  label.all isPermitted && canonicalForm label == label && !label.all isAscii

/-- The label that a label stands for: another one only behind the mark of ASCII forms. -/
def decodeLabel? (label : List Char) : Option (List Char) :=
  match label with
  | 'x' :: 'n' :: '-' :: '-' :: form =>
    if form.length ≤ 2000 then (Punycode.decode? form).filter isWellSpelled else none
  | _ => some label

/-! ### Join controls -/

/-- The control that joins its neighbours. -/
def joiner : Char := '\u200D'

/-- The control that keeps its neighbours apart. -/
def nonJoiner : Char := '\u200C'

/-- Whether the next letter satisfies a condition. Characters that letters connect across do not
count. -/
def meets (cs : List Char) (condition : Char → Bool) : Bool :=
  match cs.dropWhile isTransparent with
  | c :: _ => condition c
  | [] => false

/-- Whether a join control has an effect where it stands, given the characters before it from the
nearest one on and those after it. Behind a sign that takes a vowel away both of them change how
the consonants are written; elsewhere there must be two letters to be kept apart. -/
def takesEffect (control : Char) (before after : List Char) : Bool :=
  (before.head?.any isVirama)
    || (control == nonJoiner && meets before joinsNext && meets after joinsPrevious)

/-- Whether all join controls of a label have an effect, given the characters before it from the
nearest one on. -/
def joinersTakeEffect (before : List Char) : List Char → Bool
  | [] => true
  | c :: cs =>
    (!(c == joiner || c == nonJoiner) || takesEffect c before cs)
      && joinersTakeEffect (c :: before) cs

/-! ### Directions -/

/-- Whether a character makes a name one that runs from right to left. -/
def runsRightToLeft (c : Char) : Bool :=
  direction c == .rightToLeft || direction c == .arabicNumber

/-- Whether a sequence of directions ends as it should, marks at its end apart. -/
def endsIn (directions : List Direction) (ends : List Direction) : Bool :=
  match directions.reverse.dropWhile (· == .mark) with
  | last :: _ => ends.contains last
  | [] => false

/-- Whether a label keeps to one direction. It begins with a letter of that direction, has no letter
of the other one, and ends in a letter or a number. Numbers of both sorts do not go together. -/
def keepsDirection (label : List Char) : Bool :=
  let directions := label.map direction
  match directions with
  | [] => true
  | .leftToRight :: _ =>
    !directions.contains .rightToLeft && !directions.contains .arabicNumber
      && endsIn directions [.leftToRight, .europeanNumber]
  | .rightToLeft :: _ =>
    !directions.contains .leftToRight
      && !(directions.contains .europeanNumber && directions.contains .arabicNumber)
      && endsIn directions [.rightToLeft, .europeanNumber, .arabicNumber]
  | _ => false

/-! ### Names -/

/-- Whether a label is as it should be, its direction apart. -/
def isLabel (label : List Char) : Bool :=
  !label.head?.any isMark && joinersTakeEffect [] label
    && (label.all isAscii || label.length ≤ 1000)

/-- Whether the labels of a name, none of them in ASCII form, are as they should be. -/
def areLabels (labels : List (List Char)) : Bool :=
  labels.all isLabel && (!labels.any (·.any runsRightToLeft) || labels.all keepsDirection)

/-- Whether all labels of a name are as they should be. -/
def isName (name : List Char) : Bool :=
  match (name.splitOn '.').mapM decodeLabel? with
  | some labels => areLabels labels
  | none => false

end Host

end PullReport
