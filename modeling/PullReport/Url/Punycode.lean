/-!
# Punycode

The ASCII form of a label beyond ASCII: its ASCII characters, a hyphen, and a sequence of numbers
that say which other characters go where. A number is the distance to the next insertion, counting
all places at which a character could be inserted, for one character after the other. Its digits
run from the least significant one, and the digit that ends it is below a threshold that adapts to
the numbers before.

## Main definitions

* `Punycode.Decoder`: a label in the course of being read.
* `Punycode.Decoder.step`: what a digit does to it.
* `Punycode.decode?`: the label that an ASCII form stands for.
-/

namespace PullReport

namespace Punycode

/-- The value of a digit: the letters come before the decimal digits. -/
def digit? (c : Char) : Option Nat :=
  if 'a' ≤ c ∧ c ≤ 'z' then some (c.toNat - 'a'.toNat)
  else if '0' ≤ c ∧ c ≤ '9' then some (c.toNat - '0'.toNat + 26)
  else none

/-- The threshold for the digit at a position, where positions are counted in steps of 36. -/
def threshold (position bias : Nat) : Nat :=
  if position ≤ bias then 1 else if bias + 26 ≤ position then 26 else position - bias

/-- A distance divided until it is small, and the positions that the divisions stand for. -/
def scaleDown (distance positions : Nat) : Nat × Nat :=
  if 455 < distance then scaleDown (distance / 35) (positions + 36) else (distance, positions)
termination_by distance

/-- The bias after a number, given the number and the length of the label by then. The first number
is usually by far the largest. -/
def adapt (distance length : Nat) (isFirst : Bool) : Nat :=
  let damped := if isFirst then distance / 700 else distance / 2
  let (small, positions) := scaleDown (damped + damped / length) 0
  positions + 36 * small / (small + 38)

/-- A label in the course of being read: its characters so far, the character that the next
insertion may be of and its place, and the state of the number that is being read: where it began,
the weight and the position of its next digit, and the bias of its thresholds. -/
structure Decoder where
  chars : List Char
  codePoint : Nat
  place : Nat
  start : Nat
  weight : Nat
  position : Nat
  bias : Nat
  deriving DecidableEq, Repr

namespace Decoder

/-- No insertion has been made. -/
def ofBasic (chars : List Char) : Decoder := ⟨chars, 0x80, 0, 0, 1, 36, 72⟩

/-- The numbers of a label are below this bound. -/
def bound : Nat := 0x100000000

/-- The label after a number: places beyond its end are those of later characters. -/
def insert? (decoder : Decoder) : Option Decoder :=
  let count := decoder.chars.length + 1
  let codePoint := decoder.codePoint + decoder.place / count
  let place := decoder.place % count
  if codePoint.isValidChar then
    some
      { chars := decoder.chars.insertIdx place (Char.ofNat codePoint)
        codePoint
        place := place + 1
        start := place + 1
        weight := 1
        position := 36
        bias := adapt (decoder.place - decoder.start) count (decoder.start == 0) }
  else none

/-- The label after one more digit. A digit below the threshold ends a number. -/
def step (decoder : Decoder) (c : Char) : Option Decoder := do
  let digit ← digit? c
  let place := decoder.place + digit * decoder.weight
  let threshold := threshold decoder.position decoder.bias
  let weight := decoder.weight * (36 - threshold)
  if bound ≤ place then none
  else if digit < threshold then insert? { decoder with place }
  else if bound ≤ weight then none
  else some { decoder with place, weight, position := decoder.position + 36 }

end Decoder

/-- The characters that stand as they are, and the digits behind the last hyphen. A hyphen in front
of everything is no separation. -/
def split (form : List Char) : List Char × List Char :=
  match form.reverse.dropWhile (· ≠ '-') with
  | _ :: basic =>
    if basic = [] then ([], form)
    else (basic.reverse, (form.reverse.takeWhile (· ≠ '-')).reverse)
  | [] => ([], form)

/-- The label that an ASCII form stands for. The last number has to be complete. -/
def decode? (form : List Char) : Option (List Char) := do
  let (basic, digits) := split form
  let decoder ← digits.foldlM Decoder.step (Decoder.ofBasic basic)
  if decoder.position = 36 ∧ basic.all (·.toNat < 0x80) then some decoder.chars else none

end Punycode

end PullReport
