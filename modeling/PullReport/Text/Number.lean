/-!
# Numerals

Decimal numerals as they come in from configuration, payloads and addresses. All of them are held in
a word of 64 bits by whoever issues them, so a numeral of a larger value is no number here.

## Main definitions

* `Text.isDigit`: the ten ASCII digits.
* `Text.decimal`: the value of a run of digits.
* `Text.word64?`: the value of a run of digits that fits into 64 bits.
* `Text.number?`: the same with at most one plus sign in front.
* `Text.hexValue?`, `Text.lowerHexDigit`, `Text.upperHexDigit`: single hexadecimal digits.
-/

namespace PullReport

namespace Text

/-- The ten ASCII digits; digits of other scripts are not read as numbers. -/
def isDigit (c : Char) : Bool := '0' ≤ c && c ≤ '9'

/-- The value of a digit. -/
def digitValue (c : Char) : Nat := c.toNat - '0'.toNat

/-- The value of a run of digits, most significant first. -/
def decimal (digits : List Char) : Nat := digits.foldl (fun n c => 10 * n + digitValue c) 0

/-- The first number that takes more than 64 bits. -/
def wordBound : Nat := 0x10000000000000000

/-- The value of a run of at least one digit, if it fits into 64 bits. Leading zeros are allowed. -/
def word64? (cs : List Char) : Option Nat :=
  if cs ≠ [] ∧ cs.all isDigit ∧ decimal cs < wordBound then some (decimal cs) else none

/-- The value of a numeral that may have one plus sign in front. -/
def number? : List Char → Option Nat
  | '+' :: cs => word64? cs
  | cs => word64? cs

/-! ### Hexadecimal digits -/

/-- The value of a hexadecimal digit of either case. -/
def hexValue? (c : Char) : Option Nat :=
  if '0' ≤ c ∧ c ≤ '9' then some (c.toNat - '0'.toNat)
  else if 'a' ≤ c ∧ c ≤ 'f' then some (c.toNat - 'a'.toNat + 10)
  else if 'A' ≤ c ∧ c ≤ 'F' then some (c.toNat - 'A'.toNat + 10)
  else none

/-- A number below 16 as a digit, with lower-case letters. -/
def lowerHexDigit (n : Nat) : Char :=
  if n < 10 then Char.ofNat ('0'.toNat + n) else Char.ofNat ('a'.toNat + (n - 10))

/-- A number below 16 as a digit, with upper-case letters. -/
def upperHexDigit (n : Nat) : Char :=
  if n < 10 then Char.ofNat ('0'.toNat + n) else Char.ofNat ('A'.toNat + (n - 10))

end Text

end PullReport
