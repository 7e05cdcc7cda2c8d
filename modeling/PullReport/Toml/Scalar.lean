import PullReport.Toml.Basic
import PullReport.Text.Number

/-!
# TOML numbers, truth values and dates

No setting takes a value of these sorts, but a document that holds a malformed one is malformed
itself. So this module recognises them and keeps nothing of their values. They are written without
blanks, except that one blank may stand between a date and a time.

## Main definitions

* `Toml.isIntegerText`, `Toml.isFloatText`, `Toml.isDateTime`: the sorts of words.
* `Toml.scalar?`: the scalar at the front of a text.
-/

namespace PullReport

namespace Toml

open Text

/-! ### Numbers -/

/-- Digits, with single underscores between them at will. -/
def isDigitRun (isDigit : Char → Bool) : List Char → Bool
  | [] => false
  | [c] => isDigit c
  | c :: '_' :: cs => isDigit c && isDigitRun isDigit cs
  | c :: cs => isDigit c && isDigitRun isDigit cs

/-- Digits and underscores without a leading zero, or the single zero. -/
def isWholePart : List Char → Bool
  | ['0'] => true
  | '0' :: _ => false
  | cs => isDigitRun isDigit cs

/-- The value of digits in a base, underscores left out. -/
def valueInBase (base : Nat) (cs : List Char) : Nat :=
  (cs.filterMap hexValue?).foldl (fun n digit => base * n + digit) 0

/-- The first number that takes more than 63 bits. With a minus sign it just fits into 64. -/
def signedBound : Nat := 0x8000000000000000

/-- Whether digits in a base, without a sign, make a number of at most 63 bits. -/
def fitsInBase (base : Nat) (cs : List Char) : Bool :=
  isDigitRun (fun c => (hexValue? c).any (· < base)) cs && valueInBase base cs < signedBound

/-- A word without its sign, and whether the sign was a minus. -/
def splitSign : List Char → Bool × List Char
  | '-' :: cs => (true, cs)
  | '+' :: cs => (false, cs)
  | cs => (false, cs)

/-- An integer of 64 bits, in decimal with a sign at will, or without a sign in one of three other
bases. -/
def isIntegerText : List Char → Bool
  | '0' :: 'x' :: cs => fitsInBase 16 cs
  | '0' :: 'o' :: cs => fitsInBase 8 cs
  | '0' :: 'b' :: cs => fitsInBase 2 cs
  | cs =>
    let (negative, digits) := splitSign cs
    isWholePart digits &&
      valueInBase 10 digits < (if negative then signedBound + 1 else signedBound)

/-- The parts of a float: the digits in front of the point, those behind it, and the exponent with
its sign. A missing part is empty. -/
structure FloatText where
  whole : List Char
  fraction : List Char
  exponent : List Char

/-- Whether a character belongs to the digits of a float. -/
def isFloatDigit (c : Char) : Bool := isDigit c || c == '_'

/-- An exponent without its letter. -/
def isExponentText (cs : List Char) : Bool := isDigitRun isDigit (splitSign cs).2

/-- The exponent behind the digits of a float: none, or a letter and an exponent. -/
def exponent? : List Char → Option (List Char)
  | [] => some []
  | 'e' :: cs => if isExponentText cs then some cs else none
  | 'E' :: cs => if isExponentText cs then some cs else none
  | _ => none

/-- The parts of a float without its sign. It has a fraction, an exponent or both. -/
def FloatText.ofUnsigned? (cs : List Char) : Option FloatText :=
  let whole := cs.takeWhile isFloatDigit
  if ¬ isWholePart whole then none
  else
    match cs.dropWhile isFloatDigit with
    | [] => none
    | '.' :: behind =>
      let fraction := behind.takeWhile isFloatDigit
      if isDigitRun isDigit fraction then
        (exponent? (behind.dropWhile isFloatDigit)).map (⟨whole, fraction, ·⟩)
      else none
    | behind => (exponent? behind).map (⟨whole, [], ·⟩)

/-- The least number that is nearer to infinity than to the largest float of 64 bits. -/
def floatBound : Nat := Nat.pow 2 1024 - Nat.pow 2 970

/-- Whether a float is so large that the nearest number of 64 bits would be infinite. With `d`
digits from the first one that is not zero, and the point `e` places behind the last of them, the
value lies between `10 ^ (d + e - 1)` and `10 ^ (d + e)`; only close to the limit is it computed. -/
def FloatText.overflows (f : FloatText) : Bool :=
  let (negative, digits) := splitSign f.exponent
  let size := valueInBase 10 digits
  let places : Int := (if negative then -(size : Int) else size)
    - (f.fraction.filter isDigit).length
  let mantissa := valueInBase 10 (f.whole ++ f.fraction)
  let digitCount := ((f.whole ++ f.fraction).filter isDigit).dropWhile (· = '0') |>.length
  if mantissa = 0 ∨ digitCount + places < 309 then false
  else if digitCount + places > 309 then true
  else if 0 ≤ places then floatBound ≤ mantissa * Nat.pow 10 places.toNat
  else floatBound * Nat.pow 10 (-places).toNat ≤ mantissa

/-- A float, or one of the words for infinity and for no number. A float that would round to
positive infinity is refused. -/
def isFloatText (cs : List Char) : Bool :=
  let (negative, unsigned) := splitSign cs
  if unsigned = "inf".toList ∨ unsigned = "nan".toList then true
  else
    match FloatText.ofUnsigned? unsigned with
    | none => false
    | some f => negative || !f.overflows

/-! ### Dates and times -/

/-- The value of two digits. -/
def twoDigits? (c d : Char) : Option Nat :=
  if isDigit c && isDigit d then some (10 * digitValue c + digitValue d) else none

/-- Whether two digits make a number between two bounds. -/
def isBetween (low high : Nat) (c d : Char) : Bool :=
  (twoDigits? c d).any fun n => low ≤ n && n ≤ high

/-- The number of days of a month. -/
def daysIn (year month : Nat) : Nat :=
  if month = 2 then
    if year % 4 = 0 ∧ (year % 100 ≠ 0 ∨ year % 400 = 0) then 29 else 28
  else if month ∈ [4, 6, 9, 11] then 30
  else 31

/-- A date of the calendar, with a year of four digits. -/
def isDate : List Char → Bool
  | [y₁, y₂, y₃, y₄, '-', m₁, m₂, '-', d₁, d₂] =>
    match twoDigits? y₁ y₂, twoDigits? y₃ y₄, twoDigits? m₁ m₂ with
    | some century, some year, some month =>
      1 ≤ month && month ≤ 12 && isBetween 1 (daysIn (100 * century + year) month) d₁ d₂
    | _, _, _ => false
  | _ => false

/-- The text behind a time of day, which has seconds and may have a fraction of a second. -/
def afterTime? : List Char → Option (List Char)
  | h₁ :: h₂ :: ':' :: m₁ :: m₂ :: ':' :: s₁ :: s₂ :: cs =>
    if isBetween 0 23 h₁ h₂ && isBetween 0 59 m₁ m₂ && isBetween 0 60 s₁ s₂ then
      match cs with
      | '.' :: d :: rest => if isDigit d then some (rest.dropWhile isDigit) else none
      | _ => some cs
    else none
  | _ => none

/-- An offset from universal time, or none at all. -/
def isOffset : List Char → Bool
  | [] => true
  | ['Z'] => true
  | ['z'] => true
  | [sign, h₁, h₂, ':', m₁, m₂] =>
    (sign == '+' || sign == '-') && isBetween 0 23 h₁ h₂ && isBetween 0 59 m₁ m₂
  | _ => false

/-- A time of day as it follows a date. -/
def isTimeWithOffset (cs : List Char) : Bool := (afterTime? cs).any isOffset

/-- A date, a time of day, or both with a letter between them. -/
def isDateTime (cs : List Char) : Bool :=
  afterTime? cs = some [] ||
    isDate (cs.take 10) &&
      match cs.drop 10 with
      | [] => true
      | 'T' :: time => isTimeWithOffset time
      | 't' :: time => isTimeWithOffset time
      | _ => false

/-! ### Scalars -/

/-- Whether a character can stand in one of these scalars. -/
def isScalarChar (c : Char) : Bool :=
  c.isAlphanum || c == '+' || c == '-' || c == '_' || c == '.' || c == ':'

/-- The value that a word stands for. -/
def ofWord? (word : List Char) : Option Toml :=
  if word = "true".toList ∨ word = "false".toList then some plain
  else if isDateTime word then some date
  else if isFloatText word ∨ isIntegerText word then some plain
  else none

/-- The scalar at the front of a text, and what follows it. A date takes a time behind one blank
along with it. -/
def scalar? (cs : List Char) : Option (Toml × List Char) :=
  let word := cs.takeWhile isScalarChar
  match cs.dropWhile isScalarChar with
  | ' ' :: rest =>
    let second := rest.takeWhile isScalarChar
    if isDate word ∧ isTimeWithOffset second then
      some (date, rest.dropWhile isScalarChar)
    else (ofWord? word).map ((·, ' ' :: rest))
  | rest => (ofWord? word).map ((·, rest))

end Toml

end PullReport
