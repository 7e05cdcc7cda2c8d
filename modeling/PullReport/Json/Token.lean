import PullReport.Json.Basic

/-!
# JSON tokens

Cutting a JSON text into tokens is one step per character: `Lexer.step` takes the state between two
characters to the tokens completed by the next one and the state behind it. A numeral or a word ends
at the first character that cannot continue it, and that character is then read on its own.

## Main definitions

* `Json.Token`: brackets, separators, strings and the other scalars.
* `Json.Lexer`: the states; `Lexer.step` reads a character, `Lexer.completed?` the end of the text.
-/

namespace PullReport

namespace Json

/-- A token. Strings are apart from the other scalars, since they also name members. -/
inductive Token where
  | openArray
  | closeArray
  | openObject
  | closeObject
  | comma
  | colon
  | text (value : Option String)
  | scalar (value : Json)
  deriving Repr

/-! ### Strings -/

/-- Whether a code unit is the first half of a surrogate pair. -/
def isHighSurrogate (unit : Nat) : Bool := 0xD800 ≤ unit && unit ≤ 0xDBFF

/-- Whether a code unit is the second half of a surrogate pair. -/
def isLowSurrogate (unit : Nat) : Bool := 0xDC00 ≤ unit && unit ≤ 0xDFFF

/-- The character that a surrogate pair stands for. -/
def ofSurrogates (high low : Nat) : Char :=
  Char.ofNat (0x10000 + (high - 0xD800) * 0x400 + (low - 0xDC00))

/-- The characters that a sequence of code points and surrogates stands for, with the given
characters behind them, if every surrogate has its other half next to it. The sequence comes last
one first, so the second half of a pair is met before the first. -/
def ofUnits? (behind : List Char) : List Nat → Option (List Char)
  | [] => some behind
  | unit :: before =>
    if isLowSurrogate unit then
      match before with
      | [] => none
      | high :: before =>
        if isHighSurrogate high then ofUnits? (ofSurrogates high unit :: behind) before else none
    else if isHighSurrogate unit then none
    else ofUnits? (Char.ofNat unit :: behind) before

/-- The character that a one-letter escape stands for. -/
def simpleEscape? : Char → Option Char
  | '"' => some '"'
  | '\\' => some '\\'
  | '/' => some '/'
  | 'b' => some '\x08'
  | 'f' => some '\x0c'
  | 'n' => some '\n'
  | 'r' => some '\r'
  | 't' => some '\t'
  | _ => none

/-! ### Numerals and words -/

/-- Whether a character can stand in a numeral. -/
def isNumeralChar (c : Char) : Bool :=
  Text.isDigit c || c == '+' || c == '-' || c == '.' || c == 'e' || c == 'E'

/-- Digits without a leading zero, or the single zero. -/
def isIntegerPart : List Char → Bool
  | ['0'] => true
  | '0' :: _ => false
  | digits => digits ≠ [] && digits.all Text.isDigit

/-- An exponent: empty, or the letter, perhaps a sign, and at least one digit. -/
def isExponent : List Char → Bool
  | [] => true
  | e :: '+' :: digits => (e == 'e' || e == 'E') && digits ≠ [] && digits.all Text.isDigit
  | e :: '-' :: digits => (e == 'e' || e == 'E') && digits ≠ [] && digits.all Text.isDigit
  | e :: digits => (e == 'e' || e == 'E') && digits ≠ [] && digits.all Text.isDigit

/-- A fraction, which is empty or has at least one digit behind its point, and an exponent. -/
def isFractionAndExponent : List Char → Bool
  | '.' :: cs =>
    cs.takeWhile Text.isDigit ≠ [] && isExponent (cs.dropWhile Text.isDigit)
  | cs => isExponent cs

/-- A numeral without its sign. -/
def isUnsignedNumeral (cs : List Char) : Bool :=
  isIntegerPart (cs.takeWhile Text.isDigit) && isFractionAndExponent (cs.dropWhile Text.isDigit)

/-- Whether a text is a JSON numeral. -/
def isNumeral : List Char → Bool
  | '-' :: cs => isUnsignedNumeral cs
  | cs => isUnsignedNumeral cs

/-- The scalar that a word of letters stands for. -/
def ofWord? (word : List Char) : Option Json :=
  if word = "null".toList then some null
  else if word = "true".toList then some (bool true)
  else if word = "false".toList then some (bool false)
  else none

/-! ### The steps -/

/-- What the characters read so far are part of. Unfinished tokens hold their characters, or code
units, last one first. -/
inductive Lexer where
  | between
  | inString (units : List Nat)
  | afterBackslash (units : List Nat)
  | inUnicode (units : List Nat) (value : Nat) (missing : Nat)
  | inNumeral (chars : List Char)
  | inWord (chars : List Char)
  deriving Repr

namespace Lexer

/-- A character that stands between two tokens or starts one. -/
def start? (c : Char) : Option (List Token × Lexer) :=
  if c = ' ' ∨ c = '\n' ∨ c = '\r' ∨ c = '\t' then some ([], between)
  else if c = '[' then some ([.openArray], between)
  else if c = ']' then some ([.closeArray], between)
  else if c = '\x7b' then some ([.openObject], between)
  else if c = '\x7d' then some ([.closeObject], between)
  else if c = ',' then some ([.comma], between)
  else if c = ':' then some ([.colon], between)
  else if c = '"' then some ([], inString [])
  else if c = '-' ∨ Text.isDigit c then some ([], inNumeral [c])
  else if c.isLower then some ([], inWord [c])
  else none

/-- The token that is complete when a numeral or a word ends. -/
def completed? : Lexer → Option (List Token)
  | between => some []
  | inNumeral chars =>
    if isNumeral chars.reverse then some [.scalar (number chars.reverse)] else none
  | inWord chars => (ofWord? chars.reverse).map fun value => [.scalar value]
  | _ => none

/-- The tokens completed by one character, and the state behind it. -/
def step (state : Lexer) (c : Char) : Option (List Token × Lexer) :=
  match state with
  | between => start? c
  | inString units =>
    if c = '"' then some ([.text ((ofUnits? [] units).map String.ofList)], between)
    else if c = '\\' then some ([], afterBackslash units)
    else if c.toNat < 0x20 then none
    else some ([], inString (c.toNat :: units))
  | afterBackslash units =>
    if c = 'u' then some ([], inUnicode units 0 4)
    else (simpleEscape? c).map fun d => ([], inString (d.toNat :: units))
  | inUnicode units value missing =>
    (Text.hexValue? c).map fun digit =>
      let value := 16 * value + digit
      if missing ≤ 1 then ([], inString (value :: units))
      else ([], inUnicode units value (missing - 1))
  | inNumeral chars =>
    if isNumeralChar c then some ([], inNumeral (c :: chars))
    else do
      let before ← completed? state
      let (tokens, next) ← start? c
      return (before ++ tokens, next)
  | inWord chars =>
    if c.isLower then some ([], inWord (c :: chars))
    else do
      let before ← completed? state
      let (tokens, next) ← start? c
      return (before ++ tokens, next)

end Lexer

end Json

end PullReport
