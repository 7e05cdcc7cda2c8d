/-!
# Styled text

Text for a terminal that understands colour codes. A style opens with an escape sequence and is
closed by a reset. A reset inside the styled text would end the style early, so the style is opened
again right behind it.

## Main definitions

* `Style`: a style as the codes of its escape sequence.
* `Style.paint`: a text in a style, or the bare text when colours are off.
-/

namespace PullReport

/-- A text style. -/
inductive Style where
  | bold
  | dimmed
  | red
  | green
  | yellow
  | boldRed
  | boldGreen
  deriving DecidableEq, Repr

namespace Style

/-- The codes of a style, weight before colour. -/
def codes : Style → String
  | bold => "1"
  | dimmed => "2"
  | red => "31"
  | green => "32"
  | yellow => "33"
  | boldRed => "1;31"
  | boldGreen => "1;32"

/-- The escape sequence that starts a style. -/
def opening (style : Style) : List Char := ['\x1b', '['] ++ style.codes.toList ++ ['m']

/-- The escape sequence that ends every style. -/
def reset : List Char := ['\x1b', '[', '0', 'm']

/-- A text in which the sequence `again` follows every reset. -/
def reopen (again : List Char) : List Char → List Char
  | '\x1b' :: '[' :: '0' :: 'm' :: cs => reset ++ again ++ reopen again cs
  | c :: cs => c :: reopen again cs
  | [] => []

/-- A text in a style, if colours are on. -/
def paint (colour : Bool) (style : Style) (text : String) : String :=
  if colour then
    String.ofList (style.opening ++ reopen style.opening text.toList ++ reset)
  else text

end Style

end PullReport
