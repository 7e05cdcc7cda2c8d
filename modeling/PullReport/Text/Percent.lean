import PullReport.Text.Number

/-!
# Percent-encoding

Characters that cannot stand in an address or a form are written as the bytes of their UTF-8 form,
each as a percent sign and two hexadecimal digits. Which characters are kept is up to the place
where the text will stand.

## Main definitions

* `Text.utf8`: the bytes of a text.
* `Text.percentEncode`: a text with all characters but the kept ones encoded.
* `Text.percentDecode`: the bytes of a text with its encoded bytes read back.
* `Text.formEncode`, `Text.formBody`: texts and fields in the encoding of web forms.
-/

namespace PullReport

namespace Text

/-- The UTF-8 bytes of a text. -/
def utf8 (cs : List Char) : List UInt8 := cs.flatMap String.utf8EncodeChar

/-- A byte in encoded form. -/
def percentByte (byte : UInt8) : List Char :=
  ['%', upperHexDigit (byte.toNat / 16), upperHexDigit (byte.toNat % 16)]

/-- A text in which every character that is not kept is encoded. -/
def percentEncode (keeps : Char → Bool) (cs : List Char) : List Char :=
  cs.flatMap fun c => if keeps c then [c] else (String.utf8EncodeChar c).flatMap percentByte

/-- The bytes of a text, with every encoded byte read back. A percent sign without two digits behind
it stands for itself. -/
def percentDecode : List Char → List UInt8
  | '%' :: high :: low :: cs =>
    match hexValue? high, hexValue? low with
    | some h, some l => UInt8.ofNat (16 * h + l) :: percentDecode cs
    | _, _ => 0x25 :: percentDecode (high :: low :: cs)
  | c :: cs => String.utf8EncodeChar c ++ percentDecode cs
  | [] => []

/-! ### Forms -/

/-- The characters that stand for themselves in a form. -/
def keptInForm (c : Char) : Bool :=
  c.isAlphanum || c == '*' || c == '-' || c == '.' || c == '_'

/-- A text in a form: a space is a plus sign, all else is kept or percent-encoded. -/
def formEncode (cs : List Char) : List Char :=
  cs.flatMap fun c => if c = ' ' then ['+'] else percentEncode keptInForm [c]

/-- A form as one text: the fields in order, name and value encoded. -/
def formBody (fields : List (String × String)) : String :=
  "&".intercalate (fields.map fun (name, value) =>
    String.ofList (formEncode name.toList ++ '=' :: formEncode value.toList))

end Text

end PullReport
