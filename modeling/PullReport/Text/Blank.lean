/-!
# Blank characters

The characters that count as white space everywhere in this library: in configuration values, in
diff headers, between the words of a declaration and between the attributes of a tag. The class is
the Unicode property `White_Space`, not the ASCII one, so a no-break space separates words while a
zero-width space does not.

## Main definitions

* `Text.isBlank`: membership in the class.
* `Text.trimStart`, `Text.trimEnd`, `Text.trim`: a text without the blanks at its ends.
* `Text.nextWord?`: the first maximal run of non-blank characters, with what follows it.
* `Text.isBlankText`: nothing but blanks.
* `Text.afterBlanks?`: what follows a run of blanks that is not empty.
-/

namespace PullReport

namespace Text

/-- The Unicode property `White_Space`. The list is closed: the property is stable. -/
def isBlank (c : Char) : Bool :=
  let n := c.toNat
  (0x9 ≤ n && n ≤ 0xD) || n == 0x20 || n == 0x85 || n == 0xA0 || n == 0x1680
    || (0x2000 ≤ n && n ≤ 0x200A) || n == 0x2028 || n == 0x2029 || n == 0x202F || n == 0x205F
    || n == 0x3000

/-- The text from its first character that is not blank. -/
def trimStart (cs : List Char) : List Char := cs.dropWhile isBlank

/-- The text up to its last character that is not blank. -/
def trimEnd (cs : List Char) : List Char := (cs.reverse.dropWhile isBlank).reverse

/-- The text without the blanks at its two ends. -/
def trim (cs : List Char) : List Char := trimEnd (trimStart cs)

/-- Whether a text has no character but blanks; so the empty text is one. -/
def isBlankText (cs : List Char) : Bool := cs.all isBlank

/-- The first word of a text and what follows that word, if there is a word at all. -/
def nextWord? (cs : List Char) : Option (List Char × List Char) :=
  match trimStart cs with
  | [] => none
  | start => some (start.takeWhile (!isBlank ·), start.dropWhile (!isBlank ·))

/-- The text behind a run of blanks, of which there must be at least one. -/
def afterBlanks? : List Char → Option (List Char)
  | [] => none
  | c :: cs => if isBlank c then some (trimStart cs) else none

theorem length_of_afterBlanks? {cs rest : List Char} (h : afterBlanks? cs = some rest) :
    rest.length < cs.length := by
  cases cs with
  | nil => simp [afterBlanks?] at h
  | cons c cs =>
    simp only [afterBlanks?, Option.ite_none_right_eq_some, Option.some.injEq] at h
    obtain ⟨-, rfl⟩ := h
    have := (List.dropWhile_suffix isBlank (l := cs)).length_le
    simp only [trimStart, List.length_cons]
    omega

end Text

end PullReport
