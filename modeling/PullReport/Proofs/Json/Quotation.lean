import PullReport.Json.Printer
import PullReport.Proofs.Json.Grammar

/-!
# Reading quoted texts back

A text that is written as a JSON string is read back as the same text. What a character is escaped
to is one spelling of it, so a quoted text is one of the ways in which a string can be written, and
the lexer reads all of them.

## Main results

* `Json.spellsUnit_escape`, `Json.writesString_quote`: what a character is escaped to, and a whole
  quoted text.
* `Json.read?_singleton`: an object with a text as its only member.
-/

namespace PullReport

namespace Json

open Text

theorem hexValue?_lowerHexDigit {n : Nat} (h : n < 16) : hexValue? (lowerHexDigit n) = some n := by
  have hdigits : ∀ n < 16, hexValue? (lowerHexDigit n) = some n := by decide
  exact hdigits n h

/-- A number with two digits at the end that matter. -/
theorem isHexUnit_of_lt {n : Nat} (h : n < 256) :
    IsHexUnit n ['0', '0', lowerHexDigit (n / 16), lowerHexDigit (n % 16)] := by
  have hhigh : hexValue? (lowerHexDigit (n / 16)) = some (n / 16) :=
    hexValue?_lowerHexDigit (by omega)
  have hlow : hexValue? (lowerHexDigit (n % 16)) = some (n % 16) :=
    hexValue?_lowerHexDigit (by omega)
  have hzero : hexValue? '0' = some 0 := rfl
  have hunit := IsHexUnit.mk hzero hzero hhigh hlow
  rwa [show 0x1000 * 0 + 0x100 * 0 + 0x10 * (n / 16) + n % 16 = n by omega] at hunit

/-- **One character.** What it is escaped to spells it. -/
theorem spellsUnit_escape (c : Char) : SpellsUnit c.toNat (escape c) := by
  rw [escape]
  split_ifs with hquote hbackslash hbackspace hformFeed hfeed hreturn htab hcontrol
  · subst hquote
    exact .short rfl
  · subst hbackslash
    exact .short rfl
  · subst hbackspace
    exact .short rfl
  · subst hformFeed
    exact .short rfl
  · subst hfeed
    exact .short rfl
  · subst hreturn
    exact .short rfl
  · subst htab
    exact .short rfl
  · exact .number (isHexUnit_of_lt (by omega))
  · exact .plain hquote hbackslash (Nat.le_of_not_lt hcontrol)

theorem spellsUnits_flatMap_escape (cs : List Char) :
    SpellsUnits (cs.map Char.toNat) (cs.flatMap escape) := by
  induction cs with
  | nil => exact .nil
  | cons c cs ih => exact .cons (spellsUnit_escape c) ih

/-- **A quoted text** is a string that spells the text. -/
theorem writesString_quote (text : String) : WritesString (some text) (quote text) :=
  .text (spellsUnits_flatMap_escape text.toList) (denotes_map_toNat text.toList)

/-- **An object with one member** is read back with its name and its text. -/
theorem read?_singleton (name text : String) :
    read? (singleton name text) = some (.object [(some name, .string (some text))]) := by
  have hmember := Writes.bareMember (writesString_quote name) (.string (writesString_quote text))
  refine read?_of_writes ?_
  rw [singleton, String.toList_ofList]
  exact Writes.bare (.object (.lastMember hmember))

end Json

end PullReport
