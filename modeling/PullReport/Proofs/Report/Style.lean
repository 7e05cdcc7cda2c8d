import Mathlib.Data.List.Forall2
import PullReport.Proofs.Text.Runs
import PullReport.Report.Style
import PullReport.Text.Number

/-!
# Styled text without its styles

The escape sequences of styles can be taken out of a text again. What is left of a styled text is
the text, if it has no escape character of its own: an escape character would end up in front of
what follows and might make another sequence with it. Only by that character a sequence can start,
so a text without it is left as it is, whatever else is in it, and it can be looked at by itself,
whatever stands behind it.

## Main definitions

* `Style.withoutCodes`: a text without escape sequences for styles.
* `Style.Unstyles`: a text is what is left of another one.

## Main results

* `Style.unstyles_paint`: a styled text is left as the text.
* `Style.Unstyles.append`, `Style.Unstyles.join`: texts can be looked at one by one.
-/

namespace PullReport

namespace Style

open Text

/-! ### Escape sequences -/

/-- The characters of the codes of styles. -/
def isCodeChar (c : Char) : Bool := isDigit c || c = ';'

/-- What stands behind the escape sequence at the front of a text, if there is one. -/
def afterCodes? : List Char → Option (List Char)
  | '\x1b' :: '[' :: cs =>
    match cs.dropWhile isCodeChar with
    | 'm' :: rest => some rest
    | _ => none
  | _ => none

theorem afterCodes?_of_ne {c : Char} (h : c ≠ '\x1b') (cs : List Char) :
    afterCodes? (c :: cs) = none := by
  rw [afterCodes?.eq_def]
  split
  · rename_i heq
    exact absurd (List.cons.inj heq).1 h
  · rfl

theorem length_of_afterCodes? {cs rest : List Char} (h : afterCodes? cs = some rest) :
    rest.length < cs.length := by
  rw [afterCodes?.eq_def] at h
  split at h
  · rename_i inner
    split at h
    · rename_i heq
      obtain rfl := Option.some.inj h
      have hsuffix := (List.dropWhile_suffix (l := inner) isCodeChar).length_le
      rw [heq, List.length_cons] at hsuffix
      rw [List.length_cons, List.length_cons]
      omega
    · cases h
  · cases h

/-- A text without its escape sequences, which are looked for from the front. -/
def withoutCodes : List Char → List Char
  | [] => []
  | c :: cs =>
    match _h : afterCodes? (c :: cs) with
    | some rest => withoutCodes rest
    | none => c :: withoutCodes cs
termination_by cs => cs.length
decreasing_by
  · exact length_of_afterCodes? ‹_›
  · exact Nat.lt_succ_self _

theorem withoutCodes_of_afterCodes? {cs rest : List Char} (h : afterCodes? cs = some rest) :
    withoutCodes cs = withoutCodes rest := by
  cases cs with
  | nil => cases h
  | cons c cs =>
    rw [withoutCodes.eq_def]
    split
    · rename_i heq
      cases heq
    · rename_i heq
      obtain ⟨rfl, rfl⟩ := List.cons.inj heq
      split
      · rename_i hrest
        rw [Option.some.inj (h.symm.trans hrest)]
      · rename_i hnone
        cases h.symm.trans hnone

theorem withoutCodes_cons {c : Char} (h : c ≠ '\x1b') (cs : List Char) :
    withoutCodes (c :: cs) = c :: withoutCodes cs := by
  rw [withoutCodes]
  split
  · rename_i hrest
    cases (afterCodes?_of_ne h cs).symm.trans hrest
  · rfl

theorem withoutCodes_append {text : List Char} (h : '\x1b' ∉ text) (rest : List Char) :
    withoutCodes (text ++ rest) = text ++ withoutCodes rest := by
  induction text with
  | nil => rfl
  | cons c text ih =>
    rw [List.mem_cons, not_or] at h
    rw [List.cons_append, withoutCodes_cons (Ne.symm h.1), ih h.2, List.cons_append]

theorem withoutCodes_sequence {codes : List Char} (h : ∀ c ∈ codes, isCodeChar c = true)
    (rest : List Char) :
    withoutCodes ('\x1b' :: '[' :: (codes ++ 'm' :: rest)) = withoutCodes rest := by
  refine withoutCodes_of_afterCodes? ?_
  have hend : ∀ c ∈ ('m' :: rest).head?, isCodeChar c = false := by
    rintro c hc
    obtain rfl := Option.some.inj hc
    decide
  simp only [afterCodes?, dropWhile_append_of_head h hend]

/-! ### Styles -/

/-- The sequence that starts a style is one of those that are taken out. -/
theorem withoutCodes_opening (style : Style) (rest : List Char) :
    withoutCodes (style.opening ++ rest) = withoutCodes rest := by
  have hcodes : style.codes.toList.all isCodeChar = true := by cases style <;> decide
  simpa [opening] using withoutCodes_sequence (List.all_eq_true.1 hcodes) rest

theorem withoutCodes_reset (rest : List Char) :
    withoutCodes (reset ++ rest) = withoutCodes rest :=
  withoutCodes_sequence (List.forall_mem_singleton.2 (by decide : isCodeChar '0' = true)) rest

/-- Where there is no reset, there is nothing to open again. -/
theorem reopen_of_not_mem {cs : List Char} (h : '\x1b' ∉ cs) (again : List Char) :
    reopen again cs = cs := by
  fun_induction reopen again cs with
  | case1 => exact absurd List.mem_cons_self h
  | case2 c cs _ ih => rw [ih fun hmem => h (List.mem_cons_of_mem _ hmem)]
  | case3 => rfl

/-- A text is what is left of another one, whatever stands behind. -/
def Unstyles (styled plain : String) : Prop :=
  ∀ rest, withoutCodes (styled.toList ++ rest) = plain.toList ++ withoutCodes rest

namespace Unstyles

variable {styled plain styled' plain' : String}

/-- A text without escape characters is left as it is. -/
theorem of_not_mem {text : String} (h : '\x1b' ∉ text.toList) : Unstyles text text :=
  withoutCodes_append h

theorem append (h : Unstyles styled plain) (h' : Unstyles styled' plain') :
    Unstyles (styled ++ styled') (plain ++ plain') := by
  intro rest
  rw [String.toList_append, String.toList_append, List.append_assoc, h, h', List.append_assoc]

/-- Texts that are joined can be looked at one by one. -/
theorem join {styleds plains : List String} (h : List.Forall₂ Unstyles styleds plains) :
    Unstyles (String.join styleds) (String.join plains) := by
  induction h with
  | nil => exact fun _ => rfl
  | cons hhead _ ih =>
    rw [String.join_cons, String.join_cons]
    exact hhead.append ih

theorem withoutCodes_eq (h : Unstyles styled plain) :
    withoutCodes styled.toList = plain.toList := by
  have hrest := h []
  rwa [List.append_nil, withoutCodes, List.append_nil] at hrest

end Unstyles

/-- **A styled text** is left as the text. -/
theorem unstyles_paint {text : String} (h : '\x1b' ∉ text.toList) (style : Style) :
    Unstyles (style.paint true text) (style.paint false text) := by
  intro rest
  rw [paint, paint, if_pos rfl, if_neg Bool.false_ne_true, String.toList_ofList,
    reopen_of_not_mem h, List.append_assoc, List.append_assoc, withoutCodes_opening,
    withoutCodes_append h, withoutCodes_reset]

end Style

end PullReport
