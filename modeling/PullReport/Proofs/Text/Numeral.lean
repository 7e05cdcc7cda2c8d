import PullReport.Text.Number

/-!
# Numerals of numbers

Which texts are read as numbers. Whoever issues a number keeps it in 64 bits, so a numeral has a
bound, but it has no shortest form: there may be zeros in front, and one plus sign in front of
these.

## Main definitions

* `Text.IsNumeral`: a text is a numeral of a number.

## Main results

* `Text.number?_eq_some_iff`: numerals are what is read as a number.
* `Text.isNumeral_toString`: a number is printed as a numeral of it.
-/

namespace PullReport

namespace Text

variable {cs : List Char} {n : Nat}

/-- The digits of a number: one or more, with a value below `2 ^ 64`. -/
structure IsDigits (cs : List Char) (n : Nat) : Prop where
  ne_nil : cs ≠ []
  isDigit : ∀ c ∈ cs, isDigit c = true
  value : decimal cs = n
  bound : n < Nat.pow 2 64

/-- A text is a numeral of a number: its digits, with one plus sign in front of them or none. -/
def IsNumeral (cs : List Char) (n : Nat) : Prop :=
  ∃ sign digits, cs = sign ++ digits ∧ (sign = [] ∨ sign = ['+']) ∧ IsDigits digits n

theorem word64?_eq_some_iff : word64? cs = some n ↔ IsDigits cs n := by
  rw [word64?, Option.ite_none_right_eq_some, Option.some.injEq, List.all_eq_true]
  constructor
  · rintro ⟨⟨hne, hdigits, hbound⟩, rfl⟩
    exact ⟨hne, hdigits, rfl, hbound⟩
  · rintro ⟨hne, hdigits, rfl, hbound⟩
    exact ⟨⟨hne, hdigits, hbound⟩, rfl⟩

/-- A plus sign is no digit, so it is clear where the digits start. -/
theorem IsDigits.head?_ne (h : IsDigits cs n) : cs.head? ≠ some '+' := by
  intro hhead
  have hdigit := h.isDigit '+' (List.mem_of_mem_head? hhead)
  revert hdigit
  decide

/-- **What is read as a number** are its numerals. -/
theorem number?_eq_some_iff : number? cs = some n ↔ IsNumeral cs n := by
  constructor
  · intro h
    rw [number?.eq_def] at h
    split at h
    · exact ⟨['+'], _, rfl, .inr rfl, word64?_eq_some_iff.1 h⟩
    · exact ⟨[], _, rfl, .inl rfl, word64?_eq_some_iff.1 h⟩
  · rintro ⟨sign, digits, rfl, rfl | rfl, hdigits⟩
    · rw [List.nil_append, number?.eq_def]
      split
      · exact absurd rfl hdigits.head?_ne
      · exact word64?_eq_some_iff.2 hdigits
    · exact word64?_eq_some_iff.2 hdigits

/-! ### Printed numbers -/

theorem isDigit_of_mem_toString {n : Nat} {c : Char} (h : c ∈ (toString n).toList) :
    c.isDigit = true := by
  rw [show toString n = n.repr from rfl, Nat.toList_repr] at h
  exact Nat.isDigit_of_mem_toDigits (by decide) (by decide) h

/-- The value of a printed number. -/
theorem decimal_toString (n : Nat) : decimal (toString n).toList = n := by
  rw [show toString n = n.repr from rfl, Nat.toList_repr]
  exact Nat.ofDigitChars_toDigits (by decide) (by decide)

theorem toList_toString_ne_nil (n : Nat) : (toString n).toList ≠ [] := by
  rw [show toString n = n.repr from rfl, Nat.toList_repr]
  exact Nat.toDigits_ne_nil

/-- A number that is printed is its own numeral, as long as it fits into 64 bits. -/
theorem isNumeral_toString {n : Nat} (h : n < Nat.pow 2 64) : IsNumeral (toString n).toList n := by
  refine ⟨[], (toString n).toList, rfl, .inl rfl, toList_toString_ne_nil n, fun c hc => ?_,
    decimal_toString n, h⟩
  have hdigit := isDigit_of_mem_toString hc
  rw [Char.isDigit, Bool.and_eq_true] at hdigit
  rw [isDigit, Bool.and_eq_true]
  exact hdigit

end Text

end PullReport
