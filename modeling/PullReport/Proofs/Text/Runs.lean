import PullReport.Proofs.Text.Reading
import PullReport.Text.Word

/-!
# Runs of blanks and of word characters

A reader that passes over a run of characters stops at the first character of another class. So it
takes exactly the run that stands at the front of a text if something else stands behind it. No
character is both a blank and part of a word, so that a run of one class is always ended by one of
the other.

## Main definitions

* `Text.IsGap`: one blank or more.
* `Text.IsName`: one word character or more.

## Main results

* `Text.isWord_of_isBlank`: blanks are no word characters.
* `Text.takeWord_append`, `Text.dropWord_append`, `Text.trimStart_append`: where runs end.
* `Text.exists_blanks_trim`: the blanks at the ends of a text.
* `Text.afterBlanks?_eq_some_iff`, `Text.enclosed?_eq_some_iff`: readers that pass over one run.
-/

namespace PullReport

namespace Text

/-! ### Any class -/

section Class

variable {p : Char → Bool} {front rest : List Char}

theorem takeWhile_append_of_head (hfront : ∀ c ∈ front, p c = true)
    (hrest : ∀ c ∈ rest.head?, p c = false) : (front ++ rest).takeWhile p = front := by
  rw [List.takeWhile_append_of_pos hfront]
  cases rest with
  | nil => rw [List.takeWhile_nil, List.append_nil]
  | cons c rest =>
    rw [List.takeWhile_cons_of_neg (by simp [hrest c rfl]), List.append_nil]

theorem dropWhile_append_of_head (hfront : ∀ c ∈ front, p c = true)
    (hrest : ∀ c ∈ rest.head?, p c = false) : (front ++ rest).dropWhile p = rest := by
  rw [List.dropWhile_append_of_pos hfront]
  cases rest with
  | nil => rfl
  | cons c rest => rw [List.dropWhile_cons_of_neg (by simp [hrest c rfl])]

/-- A run of some characters ends at a character of another class at the latest. -/
theorem takeWhile_append_cons {c : Char} (hc : p c = false) (front rest : List Char) :
    (front ++ c :: rest).takeWhile p = front.takeWhile p := by
  induction front with
  | nil => simp [hc]
  | cons d front ih => simp only [List.cons_append, List.takeWhile_cons, ih]

theorem dropWhile_append_cons {c : Char} (hc : p c = false) (front rest : List Char) :
    (front ++ c :: rest).dropWhile p = front.dropWhile p ++ c :: rest := by
  induction front with
  | nil => simp [hc]
  | cons d front ih =>
    rw [List.cons_append, List.dropWhile_cons, List.dropWhile_cons, ih]
    split <;> rfl

/-- A text that does not have some character in it is read up to the first of these. -/
theorem takeWhile_ne_append {c : Char} (h : c ∉ front) (rest : List Char) :
    (front ++ c :: rest).takeWhile (· ≠ c) = front :=
  takeWhile_append_of_head (fun d hd => decide_eq_true (ne_of_mem_of_not_mem hd h)) (by simp)

theorem dropWhile_ne_append {c : Char} (h : c ∉ front) (rest : List Char) :
    (front ++ c :: rest).dropWhile (· ≠ c) = c :: rest :=
  dropWhile_append_of_head (fun d hd => decide_eq_true (ne_of_mem_of_not_mem hd h)) (by simp)

theorem head?_dropWhile {c : Char} {cs : List Char} (h : c ∈ (cs.dropWhile p).head?) :
    p c = false := by
  have hhead := List.head?_dropWhile_not p cs
  rwa [Option.mem_def.1 h] at hhead

theorem of_mem_takeWhile {c : Char} {cs : List Char} (h : c ∈ cs.takeWhile p) : p c = true :=
  List.all_eq_true.1 List.all_takeWhile c h

end Class

/-! ### Blanks and words -/

/-- One blank or more. -/
def IsGap (cs : List Char) : Prop := cs ≠ [] ∧ ∀ c ∈ cs, isBlank c = true

/-- One word character or more. -/
def IsName (cs : List Char) : Prop := cs ≠ [] ∧ ∀ c ∈ cs, isWord c = true

-- The characters of the text are looked through, and not all the characters there are.
instance : DecidablePred IsGap := fun cs =>
  have := List.decidableBAll (isBlank · = true) cs
  inferInstanceAs (Decidable (cs ≠ [] ∧ ∀ c ∈ cs, isBlank c = true))

instance : DecidablePred IsName := fun cs =>
  have := List.decidableBAll (isWord · = true) cs
  inferInstanceAs (Decidable (cs ≠ [] ∧ ∀ c ∈ cs, isWord c = true))

/-- The code points of the blanks. -/
def blankCodePoints : List Nat :=
  [0x9, 0xA, 0xB, 0xC, 0xD, 0x20, 0x85, 0xA0, 0x1680, 0x2000, 0x2001, 0x2002, 0x2003, 0x2004,
    0x2005, 0x2006, 0x2007, 0x2008, 0x2009, 0x200A, 0x2028, 0x2029, 0x202F, 0x205F, 0x3000]

theorem toNat_mem_blankCodePoints {c : Char} (h : isBlank c = true) :
    c.toNat ∈ blankCodePoints := by
  simp only [isBlank, Bool.or_eq_true, Bool.and_eq_true, decide_eq_true_eq, beq_iff_eq] at h
  simp only [blankCodePoints, List.mem_cons, List.not_mem_nil, or_false]
  omega

/-- **Blanks are no word characters.** -/
theorem isWord_of_isBlank {c : Char} (h : isBlank c = true) : isWord c = false := by
  have hclass : ∀ n ∈ blankCodePoints, wordCodePoints.contains n = false := by decide +kernel
  exact hclass _ (toNat_mem_blankCodePoints h)

theorem isBlank_of_isWord {c : Char} (h : isWord c = true) : isBlank c = false := by
  cases hblank : isBlank c with
  | false => rfl
  | true =>
    rw [isWord_of_isBlank hblank] at h
    cases h

section Runs

variable {gap word rest : List Char}

theorem takeWord_append (hword : ∀ c ∈ word, isWord c = true)
    (hrest : ∀ c ∈ rest.head?, isWord c = false) : takeWord (word ++ rest) = word :=
  takeWhile_append_of_head hword hrest

theorem dropWord_append (hword : ∀ c ∈ word, isWord c = true)
    (hrest : ∀ c ∈ rest.head?, isWord c = false) : dropWord (word ++ rest) = rest :=
  dropWhile_append_of_head hword hrest

theorem trimStart_append (hgap : ∀ c ∈ gap, isBlank c = true)
    (hrest : ∀ c ∈ rest.head?, isBlank c = false) : trimStart (gap ++ rest) = rest :=
  dropWhile_append_of_head hgap hrest

/-- A text without the blanks at its ends, put back between these. -/
theorem exists_blanks_trim (cs : List Char) :
    ∃ lead tail, (∀ c ∈ lead, isBlank c = true) ∧ (∀ c ∈ tail, isBlank c = true) ∧
      cs = lead ++ (trim cs ++ tail) := by
  have hstart : cs.takeWhile isBlank ++ trimStart cs = cs := List.takeWhile_append_dropWhile
  have hend : trim cs ++ ((trimStart cs).reverse.takeWhile isBlank).reverse = trimStart cs := by
    rw [trim, trimEnd, ← List.reverse_append, List.takeWhile_append_dropWhile,
      List.reverse_reverse]
  refine ⟨_, _, fun _ => of_mem_takeWhile, fun c hc => ?_, by rw [hend, hstart]⟩
  exact of_mem_takeWhile (List.mem_reverse.1 hc)

theorem takeWord_append_dropWord (cs : List Char) : takeWord cs ++ dropWord cs = cs :=
  List.takeWhile_append_dropWhile

/-- The word at the front of a text. -/
theorem isName_takeWord {cs : List Char} (h : takeWord cs ≠ []) : IsName (takeWord cs) :=
  ⟨h, fun _ => of_mem_takeWhile⟩

/-- A gap begins with a blank, whatever stands behind it. -/
theorem IsGap.head? (h : IsGap gap) : ∀ c ∈ (gap ++ rest).head?, isBlank c = true := by
  obtain ⟨hne, hblank⟩ := h
  cases gap with
  | nil => exact absurd rfl hne
  | cons c gap =>
    rintro d hd
    obtain rfl : c = d := Option.some.inj hd
    exact hblank c List.mem_cons_self

theorem IsName.head? (h : IsName word) : ∀ c ∈ (word ++ rest).head?, isWord c = true := by
  obtain ⟨hne, hword⟩ := h
  cases word with
  | nil => exact absurd rfl hne
  | cons c word =>
    rintro d hd
    obtain rfl : c = d := Option.some.inj hd
    exact hword c List.mem_cons_self

/-- A text is read behind its blanks if it has any at its front. -/
theorem afterBlanks?_eq_some_iff {cs : List Char} :
    afterBlanks? cs = some rest ↔
      ∃ gap, IsGap gap ∧ (∀ c ∈ rest.head?, isBlank c = false) ∧ cs = gap ++ rest := by
  constructor
  · intro h
    cases cs with
    | nil => cases h
    | cons c cs =>
      rw [afterBlanks?, Option.ite_none_right_eq_some, Option.some.injEq] at h
      obtain ⟨hc, rfl⟩ := h
      refine ⟨c :: cs.takeWhile isBlank, ⟨List.cons_ne_nil _ _, ?_⟩, fun _ => head?_dropWhile, ?_⟩
      · intro d hd
        rcases List.mem_cons.1 hd with rfl | hd
        · exact hc
        · exact of_mem_takeWhile hd
      · rw [List.cons_append, trimStart, List.takeWhile_append_dropWhile]
  · rintro ⟨gap, ⟨hne, hgap⟩, hrest, rfl⟩
    cases gap with
    | nil => exact absurd rfl hne
    | cons c gap =>
      obtain ⟨hc, hgap⟩ := List.forall_mem_cons.1 hgap
      rw [List.cons_append, afterBlanks?, if_pos hc, trimStart_append hgap hrest]

theorem eq_trimStart_of_afterBlanks? {cs : List Char} (h : afterBlanks? cs = some rest) :
    rest = trimStart cs := by
  obtain ⟨gap, hgap, hrest, rfl⟩ := afterBlanks?_eq_some_iff.1 h
  exact (trimStart_append hgap.2 hrest).symm

/-- Where no blank stands at the front, there is nothing to be read behind blanks. -/
theorem afterBlanks?_eq_none {cs : List Char} (h : ∀ c ∈ cs.head?, isBlank c = false) :
    afterBlanks? cs = none := by
  cases cs with
  | nil => rfl
  | cons c cs => rw [afterBlanks?, if_neg (by simp [h c rfl])]

end Runs

/-! ### Brackets -/

/-- What is enclosed goes up to the first closing character. -/
theorem enclosed?_eq_some_iff {close : Char} {cs inner rest : List Char} :
    enclosed? close cs = some (inner, rest) ↔
      inner ≠ [] ∧ close ∉ inner ∧ cs = inner ++ close :: rest := by
  constructor
  · intro h
    rw [enclosed?] at h
    cases htake : cs.takeWhile (· ≠ close) with
    | nil =>
      rw [htake] at h
      cases h
    | cons c front =>
      cases hdrop : cs.dropWhile (· ≠ close) with
      | nil =>
        rw [htake, hdrop] at h
        cases h
      | cons d behind =>
        obtain ⟨hcs, hd⟩ := eq_append_of_dropWhile_eq_cons hdrop
        obtain rfl : d = close := by simpa using hd
        rw [htake, hdrop] at h
        rw [htake] at hcs
        obtain ⟨rfl, rfl⟩ := Prod.mk.inj (Option.some.inj h)
        refine ⟨List.cons_ne_nil _ _, fun hmem => ?_, hcs⟩
        rw [← htake] at hmem
        simpa using of_mem_takeWhile hmem
  · rintro ⟨hne, hclose, rfl⟩
    rw [enclosed?, takeWhile_ne_append hclose, dropWhile_ne_append hclose]
    cases inner with
    | nil => exact absurd rfl hne
    | cons c inner => rfl

end Text

end PullReport
