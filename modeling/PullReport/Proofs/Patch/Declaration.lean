import PullReport.Patch.Line
import PullReport.Proofs.Patch.Returns
import PullReport.Proofs.Text.Runs
import PullReport.Proofs.Text.Search

/-!
# Declarations of public methods

What a removed line must look like for a method to be read off it, and which name is read. The
grammar of such lines is ambiguous. A modifier is a word and may be taken for the return type, so
that `public static async (` declares a method called `async`. But such a name would have to be a
modifier itself: a line with any reading whose name is no modifier declares just that name, however
many modifiers there are.

The reason is that modifiers are whole words. So a modifier is read if and only if the first word
is one and a blank stands behind it. Reading all the modifiers, and perhaps the return type as one
more, leads to the name, which cannot be read as a modifier. Nor can it be read as a return type,
because behind it there is nothing but a parenthesis. So the last modifier is given back.

## Main definitions

* `Patch.ReturnType`, `Patch.Declares`, `Patch.Removes`: the grammar.
* `Patch.Framed`: where in a line a name stands.

## Main results

* `Patch.afterModifier?_eq`: modifiers are whole words.
* `Patch.Declares.of_declaredName?`, `Patch.Declares.declaredName?_eq`: the two directions, for what
  stands behind `public`.
* `Patch.reading_sound_and_complete`: the same for whole lines.
-/

namespace PullReport

namespace Patch

open Text

variable {cs rest behind type gap pad name line : List Char}

/-! ### The grammar -/

/-- A return type: a word, a word with something in angle brackets, or something in parentheses. -/
inductive ReturnType : List Char → Prop
  | word {word : List Char} (isName : IsName word) : ReturnType word
  | generic {word inner : List Char} (isName : IsName word) (ne_nil : inner ≠ [])
      (not_mem : '>' ∉ inner) : ReturnType (word ++ '<' :: (inner ++ ['>']))
  | tuple {inner : List Char} (ne_nil : inner ≠ []) (not_mem : ')' ∉ inner) :
      ReturnType ('(' :: (inner ++ [')']))

/-- The text behind `public` and its blanks declares a method of some name: modifiers, a return
type, the name and an opening parenthesis. -/
inductive Declares (name : List Char) : List Char → Prop
  | signature {type gap pad rest : List Char} (returnType : ReturnType type) (isGap : IsGap gap)
      (isName : IsName name) (blank : ∀ c ∈ pad, isBlank c = true) :
      Declares name (type ++ (gap ++ (name ++ (pad ++ '(' :: rest))))
  | modifier {modifier gap cs : List Char} (mem : modifier ∈ modifiers) (isGap : IsGap gap)
      (declares : Declares name cs) : Declares name (modifier ++ (gap ++ cs))

/-- The line can be read as one that removes a public method of some name. -/
def Removes (line name : List Char) : Prop :=
  ∃ indent gap cs, (∀ c ∈ indent, isBlank c = true) ∧ IsGap gap ∧ Declares name cs ∧
    line = '-' :: (indent ++ ("public".toList ++ (gap ++ cs)))

/-- Where a name stands in a removed line: behind `public` and more, after a blank, and with nothing
but blanks between it and an opening parenthesis. It is a whole word, with no word character at
either end. -/
structure Framed (before name after : List Char) : Prop where
  before_eq : ∃ indent gap front space, (∀ c ∈ indent, isBlank c = true) ∧ IsGap gap ∧ IsGap space ∧
    before = '-' :: (indent ++ ("public".toList ++ (gap ++ (front ++ space))))
  after_eq : ∃ pad rest, (∀ c ∈ pad, isBlank c = true) ∧ after = pad ++ '(' :: rest
  isName : IsName name
  starts : ∀ c ∈ before.getLast?, isWord c = false
  ends : ∀ c ∈ after.head?, isWord c = false

/-! ### Modifiers -/

theorem isName_of_mem_modifiers : ∀ modifier ∈ modifiers, IsName modifier := by decide +kernel

theorem takeWord_append_of_isGap (hname : IsName name) (hgap : IsGap gap) :
    takeWord (name ++ (gap ++ cs)) = name :=
  takeWord_append hname.2 fun c hc => isWord_of_isBlank (hgap.head? c hc)

theorem dropWord_append_of_isGap (hname : IsName name) (hgap : IsGap gap) :
    dropWord (name ++ (gap ++ cs)) = gap ++ cs :=
  dropWord_append hname.2 fun c hc => isWord_of_isBlank (hgap.head? c hc)

/-- One modifier is read if it is the first word. If it is only the start of that word, then no
blank stands behind it. -/
theorem isPrefixOf?_bind_afterBlanks? (hname : IsName name) (cs : List Char) :
    (name.isPrefixOf? cs).bind afterBlanks? =
      if takeWord cs = name then afterBlanks? (dropWord cs) else none := by
  cases hrest : name.isPrefixOf? cs with
  | none =>
    rw [if_neg]
    · rfl
    · rintro rfl
      have hprefix := isPrefixOf?_append (takeWord cs) (dropWord cs)
      rw [takeWord_append_dropWord, hrest] at hprefix
      cases hprefix
  | some rest =>
    obtain rfl := isPrefixOf?_eq_some_iff.1 hrest
    rw [Option.bind_some]
    by_cases hhead : ∀ c ∈ rest.head?, isWord c = false
    · rw [takeWord_append hname.2 hhead, dropWord_append hname.2 hhead, if_pos rfl]
    · -- the word goes on behind the name
      simp only [not_forall, Bool.not_eq_false] at hhead
      obtain ⟨c, hc, hword⟩ := hhead
      obtain ⟨rest, rfl⟩ : ∃ more, rest = c :: more := List.head?_eq_some_iff.1 hc
      have hlong : takeWord (name ++ c :: rest) ≠ name := by
        rw [takeWord, List.takeWhile_append_of_pos hname.2, List.takeWhile_cons_of_pos hword]
        simp
      rw [if_neg hlong, afterBlanks?_eq_none]
      intro d hd
      obtain rfl : c = d := Option.some.inj hd
      exact isBlank_of_isWord hword

/-- **Modifiers are whole words.** One is read off the front of a text if the first word is one and
a blank stands behind it. -/
theorem afterModifier?_eq (cs : List Char) :
    afterModifier? cs = if takeWord cs ∈ modifiers then afterBlanks? (dropWord cs) else none := by
  rw [afterModifier?]
  exact findSome?_eq_ite fun modifier hmem =>
    isPrefixOf?_bind_afterBlanks? (isName_of_mem_modifiers modifier hmem) cs

/-! ### Return types -/

theorem isWord_open : isWord '(' = false := by decide +kernel

theorem isWord_less : isWord '<' = false := by decide +kernel

theorem afterReturnType?_of_head (h : ∀ c ∈ cs.head?, isWord c = true) :
    afterReturnType? cs =
      if takeWord cs = [] then none else some (afterTypeArguments (dropWord cs)) := by
  cases cs with
  | nil => rfl
  | cons c cs =>
    have hc : c ≠ '(' := by
      rintro rfl
      have hopen := h '(' rfl
      rw [isWord_open] at hopen
      cases hopen
    simp [afterReturnType?, hc]

theorem afterTypeArguments_of_head (h : ∀ c ∈ cs.head?, c ≠ '<') : afterTypeArguments cs = cs := by
  cases cs with
  | nil => rfl
  | cons c cs => simp [afterTypeArguments, h c rfl]

/-- A word is read as a return type up to what is no word and no bracket. -/
theorem afterReturnType?_word (hname : IsName name) (hrest : ∀ c ∈ rest.head?, isWord c = false)
    (hless : ∀ c ∈ rest.head?, c ≠ '<') : afterReturnType? (name ++ rest) = some rest := by
  rw [afterReturnType?_of_head hname.head?, takeWord_append hname.2 hrest, if_neg hname.1,
    dropWord_append hname.2 hrest, afterTypeArguments_of_head hless]

/-- A word is read as a return type up to the blank behind it. -/
theorem afterReturnType?_append_of_isGap (hname : IsName name) (hgap : IsGap gap) :
    afterReturnType? (name ++ (gap ++ cs)) = some (gap ++ cs) := by
  have hblank : ∀ c ∈ (gap ++ cs).head?, isBlank c = true := hgap.head?
  refine afterReturnType?_word hname (fun c hc => isWord_of_isBlank (hblank c hc)) ?_
  rintro c hc rfl
  exact absurd (hblank '<' hc) (by decide)

theorem isWord_of_mem_head?_less : ∀ c ∈ ('<' :: cs).head?, isWord c = false := by
  rintro c hc
  obtain rfl : '<' = c := Option.some.inj hc
  exact isWord_less

/-- A word with a bracket behind it is read as a return type up to the first closing bracket. -/
theorem afterReturnType?_generic {inner : List Char} (hname : IsName name) (hne : inner ≠ [])
    (hmem : '>' ∉ inner) : afterReturnType? (name ++ '<' :: (inner ++ '>' :: cs)) = some cs := by
  have hinner : enclosed? '>' (inner ++ '>' :: cs) = some (inner, cs) :=
    enclosed?_eq_some_iff.2 ⟨hne, hmem, rfl⟩
  rw [afterReturnType?_of_head hname.head?, takeWord_append hname.2 isWord_of_mem_head?_less,
    if_neg hname.1, dropWord_append hname.2 isWord_of_mem_head?_less, afterTypeArguments, hinner]

/-- A return type is read if a blank stands behind it. -/
theorem ReturnType.afterReturnType?_append (htype : ReturnType type) (hgap : IsGap gap) :
    afterReturnType? (type ++ (gap ++ cs)) = some (gap ++ cs) := by
  cases htype with
  | word hname => exact afterReturnType?_append_of_isGap hname hgap
  | @generic word inner hname hne hmem =>
    have htext : word ++ '<' :: (inner ++ ['>']) ++ (gap ++ cs) =
        word ++ '<' :: (inner ++ '>' :: (gap ++ cs)) := by simp
    rw [htext, afterReturnType?_generic hname hne hmem]
  | @tuple inner hne hmem =>
    have hinner : enclosed? ')' (inner ++ ')' :: (gap ++ cs)) = some (inner, gap ++ cs) :=
      enclosed?_eq_some_iff.2 ⟨hne, hmem, rfl⟩
    have htext : '(' :: (inner ++ [')']) ++ (gap ++ cs) = '(' :: (inner ++ ')' :: (gap ++ cs)) := by
      simp
    rw [htext, afterReturnType?, hinner]
    rfl

/-- What is read as a return type is one. -/
theorem exists_returnType (h : afterReturnType? cs = some rest) :
    ∃ type, ReturnType type ∧ cs = type ++ rest := by
  rw [afterReturnType?.eq_def] at h
  split at h
  · rename_i inner
    obtain ⟨⟨group, behind⟩, hgroup, rfl⟩ := Option.map_eq_some_iff.1 h
    obtain ⟨hne, hmem, rfl⟩ := enclosed?_eq_some_iff.1 hgroup
    exact ⟨_, .tuple hne hmem, by simp⟩
  · rw [Option.ite_none_left_eq_some, Option.some.injEq] at h
    obtain ⟨hword, hbehind⟩ := h
    have hname := isName_takeWord hword
    rw [afterTypeArguments.eq_def] at hbehind
    split at hbehind
    · rename_i inner hdrop
      split at hbehind
      · rename_i group more hgroup
        obtain ⟨hne, hmem, rfl⟩ := enclosed?_eq_some_iff.1 hgroup
        refine ⟨_, .generic hname hne hmem, ?_⟩
        rw [← hbehind]
        simpa [hdrop] using (takeWord_append_dropWord cs).symm
      · exact ⟨_, .word hname, by rw [← hbehind, takeWord_append_dropWord]⟩
    · exact ⟨_, .word hname, by rw [← hbehind, takeWord_append_dropWord]⟩

/-! ### Names -/

/-- Behind a name there is a blank or an opening parenthesis. -/
theorem head?_pad_open (hpad : ∀ c ∈ pad, isBlank c = true) :
    ∀ c ∈ (pad ++ '(' :: rest).head?, c = '(' ∨ isBlank c = true := by
  cases pad with
  | nil =>
    rintro c hc
    exact .inl (Option.some.inj hc).symm
  | cons d pad =>
    rintro c hc
    obtain rfl : d = c := Option.some.inj hc
    exact .inr (hpad d List.mem_cons_self)

theorem isWord_of_mem_head?_pad_open (hpad : ∀ c ∈ pad, isBlank c = true) :
    ∀ c ∈ (pad ++ '(' :: rest).head?, isWord c = false := by
  intro c hc
  rcases head?_pad_open hpad c hc with rfl | hblank
  · exact isWord_open
  · exact isWord_of_isBlank hblank

theorem trimStart_pad_open (hpad : ∀ c ∈ pad, isBlank c = true) :
    trimStart (pad ++ '(' :: rest) = '(' :: rest := by
  refine trimStart_append hpad ?_
  rintro c hc
  obtain rfl : '(' = c := Option.some.inj hc
  rfl

theorem openedName?_append (hname : IsName name) (hpad : ∀ c ∈ pad, isBlank c = true) :
    openedName? (name ++ (pad ++ '(' :: rest)) = some name := by
  have hhead : ∀ c ∈ (pad ++ '(' :: rest).head?, isWord c = false :=
    isWord_of_mem_head?_pad_open hpad
  rw [openedName?, takeWord_append hname.2 hhead, dropWord_append hname.2 hhead,
    trimStart_pad_open hpad]
  obtain ⟨hne, -⟩ := hname
  cases name with
  | nil => exact absurd rfl hne
  | cons c name => rfl

/-- A name that is read is a word with an opening parenthesis behind it. -/
theorem exists_of_openedName? (h : openedName? cs = some name) :
    IsName name ∧
      ∃ pad rest, (∀ c ∈ pad, isBlank c = true) ∧ cs = name ++ (pad ++ '(' :: rest) := by
  rw [openedName?] at h
  cases hword : takeWord cs with
  | nil =>
    rw [hword] at h
    cases h
  | cons d word =>
    have hisName : IsName (takeWord cs) := isName_takeWord (by simp [hword])
    have hcs := takeWord_append_dropWord cs
    rw [← List.takeWhile_append_dropWhile (p := isBlank) (l := dropWord cs), ← trimStart] at hcs
    cases hopen : trimStart (dropWord cs) with
    | nil =>
      rw [hword, hopen] at h
      cases h
    | cons e more =>
      by_cases he : e = '('
      · rw [hword, hopen, he] at h
        obtain rfl := Option.some.inj h
        rw [hopen, he, hword] at hcs
        rw [hword] at hisName
        exact ⟨hisName, _, more, fun _ => of_mem_takeWhile, hcs.symm⟩
      · simp [hword, hopen, he] at h

/-! ### Soundness -/

/-- What is read off a text behind a return type is declared there. -/
theorem Declares.of_signatureName? (h : signatureName? cs = some name) : Declares name cs := by
  rw [signatureName?_eq] at h
  obtain ⟨behindType, htype, hread⟩ := Option.bind_eq_some_iff.1 h
  obtain ⟨opened, hgap, hopened⟩ := Option.bind_eq_some_iff.1 hread
  obtain ⟨type, hreturn, rfl⟩ := exists_returnType htype
  obtain ⟨gap, hisGap, -, rfl⟩ := afterBlanks?_eq_some_iff.1 hgap
  obtain ⟨hname, pad, rest, hpad, rfl⟩ := exists_of_openedName? hopened
  exact .signature hreturn hisGap hname hpad

/-- **A name that is read is declared.** By the recursion of the reader: each modifier that it reads
is one of the declaration. -/
theorem Declares.of_declaredName? (h : declaredName? cs = some name) : Declares name cs := by
  induction hn : cs.length using Nat.strong_induction_on generalizing cs with
  | _ n ih =>
    rw [Patch.declaredName?_eq, Option.or_eq_some_iff] at h
    rcases h with h | ⟨-, h⟩
    · obtain ⟨behind, hbehind, h⟩ := Option.bind_eq_some_iff.1 h
      have hdeclares := ih behind.length (hn ▸ length_of_afterModifier? hbehind) h rfl
      rw [afterModifier?_eq, Option.ite_none_right_eq_some] at hbehind
      obtain ⟨hmem, hblanks⟩ := hbehind
      obtain ⟨gap, hgap, -, hdrop⟩ := afterBlanks?_eq_some_iff.1 hblanks
      rw [← takeWord_append_dropWord cs, hdrop]
      exact .modifier hmem hgap hdeclares
    · exact .of_signatureName? h

theorem Removes.of_removedMethod? (h : removedMethod? line = some name) : Removes line name := by
  cases line with
  | nil => cases h
  | cons c cs =>
    by_cases hc : c = '-'
    · subst hc
      rw [removedMethod?_cons, publicName?] at h
      obtain ⟨behind, hpublic, hread⟩ := Option.bind_eq_some_iff.1 h
      obtain ⟨declared, hgap, hdeclared⟩ := Option.bind_eq_some_iff.1 hread
      obtain ⟨gap, hisGap, -, rfl⟩ := afterBlanks?_eq_some_iff.1 hgap
      refine ⟨cs.takeWhile isBlank, gap, declared, fun _ => of_mem_takeWhile, hisGap,
        .of_declaredName? hdeclared, ?_⟩
      rw [isPrefixOf?_eq_some_iff.1 hpublic, trimStart, List.takeWhile_append_dropWhile]
    · simp [removedMethod?, hc] at h

/-! ### Completeness -/

/-- A declaration begins with a word or a parenthesis, not with a blank. -/
theorem Declares.head? (h : Declares name cs) : ∀ c ∈ cs.head?, isBlank c = false := by
  have hword {word more : List Char} (hname : IsName word) :
      ∀ c ∈ (word ++ more).head?, isBlank c = false :=
    fun c hc => isBlank_of_isWord (hname.head? c hc)
  cases h with
  | modifier hmem hgap hrest => exact hword (isName_of_mem_modifiers _ hmem)
  | signature htype hgap hname hpad =>
    cases htype with
    | word hisName => exact hword hisName
    | generic hisName => rw [List.append_assoc]; exact hword hisName
    | tuple =>
      rintro c hc
      obtain rfl : '(' = c := Option.some.inj hc
      rfl

theorem signatureName?_append (htype : ReturnType type) (hgap : IsGap gap) (hname : IsName name)
    (hpad : ∀ c ∈ pad, isBlank c = true) :
    signatureName? (type ++ (gap ++ (name ++ (pad ++ '(' :: rest)))) = some name := by
  have hblanks : afterBlanks? (gap ++ (name ++ (pad ++ '(' :: rest))) =
      some (name ++ (pad ++ '(' :: rest)) :=
    afterBlanks?_eq_some_iff.2 ⟨gap, hgap, fun c hc => isBlank_of_isWord (hname.head? c hc), rfl⟩
  rw [signatureName?_eq, htype.afterReturnType?_append hgap, Option.bind_some, hblanks,
    Option.bind_some, openedName?_append hname hpad]

/-- A return type is read as a modifier only if it is one, and then what stands behind its blanks
is left. -/
theorem afterModifier?_append_cases (htype : ReturnType type) (hgap : IsGap gap)
    (hbehind : ∀ c ∈ behind.head?, isBlank c = false) :
    afterModifier? (type ++ (gap ++ behind)) = none ∨
      afterModifier? (type ++ (gap ++ behind)) = some behind := by
  rw [afterModifier?_eq]
  cases htype with
  | word hname =>
    rw [takeWord_append_of_isGap hname hgap, dropWord_append_of_isGap hname hgap,
      afterBlanks?_eq_some_iff.2 ⟨gap, hgap, hbehind, rfl⟩]
    split
    · exact .inr rfl
    · exact .inl rfl
  | @generic word inner hname =>
    rw [List.append_assoc, List.cons_append, dropWord_append hname.2 isWord_of_mem_head?_less]
    -- the angle bracket is no blank
    exact .inl (ite_self none)
  | @tuple inner =>
    have hnone : takeWord ('(' :: (inner ++ [')']) ++ (gap ++ behind)) = [] :=
      List.takeWhile_cons_of_neg (by simp [isWord_open])
    rw [hnone, if_neg (by decide)]
    exact .inl rfl

/-- Nothing is declared by a name alone that is no modifier: it would have to be the return type,
and there is no other name. -/
theorem declaredName?_name (hname : IsName name) (hpad : ∀ c ∈ pad, isBlank c = true)
    (hmem : name ∉ modifiers) : declaredName? (name ++ (pad ++ '(' :: rest)) = none := by
  have hhead : ∀ c ∈ (pad ++ '(' :: rest).head?, isWord c = false :=
    isWord_of_mem_head?_pad_open hpad
  have hless : ∀ c ∈ (pad ++ '(' :: rest).head?, c ≠ '<' := by
    rintro c hc rfl
    rcases head?_pad_open hpad '<' hc with hopen | hblank
    · exact absurd hopen (by decide)
    · exact absurd hblank (by decide)
  have hopened : (afterBlanks? (pad ++ '(' :: rest)).bind openedName? = none := by
    cases hblanks : afterBlanks? (pad ++ '(' :: rest) with
    | none => rfl
    | some opened =>
      have hnone : takeWord ('(' :: rest) = [] :=
        List.takeWhile_cons_of_neg (by simp [isWord_open])
      rw [eq_trimStart_of_afterBlanks? hblanks, trimStart_pad_open hpad, Option.bind_some,
        openedName?, hnone]
  rw [Patch.declaredName?_eq, afterModifier?_eq, takeWord_append hname.2 hhead, if_neg hmem,
    signatureName?_eq, afterReturnType?_word hname hhead hless, Option.bind_some, hopened]
  rfl

/-- **A name that is declared is read**, unless it is a modifier. By induction on the declaration:
modifiers are read one by one, and a return type that is read as one more is given back. -/
theorem Declares.declaredName?_eq (h : Declares name cs) (hmem : name ∉ modifiers) :
    declaredName? cs = some name := by
  induction h with
  | modifier hmodifier hgap hdeclares ih =>
    have hname := isName_of_mem_modifiers _ hmodifier
    rw [Patch.declaredName?_eq, afterModifier?_eq, takeWord_append_of_isGap hname hgap,
      if_pos hmodifier, dropWord_append_of_isGap hname hgap,
      afterBlanks?_eq_some_iff.2 ⟨_, hgap, hdeclares.head?, rfl⟩, Option.bind_some, ih]
    rfl
  | signature htype hgap hname hpad =>
    rw [Patch.declaredName?_eq, signatureName?_append htype hgap hname hpad]
    rcases afterModifier?_append_cases htype hgap
      (fun c hc => isBlank_of_isWord (hname.head? c hc)) with hnone | hsome
    · rw [hnone]
      rfl
    · rw [hsome, Option.bind_some, declaredName?_name hname hpad hmem]
      rfl

theorem Removes.removedMethod?_eq (h : Removes line name) (hmem : name ∉ modifiers) :
    removedMethod? line = some name := by
  obtain ⟨indent, gap, cs, hindent, hgap, hdeclares, rfl⟩ := h
  have hpublic : ∀ c ∈ ("public".toList ++ (gap ++ cs)).head?, isBlank c = false := by
    rintro c hc
    obtain rfl : 'p' = c := Option.some.inj hc
    rfl
  rw [removedMethod?_cons, trimStart_append hindent hpublic, publicName?, isPrefixOf?_append,
    Option.bind_some, afterBlanks?_eq_some_iff.2 ⟨gap, hgap, hdeclares.head?, rfl⟩,
    Option.bind_some, hdeclares.declaredName?_eq hmem]

/-! ### Both directions -/

/-- However a name is declared, it has a blank before it and a parenthesis behind. -/
theorem Declares.exists_append (h : Declares name cs) :
    ∃ front space pad rest, IsGap space ∧ IsName name ∧ (∀ c ∈ pad, isBlank c = true) ∧
      cs = front ++ (space ++ (name ++ (pad ++ '(' :: rest))) := by
  induction h with
  | signature htype hgap hname hpad => exact ⟨_, _, _, _, hgap, hname, hpad, rfl⟩
  | @modifier modifier gap cs _ _ _ ih =>
    obtain ⟨front, space, pad, rest, hspace, hname, hpad, rfl⟩ := ih
    refine ⟨modifier ++ (gap ++ front), space, pad, rest, hspace, hname, hpad, ?_⟩
    simp only [List.append_assoc]

theorem getLast?_append_of_isGap (hgap : IsGap gap) :
    ∀ c ∈ (cs ++ gap).getLast?, isWord c = false := by
  intro c hc
  rw [List.getLast?_append_of_ne_nil cs hgap.1] at hc
  exact isWord_of_isBlank (hgap.2 c (List.mem_of_getLast? hc))

/-- Whatever reading of a line there is, the name stands in its place. -/
theorem Removes.framed (h : Removes line name) :
    ∃ before after, Framed before name after ∧ line = before ++ (name ++ after) := by
  obtain ⟨indent, gap, cs, hindent, hgap, hdeclares, rfl⟩ := h
  obtain ⟨front, space, pad, rest, hspace, hname, hpad, rfl⟩ := hdeclares.exists_append
  have hbefore : '-' :: (indent ++ ("public".toList ++ (gap ++ (front ++ space)))) =
      '-' :: (indent ++ ("public".toList ++ (gap ++ front))) ++ space := by
    simp only [List.cons_append, List.append_assoc]
  refine ⟨'-' :: (indent ++ ("public".toList ++ (gap ++ (front ++ space)))), pad ++ '(' :: rest,
    ⟨⟨indent, gap, front, space, hindent, hgap, hspace, rfl⟩, ⟨pad, rest, hpad, rfl⟩, hname, ?_,
      isWord_of_mem_head?_pad_open hpad⟩, ?_⟩
  · rw [hbefore]
    exact getLast?_append_of_isGap hspace
  · simp only [List.cons_append, List.append_assoc]

theorem Removes.sign_eq (h : Removes line name) : sign line = .removed := by
  obtain ⟨indent, gap, cs, -, -, -, rfl⟩ := h
  rfl

/-- **A removed line is read as what it declares.** What is read off a line is declared there, and
it is a whole word in its place. Conversely, any name that the line can be read to declare is the
one that is read, unless it is a modifier. -/
theorem reading_sound_and_complete (line name : List Char) :
    (removedMethod? line = some name →
      Removes line name ∧ sign line = .removed ∧
        ∃ before after, Framed before name after ∧ line = before ++ (name ++ after)) ∧
    (Removes line name → name ∉ modifiers → removedMethod? line = some name) := by
  refine ⟨fun h => ?_, Removes.removedMethod?_eq⟩
  have hremoves := Removes.of_removedMethod? h
  exact ⟨hremoves, hremoves.sign_eq, hremoves.framed⟩

/-- Two modifiers and a type with arguments are read, and a tuple among the parameters does not
matter. -/
theorem reading_behind_modifiers :
    Removes "-  public static async Task<int> Run ((int, int) pair)".toList "Run".toList ∧
      removedMethod? "-  public static async Task<int> Run ((int, int) pair)".toList =
        some "Run".toList := by
  have hgap : IsGap [' '] := by decide
  have htype : ReturnType ("Task".toList ++ '<' :: ("int".toList ++ ['>'])) :=
    .generic (by decide +kernel) (by decide) (by decide)
  have hdeclares : Declares "Run".toList
      ("static".toList ++ ([' '] ++ ("async".toList ++ ([' '] ++ (("Task".toList ++ '<' ::
        ("int".toList ++ ['>'])) ++ ([' '] ++ ("Run".toList ++ ([' '] ++
          '(' :: "(int, int) pair)".toList)))))))) :=
    .modifier (by decide) hgap
      (.modifier (by decide) hgap (.signature htype hgap (by decide +kernel) hgap.2))
  have hremoves : Removes "-  public static async Task<int> Run ((int, int) pair)".toList
      "Run".toList := ⟨[' ', ' '], [' '], _, by simp [isBlank], hgap, hdeclares, rfl⟩
  exact ⟨hremoves, (reading_sound_and_complete _ _).2 hremoves (by decide)⟩

end Patch

end PullReport
