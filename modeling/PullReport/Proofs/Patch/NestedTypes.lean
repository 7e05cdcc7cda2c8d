import PullReport.Analysis.DeletedMethod
import PullReport.Proofs.Patch.Declaration

/-!
# Return types with nested arguments

The arguments of a return type may have arguments themselves, to any depth, and then there are
several closing brackets. A reader that takes the first one for the last is right about the types
without nesting only. Behind the first closing bracket of a nested type there is more of the type,
where a blank, a name and a parenthesis would have to be, and giving a modifier back does not help.
So no name is read, and the removal of the method is not reported.

Tuples among the arguments are the one way in which the text behind the first bracket can look as if
the method's name stood there. Then a word in the tuple's place is read.

## Main definitions

* `Patch.Balanced`: the angle brackets of a text match.
* `Patch.BehindModifiers`: a text stands behind any number of modifiers.
* `Patch.RemovesGeneric`: a line removes a public method with a generic return type.
* `Patch.NamedInside`: a name seems to stand inside the arguments of a type.

## Main results

* `Patch.BehindModifiers.declaredName?_eq`: modifiers are passed over.
* `Patch.signatureName?_generic_iff`: what is read behind a bracket.
* `Patch.removedMethod?_of_generic`: which removals are read.
-/

namespace PullReport

namespace Patch

open Text

variable {cs front behind inner word gap pad name other sig rest line : List Char}

/-! ### Brackets -/

/-- The angle brackets of a text match. -/
inductive Balanced : List Char → Prop
  | nil : Balanced []
  | plain {c : Char} {cs : List Char} (not_open : c ≠ '<') (not_close : c ≠ '>')
      (balanced : Balanced cs) : Balanced (c :: cs)
  | nested {inner cs : List Char} (inside : Balanced inner) (balanced : Balanced cs) :
      Balanced ('<' :: (inner ++ '>' :: cs))

/-- A text without brackets may stand in front. -/
theorem Balanced.append (hopen : '<' ∉ front) (hclose : '>' ∉ front) (h : Balanced cs) :
    Balanced (front ++ cs) := by
  induction front with
  | nil => exact h
  | cons c front ih =>
    obtain ⟨hc, hopen⟩ := not_or.1 (mt List.mem_cons.2 hopen)
    obtain ⟨hd, hclose⟩ := not_or.1 (mt List.mem_cons.2 hclose)
    exact .plain (Ne.symm hc) (Ne.symm hd) (ih hopen hclose)

/-- No closing bracket comes first. -/
theorem Balanced.head?_ne (h : Balanced cs) : cs.head? ≠ some '>' := by
  cases h with
  | nil => nofun
  | plain _ hclose => exact fun hhead => hclose (Option.some.inj hhead)
  | nested => exact fun hhead => absurd (Option.some.inj hhead) (by decide)

/-- Where brackets match there are closing ones just when there are opening ones. -/
theorem Balanced.close_mem_iff (h : Balanced cs) : '>' ∈ cs ↔ '<' ∈ cs := by
  induction h with
  | nil => simp
  | plain hopen hclose _ ih => simp [ih, hopen.symm, hclose.symm]
  | nested => simp

/-! ### Modifiers -/

/-- A text stands behind any number of modifiers. -/
inductive BehindModifiers (sig : List Char) : List Char → Prop
  | here : BehindModifiers sig sig
  | modifier {modifier gap cs : List Char} (mem : modifier ∈ modifiers) (isGap : IsGap gap)
      (behind : BehindModifiers sig cs) : BehindModifiers sig (modifier ++ (gap ++ cs))

/-- Modifiers are words, so a text that begins with a word begins with one behind modifiers too. -/
theorem BehindModifiers.head? (h : BehindModifiers sig cs)
    (hsig : ∀ c ∈ sig.head?, isWord c = true) : ∀ c ∈ cs.head?, isWord c = true := by
  cases h with
  | here => exact hsig
  | modifier hmem => exact (isName_of_mem_modifiers _ hmem).head?

theorem openedName?_eq_none (h : (trimStart (dropWord cs)).head? ≠ some '(') :
    openedName? cs = none := by
  rw [openedName?]
  cases takeWord cs with
  | nil => rfl
  | cons d word =>
    cases hrest : trimStart (dropWord cs) with
    | nil => rfl
    | cons e rest =>
      rw [hrest] at h
      have he : e ≠ '(' := fun he => h (congrArg some he)
      simp [he]

/-- No modifier is the name of a method if something else than a parenthesis comes behind it. -/
theorem BehindModifiers.openedName?_eq_none (h : BehindModifiers sig cs)
    (hsig : ∀ c ∈ sig.head?, isWord c = true) (hopened : openedName? sig = none) :
    openedName? cs = none := by
  cases h with
  | here => exact hopened
  | modifier hmem hgap hbehind =>
    have hword := hbehind.head? hsig
    have hname := isName_of_mem_modifiers _ hmem
    refine Patch.openedName?_eq_none ?_
    rw [dropWord_append_of_isGap hname hgap,
      trimStart_append hgap.2 fun c hc => isBlank_of_isWord (hword c hc)]
    intro hhead
    have hparen := hword '(' hhead
    rw [isWord_open] at hparen
    cases hparen

/-- **Modifiers are passed over.** Behind them stands what is neither a modifier nor a name with a
parenthesis behind it. So none of them is given back, and what is read is what would be read without
them. -/
theorem BehindModifiers.declaredName?_eq (h : BehindModifiers sig cs)
    (hsig : ∀ c ∈ sig.head?, isWord c = true) (hmodifier : afterModifier? sig = none)
    (hopened : openedName? sig = none) : declaredName? cs = signatureName? sig := by
  induction h with
  | here =>
    rw [Patch.declaredName?_eq, hmodifier]
    rfl
  | @modifier modifier gap cs hmem hgap hbehind ih =>
    have hname := isName_of_mem_modifiers _ hmem
    have hhead : ∀ c ∈ cs.head?, isBlank c = false := fun c hc =>
      isBlank_of_isWord (hbehind.head? hsig c hc)
    have hblanks : afterBlanks? (gap ++ cs) = some cs :=
      afterBlanks?_eq_some_iff.2 ⟨gap, hgap, hhead, rfl⟩
    -- as a return type the modifier would leave no name behind it
    have hgiven : signatureName? (modifier ++ (gap ++ cs)) = none := by
      rw [signatureName?_eq, afterReturnType?_append_of_isGap hname hgap, Option.bind_some, hblanks,
        Option.bind_some, hbehind.openedName?_eq_none hsig hopened]
    rw [Patch.declaredName?_eq, afterModifier?_eq, takeWord_append_of_isGap hname hgap,
      if_pos hmem, dropWord_append_of_isGap hname hgap, hblanks, Option.bind_some, ih, hgiven,
      Option.or_none]

/-! ### Generic types -/

/-- A generic type is no modifier. -/
theorem afterModifier?_generic (hword : IsName word) :
    afterModifier? (word ++ '<' :: rest) = none := by
  rw [afterModifier?_eq, dropWord_append hword.2 isWord_of_mem_head?_less]
  exact ite_self none

theorem openedName?_generic (hword : IsName word) : openedName? (word ++ '<' :: rest) = none := by
  refine openedName?_eq_none ?_
  rw [dropWord_append hword.2 isWord_of_mem_head?_less]
  exact fun hhead => absurd (Option.some.inj hhead) (by decide)

/-- A name is read behind blanks if it stands there with a parenthesis behind it. -/
theorem afterBlanks?_bind_openedName?_iff :
    (afterBlanks? cs).bind openedName? = some name ↔
      ∃ gap pad rest, IsGap gap ∧ IsName name ∧ (∀ c ∈ pad, isBlank c = true) ∧
        cs = gap ++ (name ++ (pad ++ '(' :: rest)) := by
  constructor
  · intro h
    obtain ⟨opened, hgap, hopened⟩ := Option.bind_eq_some_iff.1 h
    obtain ⟨gap, hisGap, -, rfl⟩ := afterBlanks?_eq_some_iff.1 hgap
    obtain ⟨hname, pad, rest, hpad, rfl⟩ := exists_of_openedName? hopened
    exact ⟨gap, pad, rest, hisGap, hname, hpad, rfl⟩
  · rintro ⟨gap, pad, rest, hgap, hname, hpad, rfl⟩
    have hhead : ∀ c ∈ (name ++ (pad ++ '(' :: rest)).head?, isBlank c = false := fun c hc =>
      isBlank_of_isWord (hname.head? c hc)
    rw [afterBlanks?_eq_some_iff.2 ⟨gap, hgap, hhead, rfl⟩, Option.bind_some,
      openedName?_append hname hpad]

/-- **What is read behind a generic type** stands behind the first closing bracket. -/
theorem signatureName?_generic_iff (hword : IsName word) (hne : front ≠ []) (hclose : '>' ∉ front) :
    signatureName? (word ++ '<' :: (front ++ '>' :: behind)) = some name ↔
      ∃ gap pad rest, IsGap gap ∧ IsName name ∧ (∀ c ∈ pad, isBlank c = true) ∧
        behind = gap ++ (name ++ (pad ++ '(' :: rest)) := by
  rw [signatureName?_eq, afterReturnType?_generic hword hne hclose, Option.bind_some,
    afterBlanks?_bind_openedName?_iff]

/-! ### Nested types -/

/-- A name seems to stand inside the arguments of a type: right behind the first closing bracket
there are blanks, the name and a parenthesis. -/
def NamedInside (name inner : List Char) : Prop :=
  ∃ gap pad rest, IsGap gap ∧ IsName name ∧ (∀ c ∈ pad, isBlank c = true) ∧
    inner.dropWhile (· ≠ '>') = '>' :: (gap ++ (name ++ (pad ++ '(' :: rest)))

/-- A text in which some character does not stand ends before the first of these. -/
theorem eq_append_of_not_mem {c : Char} {opened more : List Char} (hopened : c ∉ opened)
    (h : behind ++ c :: rest = opened ++ more) : ∃ left, behind = opened ++ left := by
  rcases List.append_eq_append_iff.1 h with ⟨left, rfl, hleft⟩ | ⟨left, rfl, -⟩
  · cases left with
    | nil => exact ⟨[], by simp⟩
    | cons d left =>
      obtain ⟨rfl, -⟩ := List.cons.inj hleft
      simp at hopened
  · exact ⟨left, rfl⟩

theorem close_not_mem_of_blank (h : ∀ c ∈ gap, isBlank c = true) : '>' ∉ gap := fun hmem =>
  absurd (h '>' hmem) (by decide)

theorem close_not_mem_of_isName (h : IsName name) : '>' ∉ name := by
  intro hmem
  have hword := h.2 '>' hmem
  revert hword
  decide +kernel

/-- **What is read behind a nested type** stands inside its arguments, whatever comes behind the
last bracket. -/
theorem signatureName?_nested_iff (hword : IsName word) (hbalanced : Balanced inner)
    (hopen : '<' ∈ inner) :
    signatureName? (word ++ '<' :: (inner ++ '>' :: rest)) = some name ↔
      NamedInside name inner := by
  obtain ⟨front, behind, rfl, hfront⟩ :=
    List.eq_append_cons_of_mem (hbalanced.close_mem_iff.2 hopen)
  have hne : front ≠ [] := by
    rintro rfl
    exact hbalanced.head?_ne rfl
  rw [List.append_assoc, List.cons_append, signatureName?_generic_iff hword hne hfront, NamedInside,
    dropWhile_ne_append hfront]
  constructor
  · rintro ⟨gap, pad, more, hgap, hname, hpad, htext⟩
    have hopened : '>' ∉ gap ++ (name ++ (pad ++ ['('])) := by
      simp [close_not_mem_of_blank hgap.2, close_not_mem_of_isName hname,
        close_not_mem_of_blank hpad]
    have htext : behind ++ '>' :: rest = gap ++ (name ++ (pad ++ ['('])) ++ more := by
      simpa using htext
    obtain ⟨left, rfl⟩ := eq_append_of_not_mem hopened htext
    exact ⟨gap, pad, left, hgap, hname, hpad, by simp⟩
  · rintro ⟨gap, pad, more, hgap, hname, hpad, htext⟩
    obtain rfl := (List.cons.inj htext).2
    exact ⟨gap, pad, more ++ '>' :: rest, hgap, hname, hpad, by simp⟩

/-! ### Removed lines -/

/-- The line removes a public method whose return type is a word with arguments in angle brackets,
nested to any depth. -/
inductive RemovesGeneric (inner name : List Char) : List Char → Prop
  | line {indent gap cs word space pad rest : List Char}
      (indented : ∀ c ∈ indent, isBlank c = true) (isGap : IsGap gap) (isWord : IsName word)
      (ne_nil : inner ≠ []) (balanced : Balanced inner) (isSpace : IsGap space)
      (isName : IsName name) (padded : ∀ c ∈ pad, isBlank c = true)
      (behind : BehindModifiers
        (word ++ '<' :: (inner ++ '>' :: (space ++ (name ++ (pad ++ '(' :: rest))))) cs) :
      RemovesGeneric inner name ('-' :: (indent ++ ("public".toList ++ (gap ++ cs))))

/-- What is read off a line with a generic type is read behind that type's first bracket. -/
theorem removedMethod?_eq_signatureName? {indent : List Char}
    (hindent : ∀ c ∈ indent, isBlank c = true) (hgap : IsGap gap) (hword : IsName word)
    (hbehind : BehindModifiers (word ++ '<' :: rest) cs) :
    removedMethod? ('-' :: (indent ++ ("public".toList ++ (gap ++ cs)))) =
      signatureName? (word ++ '<' :: rest) := by
  have hpublic : ∀ c ∈ ("public".toList ++ (gap ++ cs)).head?, isBlank c = false := by
    rintro c hc
    obtain rfl : 'p' = c := Option.some.inj hc
    rfl
  have hhead : ∀ c ∈ cs.head?, isBlank c = false := fun c hc =>
    isBlank_of_isWord (hbehind.head? hword.head? c hc)
  rw [removedMethod?_cons, trimStart_append hindent hpublic, publicName?, isPrefixOf?_append,
    Option.bind_some, afterBlanks?_eq_some_iff.2 ⟨gap, hgap, hhead, rfl⟩, Option.bind_some,
    hbehind.declaredName?_eq hword.head? (afterModifier?_generic hword) (openedName?_generic hword)]

/-- **Which removals are read.** If the arguments of the return type are not nested, the method's
name is read. If they are, whatever is read is a word inside the arguments; so nothing is read if
there is no parenthesis among them. -/
theorem removedMethod?_of_generic (inner name line : List Char)
    (h : RemovesGeneric inner name line) :
    ('<' ∉ inner → removedMethod? line = some name) ∧
    ('<' ∈ inner → ∀ other, removedMethod? line = some other ↔ NamedInside other inner) ∧
    ('<' ∈ inner → '(' ∉ inner → removedMethod? line = none) := by
  obtain ⟨hindent, hgap, hword, hne, hbalanced, hspace, hname, hpad, hbehind⟩ := h
  rename_i indent gap cs word space pad rest
  rw [removedMethod?_eq_signatureName? hindent hgap hword hbehind]
  refine ⟨fun hopen => ?_, fun hopen other => signatureName?_nested_iff hword hbalanced hopen,
    fun hopen hparen => Option.eq_none_iff_forall_ne_some.2 fun other hother => ?_⟩
  · have hclose : '>' ∉ inner := mt hbalanced.close_mem_iff.1 hopen
    exact (signatureName?_generic_iff hword hne hclose).2
      ⟨space, pad, rest, hspace, hname, hpad, rfl⟩
  · obtain ⟨gap, pad, more, -, -, -, htext⟩ :=
      (signatureName?_nested_iff hword hbalanced hopen).1 hother
    have hmem : '(' ∈ inner.dropWhile (· ≠ '>') := by
      rw [htext]
      simp
    exact hparen ((List.dropWhile_suffix _).mem hmem)

/-- Two modifiers and three levels of arguments. -/
theorem removedMethod?_of_nested_dictionary :
    let inner := "string, List<Map<int, int>>".toList
    let line := "- public static async Dictionary<string, List<Map<int, int>>> Load (int id)".toList
    RemovesGeneric inner "Load".toList line ∧ '<' ∈ inner ∧ '(' ∉ inner ∧
      removedMethod? line = none := by
  intro inner line
  have hgap : IsGap [' '] := by decide
  have hplain : Balanced ("int, int".toList ++ []) := .append (by decide) (by decide) .nil
  have hmap : Balanced ("Map".toList ++ '<' :: ("int, int".toList ++ ['>'])) :=
    .append (by decide) (by decide) (.nested hplain .nil)
  have hlist : Balanced ("string, List".toList ++
      '<' :: ("Map".toList ++ '<' :: ("int, int".toList ++ ['>']) ++ ['>'])) :=
    .append (by decide) (by decide) (.nested hmap .nil)
  have hbalanced : Balanced inner := hlist
  have hword : IsName "Dictionary".toList := by decide +kernel
  have hname : IsName "Load".toList := by decide +kernel
  have hstatic : "static".toList ∈ modifiers := by decide
  have hasync : "async".toList ∈ modifiers := by decide
  have hremoves : RemovesGeneric inner "Load".toList line :=
    .line hgap.2 hgap hword (by decide) hbalanced hgap hname hgap.2
      (.modifier hstatic hgap (.modifier hasync hgap .here))
  have hopen : '<' ∈ inner := by decide
  have hparen : '(' ∉ inner := by decide
  exact ⟨hremoves, hopen, hparen, (removedMethod?_of_generic _ _ _ hremoves).2.2 hopen hparen⟩

/-- The removal of a method whose result is a task for a list is not reported. -/
theorem removedMethod?_misses_task_of_list :
    let line := "- public Task<List<string>> LoadAsync()"
    RemovesGeneric "List<string>".toList "LoadAsync".toList line.toList ∧
      removedMethod? line.toList = none ∧ DeletedMethod.ofFiles [⟨"Loader.cs", line⟩] = [] := by
  intro line
  have hgap : IsGap [' '] := by decide
  have hplain : Balanced ("string".toList ++ []) := .append (by decide) (by decide) .nil
  have hlist : Balanced ("List".toList ++ '<' :: ("string".toList ++ ['>'])) :=
    .append (by decide) (by decide) (.nested hplain .nil)
  have hbalanced : Balanced "List<string>".toList := hlist
  have hword : IsName "Task".toList := by decide +kernel
  have hname : IsName "LoadAsync".toList := by decide +kernel
  have hpad : ∀ c ∈ ([] : List Char), isBlank c = true := nofun
  have hremoves : RemovesGeneric "List<string>".toList "LoadAsync".toList
      "- public Task<List<string>> LoadAsync()".toList :=
    .line hgap.2 hgap hword (by decide) hbalanced hgap hname hpad .here
  refine ⟨hremoves, ?_, ?_⟩
  · decide +kernel
  · decide +kernel

end Patch

end PullReport
