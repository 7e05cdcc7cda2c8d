import PullReport.Analysis.ReferenceChange
import PullReport.Analysis.TestTally
import PullReport.Patch.MethodDeclaration
import PullReport.Proofs.Text.LineEnds
import PullReport.Proofs.Text.Reading

/-!
# Carriage returns at the end of a line

Nothing that is read off a line of a patch depends on carriage returns at its end. For most readings
that is so because they look for fixed texts without carriage returns in them. The declaration of a
method is another matter: a carriage return is a blank, and blanks may end a modifier, so with one
more of them a reader can get further than before. But it gets to the end of the line only, where no
name is found, and so it comes to the same.

## Main definitions

* `Text.trailed`: a text with a carriage return behind it, unless it is empty.

## Main results

* `Text.isPrefixOf?_concat`, `Text.occursIn_concat`, `Text.trimStart_concat`, `Text.trim_concat`:
  searches and blanks.
* `Patch.removedMethod?_concat`: the declaration of a method.
* `TestTally.counts_trimReturns`, `Patch.removedMethod?_trimReturns`,
  `ReferenceMention.ofLine?_trimReturns`: the readings of lines.
-/

namespace PullReport

namespace Text

/-! ### Fixed texts -/

variable {part : List Char} {c : Char}

theorem isPrefixOf?_concat (hc : c ∉ part) (cs : List Char) :
    part.isPrefixOf? (cs ++ [c]) = (part.isPrefixOf? cs).map (· ++ [c]) := by
  induction part generalizing cs with
  | nil => rfl
  | cons d part ih =>
    obtain ⟨hd, hpart⟩ := not_or.1 (mt List.mem_cons.2 hc)
    cases cs with
    | nil => simp [List.isPrefixOf?, Ne.symm hd]
    | cons e cs =>
      by_cases he : d = e
      · simpa [List.isPrefixOf?, he] using ih hpart cs
      · simp [List.isPrefixOf?, he]

theorem isPrefixOf_concat (hc : c ∉ part) (cs : List Char) :
    part.isPrefixOf (cs ++ [c]) = part.isPrefixOf cs := by
  rw [Bool.eq_iff_iff, List.isPrefixOf_iff_prefix, List.isPrefixOf_iff_prefix,
    List.prefix_concat_iff, or_iff_right]
  rintro rfl
  exact hc (List.mem_append_right _ List.mem_cons_self)

theorem occursIn_iff {cs : List Char} : occursIn part cs = true ↔ part <:+: cs := by
  induction cs with
  | nil => simp [occursIn]
  | cons d cs ih =>
    rw [occursIn, Bool.or_eq_true, ih, List.isPrefixOf_iff_prefix, List.infix_cons_iff]

theorem occursIn_concat (hc : c ∉ part) (cs : List Char) :
    occursIn part (cs ++ [c]) = occursIn part cs := by
  rw [Bool.eq_iff_iff, occursIn_iff, occursIn_iff, List.infix_concat_iff]
  constructor
  · rintro (hsuffix | hinfix)
    · rcases List.suffix_concat_iff.1 hsuffix with rfl | ⟨front, rfl, -⟩
      · exact List.nil_infix
      · exact absurd (List.mem_append_right _ List.mem_cons_self) hc
    · exact hinfix
  · exact Or.inr

/-! ### Blanks and words -/

/-- A text with a carriage return behind it, unless it is empty. -/
def trailed (cs : List Char) : List Char := if cs = [] then [] else cs ++ ['\r']

/-- What does not see a carriage return behind a text does not see one unless the text is empty. -/
theorem apply_trailed {α : Type} {f : List Char → α} {cs : List Char}
    (h : f (cs ++ ['\r']) = f cs) : f (trailed cs) = f cs := by
  rw [trailed]
  split
  · rename_i hcs
    rw [hcs]
  · exact h

theorem trimStart_concat (cs : List Char) : trimStart (cs ++ ['\r']) = trailed (trimStart cs) := by
  rw [trimStart, List.dropWhile_append, trailed, ← trimStart]
  by_cases h : trimStart cs = []
  · simp [h, isBlank]
  · rw [if_neg h, if_neg (mt List.isEmpty_iff.1 h)]

theorem afterBlanks?_concat {cs : List Char} (h : cs ≠ []) :
    afterBlanks? (cs ++ ['\r']) = (afterBlanks? cs).map trailed := by
  cases cs with
  | nil => exact absurd rfl h
  | cons c cs =>
    rw [List.cons_append, afterBlanks?, afterBlanks?, trimStart_concat]
    split <;> rfl

theorem trimEnd_concat (cs : List Char) : trimEnd (cs ++ ['\r']) = trimEnd cs := by
  rw [trimEnd, List.reverse_append, List.reverse_singleton, List.singleton_append,
    List.dropWhile_cons_of_pos (by decide), ← trimEnd]

theorem trim_concat (cs : List Char) : trim (cs ++ ['\r']) = trim cs := by
  rw [trim, trimStart_concat, apply_trailed (trimEnd_concat _), ← trim]

theorem isWord_return : isWord '\r' = false := by decide +kernel

theorem takeWord_concat (cs : List Char) : takeWord (cs ++ ['\r']) = takeWord cs := by
  induction cs with
  | nil => simp [takeWord, isWord_return]
  | cons c cs ih =>
    rw [takeWord] at ih ⊢
    rw [List.cons_append, List.takeWhile_cons, ih, takeWord, takeWord, List.takeWhile_cons]

theorem dropWord_concat (cs : List Char) : dropWord (cs ++ ['\r']) = dropWord cs ++ ['\r'] := by
  induction cs with
  | nil => simp [dropWord, isWord_return]
  | cons c cs ih =>
    rw [dropWord] at ih ⊢
    rw [List.cons_append, List.dropWhile_cons, ih, dropWord, dropWord, List.dropWhile_cons]
    split <;> rfl

theorem enclosed?_eq_none {close : Char} {cs : List Char} (h : cs.dropWhile (· ≠ close) = []) :
    enclosed? close cs = none := by
  rw [enclosed?, h]
  cases cs.takeWhile (· ≠ close) <;> rfl

/-- A carriage return closes nothing, so what is enclosed stays the same. -/
theorem enclosed?_concat {close : Char} (hclose : close ≠ '\r') (cs : List Char) :
    enclosed? close (cs ++ ['\r']) = (enclosed? close cs).map (Prod.map id (· ++ ['\r'])) := by
  cases hdrop : cs.dropWhile (· ≠ close) with
  | nil =>
    rw [enclosed?_eq_none hdrop, enclosed?_eq_none]
    · rfl
    · rw [List.dropWhile_append, hdrop, if_pos List.isEmpty_nil,
        List.dropWhile_cons_of_pos (by simpa using Ne.symm hclose), List.dropWhile_nil]
  | cons d rest =>
    obtain ⟨hcs, -⟩ := eq_append_of_dropWhile_eq_cons hdrop
    have hlength : (cs.takeWhile (· ≠ close)).length ≠ cs.length := by
      intro heq
      have hlen := congrArg List.length hcs
      simp only [List.length_append, List.length_cons] at hlen
      omega
    rw [enclosed?, enclosed?, List.dropWhile_append, hdrop, if_neg (by simp),
      List.takeWhile_append, if_neg hlength]
    cases cs.takeWhile (· ≠ close) <;> rfl

end Text

/-- Where the readings of a list's elements differ in a last step, so do the first of them. -/
theorem findSome?_eq_map {α β : Type} {f g : α → Option β} {step : β → β} {l : List α}
    (h : ∀ a ∈ l, f a = (g a).map step) : l.findSome? f = (l.findSome? g).map step := by
  induction l with
  | nil => rfl
  | cons a l ih =>
    rw [List.findSome?_cons, List.findSome?_cons, h a List.mem_cons_self]
    cases g a with
    | some b => rfl
    | none => exact ih fun b hb => h b (List.mem_cons_of_mem _ hb)

namespace Patch

open Text

/-! ### Signs, comments and markers -/

theorem sign_concat (line : List Char) : sign (line ++ ['\r']) = sign line := by
  cases line with
  | nil => rfl
  | cons c line =>
    rw [List.cons_append, sign.eq_def, sign.eq_def]
    split <;> split <;> simp_all

theorem isCommentedOut_concat (line : List Char) :
    isCommentedOut (line ++ ['\r']) = isCommentedOut line := by
  have hdrop : (line ++ ['\r']).dropWhile isMargin = line.dropWhile isMargin ++ ['\r'] := by
    rw [List.dropWhile_append]
    split
    · rename_i hempty
      rw [List.isEmpty_iff.1 hempty]
      rfl
    · rfl
  rw [isCommentedOut, hdrop, isPrefixOf_concat (by decide), isCommentedOut]

theorem hasTestMarker_concat (line : List Char) :
    hasTestMarker (line ++ ['\r']) = hasTestMarker line := by
  have hmarkers : ∀ marker ∈ testMarkers, '\r' ∉ marker := by decide
  rw [hasTestMarker, hasTestMarker, Bool.eq_iff_iff, List.any_eq_true, List.any_eq_true]
  refine exists_congr fun marker => and_congr_right fun hmarker => ?_
  rw [occursIn_concat (hmarkers marker hmarker)]

/-! ### Declarations of methods -/

/-- A modifier that a text is read behind ends in a blank, which may be the carriage return. -/
theorem afterModifier?_concat {cs : List Char} (h : cs ∉ modifiers) :
    afterModifier? (cs ++ ['\r']) = (afterModifier? cs).map trailed := by
  have hmodifiers : ∀ modifier ∈ modifiers, '\r' ∉ modifier := by decide
  have hread : ∀ modifier ∈ modifiers,
      (modifier.isPrefixOf? (cs ++ ['\r'])).bind afterBlanks? =
        ((modifier.isPrefixOf? cs).bind afterBlanks?).map trailed := by
    intro modifier hmodifier
    rw [isPrefixOf?_concat (hmodifiers modifier hmodifier)]
    cases hrest : modifier.isPrefixOf? cs with
    | none => rfl
    | some rest =>
      have hne : rest ≠ [] := by
        rintro rfl
        have heq := isPrefixOf?_eq_some_iff.1 hrest
        rw [List.append_nil] at heq
        exact h (heq ▸ hmodifier)
      exact afterBlanks?_concat hne
  exact findSome?_eq_map hread

theorem afterModifier?_of_mem : ∀ modifier ∈ modifiers,
    afterModifier? modifier = none ∧ afterModifier? (modifier ++ ['\r']) = some [] := by
  decide

theorem afterTypeArguments_concat (cs : List Char) :
    afterTypeArguments (cs ++ ['\r']) = afterTypeArguments cs ++ ['\r'] := by
  cases cs with
  | nil => rfl
  | cons c cs =>
    by_cases hc : c = '<'
    · rw [hc, List.cons_append, afterTypeArguments, afterTypeArguments,
        enclosed?_concat (by decide)]
      cases enclosed? '>' cs <;> rfl
    · simp [afterTypeArguments, hc]

theorem afterReturnType?_concat (cs : List Char) :
    afterReturnType? (cs ++ ['\r']) = (afterReturnType? cs).map (· ++ ['\r']) := by
  have hword : ∀ text : List Char,
      (if takeWord (text ++ ['\r']) = [] then none
        else some (afterTypeArguments (dropWord (text ++ ['\r'])))) =
      (if takeWord text = [] then none
        else some (afterTypeArguments (dropWord text))).map (· ++ ['\r']) := by
    intro text
    rw [takeWord_concat, dropWord_concat, afterTypeArguments_concat]
    split <;> rfl
  cases cs with
  | nil => exact hword []
  | cons c cs =>
    by_cases hc : c = '('
    · rw [hc, List.cons_append, afterReturnType?, afterReturnType?, enclosed?_concat (by decide)]
      cases enclosed? ')' cs <;> rfl
    · have hnot : ∀ text : List Char, afterReturnType? (c :: text) =
          if takeWord (c :: text) = [] then none
          else some (afterTypeArguments (dropWord (c :: text))) := by
        intro text
        simp [afterReturnType?, hc]
      rw [List.cons_append, hnot, hnot]
      exact hword (c :: cs)

/-- The name at the front of a text, if an opening parenthesis follows it. -/
def openedName? (cs : List Char) : Option (List Char) :=
  match takeWord cs, trimStart (dropWord cs) with
  | [], _ => none
  | name, '(' :: _ => some name
  | _, _ => none

theorem signatureName?_eq (cs : List Char) :
    signatureName? cs =
      (afterReturnType? cs).bind fun behind => (afterBlanks? behind).bind openedName? := rfl

theorem openedName?_concat (cs : List Char) : openedName? (cs ++ ['\r']) = openedName? cs := by
  rw [openedName?, openedName?, takeWord_concat, dropWord_concat, trimStart_concat]
  cases hword : takeWord cs with
  | nil => rfl
  | cons d word =>
    cases trimStart (dropWord cs) with
    | nil => rfl
    | cons e rest =>
      by_cases he : e = '('
      · simp [trailed, he]
      · simp [trailed, he]

/-- Blanks that are passed over may go on to the end of the line, where nothing is found. -/
theorem afterBlanks?_bind_concat {α : Type} {read? : List Char → Option α}
    (hnil : read? [] = none) (h : ∀ cs, read? (cs ++ ['\r']) = read? cs) (cs : List Char) :
    (afterBlanks? (cs ++ ['\r'])).bind read? = (afterBlanks? cs).bind read? := by
  by_cases hcs : cs = []
  · rw [hcs]
    exact hnil
  · rw [afterBlanks?_concat hcs]
    cases afterBlanks? cs with
    | none => rfl
    | some rest => exact apply_trailed (h rest)

theorem signatureName?_concat (cs : List Char) :
    signatureName? (cs ++ ['\r']) = signatureName? cs := by
  rw [signatureName?_eq, signatureName?_eq, afterReturnType?_concat]
  cases afterReturnType? cs with
  | none => rfl
  | some rest => exact afterBlanks?_bind_concat rfl openedName?_concat rest

theorem declaredName?_eq (cs : List Char) :
    declaredName? cs = ((afterModifier? cs).bind declaredName?).or (signatureName? cs) := by
  rw [declaredName?]
  split
  · rename_i rest hrest
    rw [hrest, Option.bind_some]
    cases declaredName? rest <;> rfl
  · rename_i hnone
    rw [hnone]
    rfl

theorem declaredName?_nil : declaredName? [] = none := by
  rw [declaredName?_eq]
  decide +kernel

/-- **Modifiers and signatures.** On the length of the text, since a modifier is read off its
front. -/
theorem declaredName?_concat (cs : List Char) :
    declaredName? (cs ++ ['\r']) = declaredName? cs := by
  induction hn : cs.length using Nat.strong_induction_on generalizing cs with
  | _ n ih =>
    rw [declaredName?_eq, declaredName?_eq cs, signatureName?_concat]
    by_cases hcs : cs ∈ modifiers
    · -- the carriage return ends the modifier, and nothing stands behind it
      obtain ⟨hnone, hsome⟩ := afterModifier?_of_mem cs hcs
      rw [hnone, hsome, Option.bind_some, declaredName?_nil]
      rfl
    · rw [afterModifier?_concat hcs]
      cases hrest : afterModifier? cs with
      | none => rfl
      | some rest =>
        have hlt : rest.length < n := hn ▸ length_of_afterModifier? hrest
        rw [Option.map_some, Option.bind_some, Option.bind_some,
          apply_trailed (ih rest.length hlt rest rfl)]

/-- The name declared behind the word that makes a method public. -/
def publicName? (cs : List Char) : Option (List Char) :=
  ("public".toList.isPrefixOf? cs).bind fun behind => (afterBlanks? behind).bind declaredName?

theorem publicName?_concat (cs : List Char) : publicName? (cs ++ ['\r']) = publicName? cs := by
  rw [publicName?, publicName?, isPrefixOf?_concat (by decide)]
  cases "public".toList.isPrefixOf? cs with
  | none => rfl
  | some rest => exact afterBlanks?_bind_concat declaredName?_nil declaredName?_concat rest

theorem removedMethod?_cons (cs : List Char) :
    removedMethod? ('-' :: cs) = publicName? (trimStart cs) := rfl

theorem removedMethod?_concat (line : List Char) :
    removedMethod? (line ++ ['\r']) = removedMethod? line := by
  cases line with
  | nil => rfl
  | cons c cs =>
    by_cases hc : c = '-'
    · rw [hc, List.cons_append, removedMethod?_cons, removedMethod?_cons, trimStart_concat,
        apply_trailed (publicName?_concat _)]
    · simp [removedMethod?, hc]

theorem removedMethod?_trimReturns (line : List Char) :
    removedMethod? (trimReturns line) = removedMethod? line :=
  apply_trimReturns removedMethod?_concat line

end Patch

/-! ### Tests and references -/

theorem TestTally.counts_trimReturns (side : Patch.Sign) (line : List Char) :
    counts side (Text.trimReturns line) = counts side line := by
  refine Text.apply_trimReturns (fun line => ?_) line
  rw [counts, counts, Patch.isCommentedOut_concat, Patch.hasTestMarker_concat, Patch.sign_concat]

theorem ReferenceMention.ofLine?_trimReturns (line : List Char) :
    ofLine? (Text.trimReturns line) = ofLine? line := by
  refine Text.apply_trimReturns (fun line => ?_) line
  cases line with
  | nil => rfl
  | cons c content =>
    by_cases hplus : c = '+'
    · rw [hplus, List.cons_append, ofLine?, ofLine?, Text.trim_concat]
    · by_cases hminus : c = '-'
      · rw [hminus, List.cons_append, ofLine?, ofLine?, Text.trim_concat]
      · simp [ofLine?, hplus, hminus]

end PullReport
