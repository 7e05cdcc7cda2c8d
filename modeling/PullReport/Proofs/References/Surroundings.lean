import PullReport.Proofs.References.Tag
import PullReport.Proofs.References.WrittenTags
import PullReport.Proofs.Text.Pieces

/-!
# What stands around a tag

A tag is looked for at every place of a line, and its values may hold anything but quotes, blanks
and edit signs included. Still it does not matter what stands around it. A tag begins with an
opening bracket, so the search passes over what comes before the first of these. And it ends with a
closing bracket: a reader that has got there has what it wants, and one that has not got there will
not get there on account of a text without such a bracket. The second half is the one that needs an
argument, because a closing bracket may also be part of a value, and then the reader goes on.

So a line may be searched with or without its edit sign, and with or without the blanks at its ends.

## Main definitions

* `ReferenceTag.ReadsToBracket`: a text is read up to a closing bracket.

## Main results

* `ReferenceTag.readsToBracket_at?`: so it is if there is a tag.
* `ReferenceTag.find?_surrounded`: what may stand around a line.
* `ReferenceTag.find?_trim_and_signed`: blanks and edit signs.
-/

namespace PullReport

namespace ReferenceTag

open Text

/-! ### Reading up to a bracket -/

section Bracket

variable {α β : Type}

/-- A text is read up to a closing bracket in it, for the same is read with anything else behind
that bracket. -/
def ReadsToBracket (read : List Char → α) (cs : List Char) : Prop :=
  ∃ front after, cs = front ++ '>' :: after ∧ ∀ other, read (front ++ '>' :: other) = read cs

/-- A reader that makes of the end of a text only what another one makes of it goes as far as that
one does. -/
theorem ReadsToBracket.append {read : List Char → α} {inner : List Char → β}
    {front rest : List Char} (hrest : ReadsToBracket inner rest)
    (h : ∀ rest other, inner rest = inner other → read (front ++ rest) = read (front ++ other)) :
    ReadsToBracket read (front ++ rest) := by
  obtain ⟨inside, after, rfl, hother⟩ := hrest
  refine ⟨front ++ inside, after, (List.append_assoc _ _ _).symm, fun other => ?_⟩
  rw [List.append_assoc]
  exact h _ _ (hother other)

/-- What reads up to a closing bracket whenever it reads anything does not see a text behind in
which there is none. -/
theorem apply_append_of_readsToBracket {read? : List Char → Option α}
    (h : ∀ cs a, read? cs = some a → ReadsToBracket read? cs) {tail : List Char}
    (htail : '>' ∉ tail) (cs : List Char) : read? (cs ++ tail) = read? cs := by
  refine Option.ext fun a => ⟨fun ha => ?_, fun ha => ?_⟩
  · obtain ⟨front, after, heq, hother⟩ := h _ a ha
    obtain ⟨after', rfl⟩ := exists_eq_append_cons_of_append htail heq
    rw [hother, ha]
  · obtain ⟨front, after, rfl, hother⟩ := h _ a ha
    rw [List.append_assoc, List.cons_append, hother, ha]

end Bracket

variable {kind : ReferenceKind} {cs version ending lead tail : List Char} {tag : ReferenceTag}

/-! ### The end of a tag -/

theorem Ends.exists_front (h : Ends ending) : ∃ front, ending = front ++ ['>'] := by
  cases h with
  | @closed pad => exact ⟨pad ++ ['/'], by simp⟩
  | @opened pad => exact ⟨pad, rfl⟩

theorem exists_ends_of_closes (h : closes cs = true) :
    ∃ ending after, Ends ending ∧ cs = ending ++ after := by
  have hblank : ∀ c ∈ cs.takeWhile isBlank, isBlank c = true := fun _ => of_mem_takeWhile
  have hcs : cs.takeWhile isBlank ++ trimStart cs = cs := List.takeWhile_append_dropWhile
  rw [closes] at h
  split at h
  · rename_i rest hrest
    rw [hrest] at hcs
    exact ⟨_, rest, .opened hblank, hcs.symm.trans (by simp)⟩
  · rename_i rest hrest
    rw [hrest] at hcs
    exact ⟨_, rest, .closed hblank, hcs.symm.trans (by simp)⟩
  · cases h

/-- What reads the same behind the end of a tag, whatever comes then, reads up to its bracket. -/
theorem readsToBracket_of_ends {α : Type} {read : List Char → α} {a : α} (hends : Ends ending)
    (h : ∀ after, read (ending ++ after) = a) (after : List Char) :
    ReadsToBracket read (ending ++ after) := by
  obtain ⟨front, rfl⟩ := hends.exists_front
  refine ⟨front, after, by simp, fun other => ?_⟩
  rw [h, ← h other, List.append_assoc, List.singleton_append]

theorem readsToBracket_closes (h : closes cs = true) : ReadsToBracket closes cs := by
  obtain ⟨ending, after, hends, rfl⟩ := exists_ends_of_closes h
  exact readsToBracket_of_ends hends (closes_append hends) after

/-! ### Versions and tags -/

/-- Where no version is given, the tag ends at once. -/
theorem readsToBracket_version?_of_closes (hkind : kind ≠ .package) (h : closes cs = true) :
    ReadsToBracket (version? kind) cs := by
  obtain ⟨ending, after, hends, rfl⟩ := exists_ends_of_closes h
  exact readsToBracket_of_ends hends ((WritesVersion.none hkind).version?_append hends) after

/-- An attribute that is read is written at the front of the text. -/
theorem eq_append_of_attribute? {key value rest : List Char}
    (h : attribute? key cs = some (value, rest)) :
    cs = attributeText key value ++ rest ∧ '"' ∉ value := by
  obtain ⟨rfl, hvalue⟩ := attribute?_eq_some h
  exact ⟨by simp [attributeText], hvalue⟩

theorem readsToBracket_version? (h : version? kind cs = some version) :
    ReadsToBracket (version? kind) cs := by
  cases kind with
  | package =>
    obtain ⟨behind, hbehind, h⟩ := Option.bind_eq_some_iff.1 h
    obtain ⟨⟨value, rest⟩, hattribute, h⟩ := Option.bind_eq_some_iff.1 h
    obtain ⟨⟨-, hcloses⟩, -⟩ := Option.ite_none_right_eq_some.1 h
    obtain ⟨gap, hgap, -, rfl⟩ := afterBlanks?_eq_some_iff.1 hbehind
    obtain ⟨rfl, hvalue⟩ := eq_append_of_attribute? hattribute
    rw [← List.append_assoc]
    refine (readsToBracket_closes hcloses).append fun rest other heq => ?_
    rw [List.append_assoc, List.append_assoc, version?_package_append hgap hvalue,
      version?_package_append hgap hvalue, heq]
  | project =>
    exact readsToBracket_version?_of_closes (by decide) (Option.ite_none_right_eq_some.1 h).1
  | framework =>
    exact readsToBracket_version?_of_closes (by decide) (Option.ite_none_right_eq_some.1 h).1
  | assembly =>
    rw [version?] at h
    split at h
    · rename_i value rest hattribute
      have hcloses : closes rest = true := (Option.ite_none_right_eq_some.1 h).1
      have hpad : ∀ c ∈ cs.takeWhile isBlank, isBlank c = true := fun _ => of_mem_takeWhile
      have hcs : cs.takeWhile isBlank ++ trimStart cs = cs := List.takeWhile_append_dropWhile
      obtain ⟨htrim, hvalue⟩ := eq_append_of_attribute? hattribute
      rw [← hcs, htrim, ← List.append_assoc]
      refine (readsToBracket_closes hcloses).append fun rest other heq => ?_
      rw [List.append_assoc, List.append_assoc, version?_assembly_append hpad hvalue,
        version?_assembly_append hpad hvalue, heq]
    · exact readsToBracket_version?_of_closes (by decide) (Option.ite_none_right_eq_some.1 h).1

/-- **A tag is read up to its closing bracket.** -/
theorem readsToBracket_at? (h : at? kind cs = some tag) : ReadsToBracket (at? kind) cs := by
  obtain ⟨opened, hopened, h⟩ := Option.bind_eq_some_iff.1 h
  obtain ⟨behind, hbehind, h⟩ := Option.bind_eq_some_iff.1 h
  obtain ⟨⟨name, rest⟩, hattribute, h⟩ := Option.bind_eq_some_iff.1 h
  obtain ⟨hne, h⟩ := Option.ite_none_left_eq_some.1 h
  obtain ⟨version, hversion, -⟩ := Option.map_eq_some_iff.1 h
  obtain rfl := isPrefixOf?_eq_some_iff.1 hopened
  obtain ⟨gap, hgap, -, rfl⟩ := afterBlanks?_eq_some_iff.1 hbehind
  obtain ⟨rfl, hname⟩ := eq_append_of_attribute? hattribute
  have hat : ∀ rest, at? kind ('<' :: kind.tagName.toList ++ gap ++
      attributeText "Include".toList name ++ rest) = (version? kind rest).map fun version =>
        ⟨kind, String.ofList name, String.ofList version⟩ := by
    intro rest
    rw [List.append_assoc, List.append_assoc]
    exact at?_name hgap hname hne rest
  rw [← List.append_assoc, ← List.append_assoc]
  refine (readsToBracket_version? hversion).append fun rest other heq => ?_
  rw [hat, hat, heq]

/-! ### Whole lines -/

theorem at?_append_of_not_mem (htail : '>' ∉ tail) (cs : List Char) :
    at? kind (cs ++ tail) = at? kind cs :=
  apply_append_of_readsToBracket (fun _ _ => readsToBracket_at?) htail cs

/-- **What may stand around a line**: before it anything without an opening bracket, and behind it
anything without a closing one. -/
theorem find?_surrounded (hlead : '<' ∉ lead) (htail : '>' ∉ tail) (line : List Char) :
    find? (lead ++ (line ++ tail)) = find? line := by
  rw [find?, find?]
  congr 1
  funext kind
  rw [leftmost?_append_of_not_mem (fun _ => at?_eq_none) hlead,
    leftmost?_append_of_unseen (fun _ => at?_append_of_not_mem) htail]

theorem find?_cons_of_ne {c : Char} (hc : '<' ≠ c) (line : List Char) :
    find? (c :: line) = find? line := by
  have hlead : '<' ∉ [c] := mt List.mem_singleton.1 hc
  have h := find?_surrounded hlead List.not_mem_nil line
  rwa [List.append_nil] at h

theorem find?_trim (line : List Char) : find? (trim line) = find? line := by
  obtain ⟨lead, tail, hlead, htail, hline⟩ := exists_blanks_trim line
  have hopen : '<' ∉ lead := fun hmem => absurd (hlead '<' hmem) (by decide)
  have hclose : '>' ∉ tail := fun hmem => absurd (htail '>' hmem) (by decide)
  rw [← find?_surrounded hopen hclose (trim line), ← hline]

/-- **Blanks and edit signs.** A line has the same tag, or none, whether the blanks at its ends are
taken off it or not. Nor is there another one in it if an edit sign stands before it. So the
reference that a patch line mentions may be looked for in the line as it is, sign and all. -/
theorem find?_trim_and_signed (line : List Char) :
    find? (trim line) = find? line ∧
      find? ('+' :: line) = find? (trim line) ∧ find? ('-' :: line) = find? (trim line) ∧
        ReferenceMention.ofLine? ('+' :: line) = (find? ('+' :: line)).map (.ofTag .new) ∧
          ReferenceMention.ofLine? ('-' :: line) = (find? ('-' :: line)).map (.ofTag .old) := by
  have hsigned {sign : Char} (hsign : '<' ≠ sign) : find? (sign :: line) = find? (trim line) := by
    rw [find?_cons_of_ne hsign, find?_trim]
  refine ⟨find?_trim line, hsigned (by decide), hsigned (by decide), ?_, ?_⟩
  · rw [hsigned (by decide), ReferenceMention.ofLine?]
  · rw [hsigned (by decide), ReferenceMention.ofLine?]

end ReferenceTag

end PullReport
