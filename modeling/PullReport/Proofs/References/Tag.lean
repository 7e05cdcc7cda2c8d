import PullReport.Analysis.ReferenceChange
import PullReport.Proofs.Text.Reading

/-!
# What a tag and a mention can hold

A tag is read from one line, so its name and its version are stretches of that line. What else they
can be depends on the kind: a package always has a version that is not empty, a project or a
framework never has one and is recorded under the sentinel, and an assembly may have any.

## Main definitions

* `ReferenceMention.WellVersioned`: the version of a mention is one that its kind allows.
* `ReferenceMention.OnOneLine`: neither name nor version has a line feed in it.

## Main results

* `ReferenceTag.find?_eq_some`: a tag that is found, taken apart.
* `ReferenceMention.wellVersioned_of_ofLine?`, `ReferenceMention.onOneLine_of_mem_lines`: what this
  means for the mentions in a patch.
-/

namespace PullReport

open Text

namespace ReferenceTag

/-! ### Attributes -/

/-- An attribute that is read is the key, an equals sign, and a value in quotes that has no quote in
it. -/
theorem attribute?_eq_some {key cs value rest : List Char}
    (h : attribute? key cs = some (value, rest)) :
    cs = key ++ ['=', '"'] ++ value ++ '"' :: rest ∧ '"' ∉ value := by
  obtain ⟨behind, hbehind, h⟩ := Option.bind_eq_some_iff.1 h
  rw [← append_of_isPrefixOf? hbehind, List.append_assoc]
  cases hdrop : behind.dropWhile (· ≠ '"') with
  | nil =>
    rw [hdrop] at h
    cases h
  | cons quote behindQuote =>
    rw [hdrop] at h
    obtain ⟨rfl, rfl⟩ := Prod.mk.inj (Option.some.inj h)
    obtain ⟨hbehind, hquote⟩ := eq_append_of_dropWhile_eq_cons hdrop
    obtain rfl : quote = '"' := by simpa using hquote
    refine ⟨by rw [List.append_assoc, List.append_assoc, ← hbehind], fun hmem => ?_⟩
    simpa using List.all_eq_true.1 List.all_takeWhile _ hmem

theorem value_infix_of_attribute? {key cs value rest : List Char}
    (h : attribute? key cs = some (value, rest)) : value <:+: cs := by
  rw [(attribute?_eq_some h).1]
  exact ⟨key ++ ['=', '"'], '"' :: rest, rfl⟩

theorem rest_suffix_of_attribute? {key cs value rest : List Char}
    (h : attribute? key cs = some (value, rest)) : rest <:+ cs := by
  rw [(attribute?_eq_some h).1]
  exact ⟨key ++ ['=', '"'] ++ value ++ ['"'], by simp⟩

/-! ### Versions -/

theorem version?_isInfix {kind : ReferenceKind} {cs version : List Char}
    (h : version? kind cs = some version) : version <:+: cs := by
  cases kind with
  | package =>
    obtain ⟨behind, hbehind, h⟩ := Option.bind_eq_some_iff.1 h
    obtain ⟨⟨value, rest⟩, hattribute, h⟩ := Option.bind_eq_some_iff.1 h
    obtain ⟨-, rfl⟩ := Option.ite_none_right_eq_some.1 h |>.imp_right Option.some.inj
    exact (value_infix_of_attribute? hattribute).trans (afterBlanks?_suffix hbehind).isInfix
  | project =>
    obtain ⟨-, rfl⟩ := Option.ite_none_right_eq_some.1 h |>.imp_right Option.some.inj
    exact List.nil_infix
  | framework =>
    obtain ⟨-, rfl⟩ := Option.ite_none_right_eq_some.1 h |>.imp_right Option.some.inj
    exact List.nil_infix
  | assembly =>
    rw [version?] at h
    split at h
    · rename_i value rest hattribute
      obtain ⟨-, rfl⟩ := Option.ite_none_right_eq_some.1 h |>.imp_right Option.some.inj
      exact (value_infix_of_attribute? hattribute).trans (trimStart_suffix cs).isInfix
    · obtain ⟨-, rfl⟩ := Option.ite_none_right_eq_some.1 h |>.imp_right Option.some.inj
      exact List.nil_infix

theorem version?_package_ne_nil {cs version : List Char}
    (h : version? .package cs = some version) : version ≠ [] := by
  obtain ⟨behind, -, h⟩ := Option.bind_eq_some_iff.1 h
  obtain ⟨⟨value, rest⟩, -, h⟩ := Option.bind_eq_some_iff.1 h
  obtain ⟨⟨hne, -⟩, rfl⟩ := Option.ite_none_right_eq_some.1 h |>.imp_right Option.some.inj
  exact hne

theorem version?_eq_nil {kind : ReferenceKind} (hkind : kind.isUnversioned = true)
    {cs version : List Char} (h : version? kind cs = some version) : version = [] := by
  cases kind with
  | package => cases hkind
  | assembly => cases hkind
  | project => exact (Option.some.inj (Option.ite_none_right_eq_some.1 h).2).symm
  | framework => exact (Option.some.inj (Option.ite_none_right_eq_some.1 h).2).symm

/-! ### Whole tags -/

/-- A tag that stands at the front of a text, taken apart. -/
theorem at?_eq_some {kind : ReferenceKind} {cs : List Char} {tag : ReferenceTag}
    (h : at? kind cs = some tag) :
    ∃ name version rest, tag = ⟨kind, String.ofList name, String.ofList version⟩ ∧
      name <:+: cs ∧ rest <:+ cs ∧ version? kind rest = some version := by
  obtain ⟨opened, hopened, h⟩ := Option.bind_eq_some_iff.1 h
  obtain ⟨behind, hbehind, h⟩ := Option.bind_eq_some_iff.1 h
  obtain ⟨⟨name, rest⟩, hattribute, h⟩ := Option.bind_eq_some_iff.1 h
  have hsuffix : behind <:+ cs := (afterBlanks?_suffix hbehind).trans (isPrefixOf?_suffix hopened)
  obtain ⟨-, h⟩ := Option.ite_none_left_eq_some.1 h
  obtain ⟨version, hversion, rfl⟩ := Option.map_eq_some_iff.1 h
  exact ⟨name, version, rest, rfl, (value_infix_of_attribute? hattribute).trans hsuffix.isInfix,
    (rest_suffix_of_attribute? hattribute).trans hsuffix, hversion⟩

/-- A tag that is found on a line, taken apart. -/
theorem find?_eq_some {line : List Char} {tag : ReferenceTag} (h : find? line = some tag) :
    ∃ name version rest, tag = ⟨tag.kind, String.ofList name, String.ofList version⟩ ∧
      name <:+: line ∧ rest <:+ line ∧ version? tag.kind rest = some version := by
  obtain ⟨kind, -, h⟩ := List.exists_of_findSome?_eq_some h
  obtain ⟨suffix, hsuffix, h⟩ := exists_suffix_of_leftmost? h
  obtain ⟨name, version, rest, rfl, hname, hrest, hversion⟩ := at?_eq_some h
  exact ⟨name, version, rest, rfl, hname.trans hsuffix.isInfix, hrest.trans hsuffix, hversion⟩

end ReferenceTag

namespace ReferenceMention

/-- The version of a mention is one that its kind allows. -/
structure WellVersioned (mention : ReferenceMention) : Prop where
  /-- A kind without versions is recorded under the sentinel. -/
  eq_noVersion : mention.kind.isUnversioned = true → mention.version = noVersion
  /-- A package has a version. -/
  ne_empty : mention.kind = .package → mention.version ≠ ""

/-- Neither the name nor the version of a mention has a line feed in it. -/
structure OnOneLine (mention : ReferenceMention) : Prop where
  name : '\n' ∉ mention.name.toList
  version : '\n' ∉ mention.version.toList

/-- A line that mentions a reference has a tag behind its edit sign. -/
theorem ofLine?_eq_some {line : List Char} {mention : ReferenceMention}
    (h : ofLine? line = some mention) :
    ∃ content side tag, content <:+ line ∧ ReferenceTag.find? (trim content) = some tag ∧
      mention = ofTag side tag := by
  rw [ofLine?.eq_def] at h
  split at h
  · obtain ⟨tag, htag, rfl⟩ := Option.map_eq_some_iff.1 h
    exact ⟨_, .new, tag, List.suffix_cons _ _, htag, rfl⟩
  · obtain ⟨tag, htag, rfl⟩ := Option.map_eq_some_iff.1 h
    exact ⟨_, .old, tag, List.suffix_cons _ _, htag, rfl⟩
  · cases h

theorem wellVersioned_of_ofLine? {line : List Char} {mention : ReferenceMention}
    (h : ofLine? line = some mention) : mention.WellVersioned := by
  obtain ⟨content, side, tag, -, htag, rfl⟩ := ofLine?_eq_some h
  obtain ⟨name, version, rest, heq, -, -, hversion⟩ := ReferenceTag.find?_eq_some htag
  have hofList : tag.version = String.ofList version := congrArg ReferenceTag.version heq
  refine ⟨fun hkind => ?_, fun hkind => ?_⟩
  · have hkind : tag.kind.isUnversioned = true := hkind
    have hnil : version = [] := ReferenceTag.version?_eq_nil hkind hversion
    rw [ofTag, if_pos ⟨by rw [hofList, hnil], hkind⟩]
  · have hkind : tag.kind = .package := hkind
    rw [ofTag, if_neg (by simp [hkind, ReferenceKind.isUnversioned]), hofList]
    rw [hkind] at hversion
    simpa using ReferenceTag.version?_package_ne_nil hversion

theorem onOneLine_of_ofLine? {line : List Char} {mention : ReferenceMention}
    (h : ofLine? line = some mention) (hline : '\n' ∉ line) : mention.OnOneLine := by
  obtain ⟨content, side, tag, hcontent, htag, rfl⟩ := ofLine?_eq_some h
  obtain ⟨name, version, rest, heq, hname, hrest, hversion⟩ := ReferenceTag.find?_eq_some htag
  have hinfix : trim content <:+: line := (trim_isInfix content).trans hcontent.isInfix
  have hname : '\n' ∉ name := fun hmem => hline ((hname.trans hinfix).subset hmem)
  have hversion : version <:+: line :=
    (ReferenceTag.version?_isInfix hversion).trans (hrest.isInfix.trans hinfix)
  have hversion : '\n' ∉ version := fun hmem => hline (hversion.subset hmem)
  refine ⟨?_, ?_⟩
  · rw [ofTag, heq]
    simpa using hname
  · rw [ofTag]
    split
    · exact show '\n' ∉ noVersion.toList by decide
    · rw [heq]
      simpa using hversion

/-- Whatever is mentioned in a patch is mentioned on one line. -/
theorem onOneLine_of_mem_lines {file : ChangedFile} {line : List Char} {mention : ReferenceMention}
    (hline : line ∈ file.lines) (h : ofLine? line = some mention) : mention.OnOneLine :=
  onOneLine_of_ofLine? h (feed_not_mem_of_mem_lines line hline)

end ReferenceMention

end PullReport
