import PullReport.Proofs.Analysis.Edits
import PullReport.Proofs.References.Surroundings

/-!
# Further attributes

A tag may say more about a dependency than its name and its version, for example which of its assets
are meant, or on what condition it is needed. The form of a tag has room for that behind the
attributes that are named in it, but its readers leave none. Behind the version, or behind the name
if no version is given, they pass over blanks, and there the tag must end. So a tag with a further
attribute is no tag to them, whatever its kind, and a line with such a tag may be added or removed
without a trace in the report.

One attribute there does no harm, but it is not a further one: on the tag of an assembly that has no
version yet, an attribute with the key of a version is the version.

## Main definitions

* `ReferenceTag.Attribute`, `ReferenceTag.TaggedLine`: attributes, and lines with a tag that may
  have further ones.
* `ReferenceTag.TaggedLine.GivesVersion`: the further attribute is a version.
* `ReferenceTag.LeavesNoTrace`: a line makes no difference to the references that change.

## Main results

* `ReferenceTag.version?_attribute`: what is read behind the name if there is a further attribute.
* `ReferenceTag.find?_of_further`: tags with further attributes are not found.
-/

namespace PullReport

namespace ReferenceTag

open Text Patch

variable {kind : ReferenceKind} {key other value version given line : List Char}

/-! ### Attributes -/

/-- A text that can be the key of an attribute: there are no blanks in it, and none of the
characters that end a key, stand around a value, or open or close a tag. -/
def IsKey (key : List Char) : Prop :=
  key ≠ [] ∧ ∀ c ∈ key, isBlank c = false ∧ c ∉ ['=', '"', '<', '>', '/']

-- The characters of the text are looked through, and not all the characters there are.
instance : DecidablePred IsKey := fun key =>
  have := List.decidableBAll (fun c => isBlank c = false ∧ c ∉ ['=', '"', '<', '>', '/']) key
  inferInstanceAs (Decidable (key ≠ [] ∧ ∀ c ∈ key, isBlank c = false ∧
    c ∉ ['=', '"', '<', '>', '/']))

/-- An attribute of a tag, with the gap that parts it from what stands before it. -/
structure Attribute where
  gap : List Char
  key : List Char
  value : List Char
  isGap : IsGap gap
  isKey : IsKey key
  isValue : IsValue value

/-- An attribute as it is written. -/
def Attribute.text (a : Attribute) : List Char := a.gap ++ attributeText a.key a.value

theorem IsKey.head? (h : IsKey key) : ∀ c ∈ key.head?, isBlank c = false := fun c hc =>
  (h.2 c (List.mem_of_mem_head? hc)).1

theorem IsKey.not_mem {c : Char} (h : IsKey key) (hc : c ∈ ['=', '"', '<', '>', '/']) : c ∉ key :=
  fun hmem => (h.2 c hmem).2 hc

theorem Attribute.not_mem_text (a : Attribute) : '<' ∉ a.text := by
  rw [text, List.mem_append, not_or]
  exact ⟨not_mem_of_isGap a.isGap.2, not_mem_attributeText (a.isKey.not_mem (by decide)) a.isValue⟩

theorem Attribute.trimStart_text (a : Attribute) (rest : List Char) :
    trimStart (a.text ++ rest) = attributeText a.key a.value ++ rest := by
  rw [text, List.append_assoc,
    trimStart_append a.isGap.2 (head?_attributeText a.isKey.head? a.isKey.1 rest)]

/-- **No tag ends where an attribute begins.** -/
theorem closes_attribute (a : Attribute) (rest : List Char) : closes (a.text ++ rest) = false := by
  rw [closes, a.trimStart_text]
  cases hkey : a.key with
  | nil => exact absurd hkey a.isKey.1
  | cons c key =>
    have hclose : c ≠ '>' := fun hc => a.isKey.not_mem (c := '>') (by decide) (by simp [hkey, hc])
    have hslash : c ≠ '/' := fun hc => a.isKey.not_mem (c := '/') (by decide) (by simp [hkey, hc])
    simp [attributeText, hclose, hslash]

/-- An attribute is not read under another key. -/
theorem attribute?_of_ne (h : key ≠ other) (hkey : '=' ∉ key) (hother : '=' ∉ other)
    (rest : List Char) : attribute? key (attributeText other value ++ rest) = none := by
  cases hread : attribute? key (attributeText other value ++ rest) with
  | none => rfl
  | some read =>
    obtain ⟨found, behind⟩ := read
    obtain ⟨heq, -⟩ := attribute?_eq_some hread
    have hequals : key ++ '=' :: '"' :: (found ++ '"' :: behind) =
        other ++ '=' :: '"' :: (value ++ '"' :: rest) := by
      simpa [attributeText] using heq.symm
    exact absurd (append_cons_inj_of_notMem_front hkey hother hequals).1 h

/-- What is read behind the name of a dependency if an attribute follows what gives the version:
nothing, but for the tag of an assembly that gets its version from that attribute. -/
theorem version?_attribute (h : WritesVersion kind version given) (a : Attribute)
    (rest : List Char) :
    version? kind (given ++ (a.text ++ rest)) =
      if kind = .assembly ∧ given = [] ∧ a.key = "Version".toList ∧ closes rest then some a.value
      else none := by
  have hopen : ¬ closes (a.text ++ rest) = true := by simp [closes_attribute]
  cases h with
  | none hkind =>
    rw [List.nil_append]
    cases kind with
    | package => exact absurd rfl hkind
    | project => rw [version?, if_neg hopen, if_neg (by simp)]
    | framework => rw [version?, if_neg hopen, if_neg (by simp)]
    | assembly =>
      by_cases hkey : a.key = "Version".toList
      · rw [Attribute.text, hkey, List.append_assoc, version?_assembly_append a.isGap.2 a.isValue.1]
        simp
      · have hnone : attribute? "Version".toList (trimStart (a.text ++ rest)) = none := by
          rw [a.trimStart_text]
          exact attribute?_of_ne (Ne.symm hkey) (by decide) (a.isKey.not_mem (by decide)) rest
        have hread : version? .assembly (a.text ++ rest) = none := by
          rw [version?, hnone]
          exact if_neg hopen
        rw [hread, if_neg fun hcon => hkey hcon.2.2.1]
  | given hkind hgap hvalue hne =>
    rw [List.append_assoc]
    cases kind with
    | project => cases hkind
    | framework => cases hkind
    | package =>
      have hboth (version : List Char) : ¬ (version ≠ [] ∧ closes (a.text ++ rest) = true) :=
        fun h => hopen h.2
      rw [version?_package_append hgap hvalue.1, if_neg (hboth _), if_neg (by simp)]
    | assembly =>
      rw [version?_assembly_append hgap.2 hvalue.1, if_neg hopen, if_neg (by simp [hgap.1])]

/-! ### Lines with a tag -/

/-- A line with a tag that has a name, a version or none, and any number of further attributes. No
other tag can begin on the line. -/
structure TaggedLine where
  kind : ReferenceKind
  name : List Char
  version : List Char
  before : List Char
  gap : List Char
  /-- What gives the version. -/
  given : List Char
  further : List Attribute
  ending : List Char
  after : List Char
  not_mem_before : '<' ∉ before
  isGap : IsGap gap
  isValue : IsValue name
  ne_nil : name ≠ []
  writesVersion : WritesVersion kind version given
  ends : Ends ending
  not_mem_after : '<' ∉ after

namespace TaggedLine

/-- What stands behind the name of the dependency. -/
def behindName (l : TaggedLine) : List Char :=
  l.given ++ (l.further.flatMap Attribute.text ++ (l.ending ++ l.after))

/-- The line as it is written. -/
def text (l : TaggedLine) : List Char :=
  l.before ++ '<' :: (l.kind.tagName.toList ++ (l.gap ++
    (attributeText "Include".toList l.name ++ l.behindName)))

/-- The same line with nothing on the tag but the name and the version. -/
def bare (l : TaggedLine) : TaggedLine := { l with further := [] }

/-- What the tag on the line says. -/
def tag (l : TaggedLine) : ReferenceTag := ⟨l.kind, String.ofList l.name, String.ofList l.version⟩

/-- The tag of an assembly has no version but the one that its only further attribute gives it. -/
def GivesVersion (l : TaggedLine) (a : Attribute) : Prop :=
  l.kind = .assembly ∧ l.given = [] ∧ l.further = [a] ∧ a.key = "Version".toList

theorem not_mem_behindName (l : TaggedLine) : '<' ∉ l.behindName := by
  simp only [behindName, List.mem_append, List.mem_flatMap, not_or, not_exists, not_and]
  exact ⟨l.writesVersion.not_mem, fun a _ => a.not_mem_text, l.ends.not_mem, l.not_mem_after⟩

/-- There is one place for a tag on the line and one kind for it there. -/
theorem find?_text (l : TaggedLine) :
    find? l.text = (version? l.kind l.behindName).map fun version =>
      ⟨l.kind, String.ofList l.name, String.ofList version⟩ := by
  have hrest : '<' ∉ l.kind.tagName.toList ++ (l.gap ++ (attributeText "Include".toList l.name ++
      l.behindName)) := by
    simp only [List.mem_append, not_or]
    exact ⟨not_mem_tagName l.kind, not_mem_of_isGap l.isGap.2,
      not_mem_attributeText (by decide) l.isValue, l.not_mem_behindName⟩
  have hmem : l.kind ∈ ReferenceKind.all := by cases l.kind <;> decide
  rw [find?, findSome?_eq_ite (a := l.kind), if_pos hmem]
  intro other _
  rw [text, leftmost?_of_only_place (fun _ => at?_eq_none) l.not_mem_before hrest]
  split
  · rename_i heq
    rw [← heq, at?_name l.isGap l.isValue.1 l.ne_nil]
  · rename_i hother
    exact at?_of_ne hother _

theorem find?_text_of_further_eq_nil {l : TaggedLine} (h : l.further = []) :
    find? l.text = some l.tag := by
  have hversion : version? l.kind l.behindName = some l.version := by
    rw [behindName, h]
    exact l.writesVersion.version?_append l.ends l.after
  rw [l.find?_text, hversion]
  rfl

theorem find?_text_of_givesVersion {l : TaggedLine} {a : Attribute} (h : l.GivesVersion a) :
    find? l.text = some ⟨l.kind, String.ofList l.name, String.ofList a.value⟩ := by
  obtain ⟨hkind, hgiven, hfurther, hkey⟩ := h
  have hversion : version? l.kind l.behindName = some a.value := by
    rw [behindName, hfurther, List.flatMap_singleton, version?_attribute l.writesVersion]
    exact if_pos ⟨hkind, hgiven, hkey, closes_append l.ends l.after⟩
  rw [l.find?_text, hversion]
  rfl

theorem find?_text_of_further_ne_nil {l : TaggedLine} (hne : l.further ≠ [])
    (h : ∀ a, ¬ l.GivesVersion a) : find? l.text = none := by
  have hversion : version? l.kind l.behindName = none := by
    cases hfurther : l.further with
    | nil => exact absurd hfurther hne
    | cons a more =>
      rw [behindName, hfurther, List.flatMap_cons, List.append_assoc,
        version?_attribute l.writesVersion, if_neg]
      rintro ⟨hkind, hgiven, hkey, hcloses⟩
      cases more with
      | nil => exact h a ⟨hkind, hgiven, hfurther, hkey⟩
      | cons b more =>
        rw [List.flatMap_cons, List.append_assoc, closes_attribute] at hcloses
        cases hcloses
  rw [l.find?_text, hversion]
  rfl

end TaggedLine

/-! ### What a line without a tag does -/

/-- The mentions among lines are still there when the lines are joined. -/
theorem filterMap_ofLine?_lines_unlines {ls : List (List Char)} (h : ∀ l ∈ ls, '\n' ∉ l) :
    (lines (unlines ls)).filterMap ReferenceMention.ofLine? =
      ls.filterMap ReferenceMention.ofLine? := by
  have hedits (ls : List (List Char)) : (edits ls).filterMap ReferenceMention.ofLine? =
      ls.filterMap ReferenceMention.ofLine? :=
    filterMap_edits (fun _ => ReferenceMention.ofLine?_eq_none)
      ReferenceMention.ofLine?_trimReturns ls
  rw [← hedits, edits_lines_unlines h, hedits]

/-- Whether a line is added or removed, and wherever in the patch of a file, it makes no difference
to the references that change. -/
def LeavesNoTrace (line : List Char) : Prop :=
  ∀ (files others : List ChangedFile) (filename : String) (above below : List (List Char)),
    (∀ l ∈ above ++ below, '\n' ∉ l) → ∀ sign ∈ ['+', '-'],
      ReferenceChange.ofFiles
          (files ++ ⟨filename, String.ofList (unlines (above ++ (sign :: line) :: below))⟩ ::
            others) =
        ReferenceChange.ofFiles
          (files ++ ⟨filename, String.ofList (unlines (above ++ below))⟩ :: others)

/-- What is found on a line is all that the line does, and it is read behind the edit sign. -/
theorem leavesNoTrace_of_find?_eq_none (h : find? line = none) (hline : '\n' ∉ line) :
    LeavesNoTrace line := by
  intro files others filename above below hfeed sign hsign
  have hmention : ReferenceMention.ofLine? (sign :: line) = none := by
    rcases List.mem_pair.1 hsign with rfl | rfl <;>
      rw [ReferenceMention.ofLine?, find?_trim, h, Option.map_none]
  have hedit : '\n' ∉ sign :: line := by
    rcases List.mem_pair.1 hsign with rfl | rfl <;> simpa using hline
  have hwith : ∀ l ∈ above ++ (sign :: line) :: below, '\n' ∉ l := by
    rw [List.forall_mem_append, List.forall_mem_cons]
    exact ⟨(List.forall_mem_append.1 hfeed).1, hedit, (List.forall_mem_append.1 hfeed).2⟩
  have hsame : (above ++ (sign :: line) :: below).filterMap ReferenceMention.ofLine? =
      (above ++ below).filterMap ReferenceMention.ofLine? := by
    rw [List.filterMap_append, List.filterMap_cons_none hmention, ← List.filterMap_append]
  simp only [ReferenceChange.ofFiles_eq_summary, ReferenceMention.inFiles_eq_flatMap,
    List.flatMap_append, List.flatMap_cons, ChangedFile.lines, String.toList_ofList,
    filterMap_ofLine?_lines_unlines hwith, filterMap_ofLine?_lines_unlines hfeed, hsame]

/-! ### Tags with further attributes -/

/-- **A tag with further attributes is not found**, though it is found without them. Lines with such
a tag leave no trace in the references that change. The one tag that is found has one of them only,
and that is its version. -/
theorem find?_of_further (l : TaggedLine) (hfurther : l.further ≠ []) :
    find? l.bare.text = some l.tag ∧
      (∀ a, l.GivesVersion a →
        find? l.text = some ⟨l.kind, String.ofList l.name, String.ofList a.value⟩) ∧
        ((∀ a, ¬ l.GivesVersion a) →
          find? l.text = none ∧ ('\n' ∉ l.text → LeavesNoTrace l.text)) := by
  have hbare : find? l.bare.text = some l.tag := TaggedLine.find?_text_of_further_eq_nil rfl
  refine ⟨hbare, fun a => TaggedLine.find?_text_of_givesVersion, fun hgives => ?_⟩
  have hnone : find? l.text = none := TaggedLine.find?_text_of_further_ne_nil hfurther hgives
  exact ⟨hnone, leavesNoTrace_of_find?_eq_none hnone⟩

/-- Two further attributes, one of them empty, on the tag of a framework that does not end at once
and is followed by a remark. With a version in their place, and on an assembly, the tag is found. -/
theorem find?_of_conditional_framework :
    let condition : Attribute :=
      { gap := ['\t']
        key := "Condition".toList
        value := "x > 1".toList
        isGap := by decide
        isKey := by decide
        isValue := ⟨by decide, by decide⟩ }
    let assets : Attribute :=
      { condition with
        key := "PrivateAssets".toList
        value := []
        isKey := by decide
        isValue := ⟨by decide, by decide⟩ }
    let number : Attribute := { condition with key := "Version".toList, isKey := by decide }
    let l : TaggedLine :=
      { kind := .framework
        name := "A/>".toList
        version := []
        before := "  ".toList
        gap := [' ']
        given := []
        further := [condition, assets]
        ending := [' '] ++ ">".toList
        after := " -->".toList
        not_mem_before := by decide
        isGap := by decide
        isValue := ⟨by decide, by decide⟩
        ne_nil := by decide
        writesVersion := .none (by decide)
        ends := .opened (by simp [isBlank])
        not_mem_after := by decide }
    let versioned : TaggedLine :=
      { l with
        kind := .assembly
        further := [number]
        writesVersion := .none (by decide) }
    l.text = ("  <FrameworkReference Include=\"A/>\"\tCondition=\"x > 1\"\t" ++
        "PrivateAssets=\"\" > -->").toList ∧
      l.further ≠ [] ∧ find? l.bare.text = some ⟨.framework, "A/>", ""⟩ ∧ find? l.text = none ∧
        LeavesNoTrace l.text ∧ find? versioned.text = some ⟨.assembly, "A/>", "x > 1"⟩ := by
  intro condition assets number l versioned
  have hfurther : l.further ≠ [] := nofun
  have hgives : ∀ a, ¬ l.GivesVersion a := fun _ h => nomatch h.1
  have hfeed : '\n' ∉ l.text := by decide
  have hversion : versioned.GivesVersion number := ⟨rfl, rfl, rfl, rfl⟩
  obtain ⟨hbare, -, hnone⟩ := find?_of_further l hfurther
  exact ⟨by decide, hfurther, hbare, (hnone hgives).1, (hnone hgives).2 hfeed,
    (find?_of_further versioned nofun).2.1 number hversion⟩

/-- A package whose assets are for one project alone is not reported. -/
theorem find?_misses_private_assets :
    let bare := "<PackageReference Include=\"A\" Version=\"1\" />"
    let full := "<PackageReference Include=\"A\" Version=\"1\" PrivateAssets=\"all\" />"
    find? bare.toList = some ⟨.package, "A", "1"⟩ ∧
      ReferenceChange.ofFiles [⟨"App.csproj", "+" ++ bare⟩] = [⟨"A", .package, none, some "1"⟩] ∧
        find? full.toList = none ∧ ReferenceChange.ofFiles [⟨"App.csproj", "+" ++ full⟩] = [] := by
  decide +kernel

end ReferenceTag

end PullReport
