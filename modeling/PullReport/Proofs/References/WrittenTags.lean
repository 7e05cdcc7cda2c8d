import PullReport.Patch.ReferenceTag
import PullReport.Proofs.Text.Runs
import PullReport.Proofs.Text.Search

/-!
# Written tags

A tag that is written on a line is found there and read as it was meant. Quotes are all that parts
an attribute's value from what stands around it, so names and versions may look like anything,
brackets that close and slashes included, and may have blanks at their ends. What must not be there
is a quote, and an opening bracket only because that would be another place at which a tag can
begin.

All four kinds of tags are looked for on a line, each at every place. A tag begins with an opening
bracket and the name of its kind, with a blank behind it. So with one bracket on the line there is
one place for a tag of any kind, and what stands behind the bracket there tells the kinds apart.

## Main definitions

* `ReferenceTag.WritesVersion`: what may stand between the name of a dependency and the tag's end.
* `ReferenceTag.Writes`: a line has a tag written on it.

## Main results

* `ReferenceTag.attribute?_append`, `ReferenceTag.closes_append`: attributes and ends.
* `ReferenceTag.WritesVersion.version?_append`: the version.
* `ReferenceTag.at?_of_ne`: no other kind is read where a tag is.
* `ReferenceTag.find?_of_writes`: a written tag is found.
-/

namespace PullReport

namespace ReferenceTag

open Text

variable {kind other : ReferenceKind} {key value name version gap pad tail cs line : List Char}

/-! ### How tags are written -/

/-- An attribute with its value in quotes. -/
def attributeText (key value : List Char) : List Char := key ++ '=' :: '"' :: (value ++ ['"'])

/-- A text that can be the value of an attribute and does not open another tag. -/
def IsValue (value : List Char) : Prop := '"' ∉ value ∧ '<' ∉ value

/-- What may stand behind the name of a dependency: nothing, except for a package, or an attribute
that gives a version, if the kind has versions at all. -/
inductive WritesVersion : ReferenceKind → (version attributes : List Char) → Prop
  | none {kind : ReferenceKind} (optional : kind ≠ .package) : WritesVersion kind [] []
  | given {kind : ReferenceKind} {gap version : List Char} (versioned : kind.isUnversioned = false)
      (isGap : IsGap gap) (isValue : IsValue version) (ne_nil : kind = .package → version ≠ []) :
      WritesVersion kind version (gap ++ attributeText "Version".toList version)

/-- The end of a tag: blanks, perhaps a slash, and a closing bracket. -/
inductive Ends : List Char → Prop
  | closed {pad : List Char} (blank : ∀ c ∈ pad, isBlank c = true) : Ends (pad ++ "/>".toList)
  | opened {pad : List Char} (blank : ∀ c ∈ pad, isBlank c = true) : Ends (pad ++ ">".toList)

/-- A line has a tag of some kind written on it, with a name and a version, which is empty where
none is given. No other tag can begin on the line. -/
inductive Writes (kind : ReferenceKind) (name version : List Char) : List Char → Prop
  | tag {before gap attributes ending after : List Char} (hbefore : '<' ∉ before)
      (isGap : IsGap gap) (isValue : IsValue name) (ne_nil : name ≠ [])
      (writesVersion : WritesVersion kind version attributes) (ends : Ends ending)
      (hafter : '<' ∉ after) :
      Writes kind name version (before ++ '<' :: (kind.tagName.toList ++ (gap ++
        (attributeText "Include".toList name ++ (attributes ++ (ending ++ after))))))

/-! ### Attributes -/

/-- An attribute that is written is read up to its closing quote. -/
theorem attribute?_append (hvalue : '"' ∉ value) (rest : List Char) :
    attribute? key (attributeText key value ++ rest) = some (value, rest) := by
  have htext : attributeText key value ++ rest = key ++ ['=', '"'] ++ (value ++ '"' :: rest) := by
    simp [attributeText]
  rw [attribute?, htext, isPrefixOf?_append]
  simp only [Option.bind_eq_bind, Option.bind_some, dropWhile_ne_append hvalue,
    takeWhile_ne_append hvalue]

/-- An attribute begins with its key, and so not with a blank. -/
theorem head?_attributeText (hkey : ∀ c ∈ key.head?, isBlank c = false) (hne : key ≠ [])
    (rest : List Char) : ∀ c ∈ (attributeText key value ++ rest).head?, isBlank c = false := by
  cases key with
  | nil => exact absurd rfl hne
  | cons d key => exact hkey

/-- A gap in front of an attribute is passed over. -/
theorem afterBlanks?_attributeText (hgap : IsGap gap) (hkey : ∀ c ∈ key.head?, isBlank c = false)
    (hne : key ≠ []) (rest : List Char) :
    afterBlanks? (gap ++ (attributeText key value ++ rest)) =
      some (attributeText key value ++ rest) :=
  afterBlanks?_eq_some_iff.2 ⟨gap, hgap, head?_attributeText hkey hne rest, rfl⟩

theorem head?_version : ∀ c ∈ "Version".toList.head?, isBlank c = false := by
  intro c hc
  obtain rfl : 'V' = c := Option.some.inj hc
  rfl

theorem head?_include : ∀ c ∈ "Include".toList.head?, isBlank c = false := by
  intro c hc
  obtain rfl : 'I' = c := Option.some.inj hc
  rfl

/-! ### The end of a tag -/

/-- The end of a tag, taken apart. -/
theorem Ends.exists_trimStart (h : Ends cs) (after : List Char) :
    ∃ rest, trimStart (cs ++ after) = '/' :: '>' :: rest ∨
      trimStart (cs ++ after) = '>' :: rest := by
  have htrim {pad close : List Char} {c : Char} (hpad : ∀ c ∈ pad, isBlank c = true)
      (hc : isBlank c = false) :
      trimStart (pad ++ c :: close ++ after) = c :: (close ++ after) := by
    rw [List.append_assoc, List.cons_append]
    refine trimStart_append hpad fun d hd => ?_
    obtain rfl : c = d := Option.some.inj hd
    exact hc
  cases h with
  | closed hpad => exact ⟨after, .inl (htrim hpad rfl)⟩
  | opened hpad => exact ⟨after, .inr (htrim hpad rfl)⟩

theorem closes_append (h : Ends cs) (after : List Char) : closes (cs ++ after) = true := by
  obtain ⟨rest, hrest | hrest⟩ := h.exists_trimStart after
  · simp [closes, hrest]
  · simp [closes, hrest]

/-- No version is read where the tag ends. -/
theorem attribute?_trimStart_append (h : Ends cs) (after : List Char) :
    attribute? "Version".toList (trimStart (cs ++ after)) = none := by
  obtain ⟨rest, hrest | hrest⟩ := h.exists_trimStart after
  · rw [hrest]
    rfl
  · rw [hrest]
    rfl

/-! ### Versions -/

/-- Behind the version of a package, nothing is looked for but the tag's end. -/
theorem version?_package_append (hgap : IsGap gap) (hvalue : '"' ∉ version) (rest : List Char) :
    version? .package (gap ++ (attributeText "Version".toList version ++ rest)) =
      if version ≠ [] ∧ closes rest then some version else none := by
  rw [version?, afterBlanks?_attributeText hgap head?_version nofun]
  show (attribute? "Version".toList (attributeText "Version".toList version ++ rest)).bind _ = _
  rw [attribute?_append hvalue]
  rfl

/-- The same for an assembly, whose version may also stand right behind its name. -/
theorem version?_assembly_append (hpad : ∀ c ∈ pad, isBlank c = true) (hvalue : '"' ∉ version)
    (rest : List Char) :
    version? .assembly (pad ++ (attributeText "Version".toList version ++ rest)) =
      if closes rest then some version else none := by
  have hhead : ∀ c ∈ (attributeText "Version".toList version ++ rest).head?, isBlank c = false :=
    head?_attributeText head?_version nofun _
  rw [version?, trimStart_append hpad hhead, attribute?_append hvalue]

/-- The version that is given, or none, is read off the rest of the tag. -/
theorem WritesVersion.version?_append {attributes ending : List Char}
    (h : WritesVersion kind version attributes) (hends : Ends ending) (after : List Char) :
    version? kind (attributes ++ (ending ++ after)) = some version := by
  have hcloses := closes_append hends after
  cases h with
  | none hkind =>
    rw [List.nil_append]
    cases kind with
    | package => exact absurd rfl hkind
    | project => rw [version?, if_pos hcloses]
    | framework => rw [version?, if_pos hcloses]
    | assembly =>
      rw [version?, attribute?_trimStart_append hends]
      exact if_pos hcloses
  | given hkind hgap hvalue hne =>
    rw [List.append_assoc]
    cases kind with
    | project => cases hkind
    | framework => cases hkind
    | package => rw [version?_package_append hgap hvalue.1, if_pos ⟨hne rfl, hcloses⟩]
    | assembly => rw [version?_assembly_append hgap.2 hvalue.1, if_pos hcloses]

/-! ### Whole tags -/

/-- A tag begins with an opening bracket. -/
theorem at?_eq_none (h : cs.head? ≠ some '<') : at? kind cs = none := by
  cases hopened : ('<' :: kind.tagName.toList).isPrefixOf? cs with
  | none => rw [at?, hopened]; rfl
  | some opened =>
    obtain rfl := isPrefixOf?_eq_some_iff.1 hopened
    exact absurd rfl h

/-- No name of a kind begins another, though one ends all others. -/
theorem not_prefix_tagName (h : kind ≠ other) :
    ¬ kind.tagName.toList <+: other.tagName.toList := by
  cases kind <;> cases other <;> revert h <;> decide

/-- **No other kind is read where a tag is.** -/
theorem at?_of_ne (h : kind ≠ other) (rest : List Char) :
    at? other ('<' :: (kind.tagName.toList ++ rest)) = none := by
  cases hopened : ('<' :: other.tagName.toList).isPrefixOf?
      ('<' :: (kind.tagName.toList ++ rest)) with
  | none =>
    rw [at?, hopened]
    rfl
  | some opened =>
    have hother : other.tagName.toList <+: kind.tagName.toList ++ rest :=
      List.prefix_cons_inj '<' |>.1 ⟨opened, isPrefixOf?_eq_some_iff.1 hopened⟩
    rcases List.prefix_or_prefix_of_prefix hother (List.prefix_append _ rest) with hpre | hpre
    · exact absurd hpre (not_prefix_tagName h.symm)
    · exact absurd hpre (not_prefix_tagName h)

/-- Behind the name of a dependency, nothing is looked for but its version. -/
theorem at?_name (hgap : IsGap gap) (hname : '"' ∉ name) (hne : name ≠ []) (rest : List Char) :
    at? kind ('<' :: (kind.tagName.toList ++ (gap ++ (attributeText "Include".toList name ++
      rest)))) =
        (version? kind rest).map fun version =>
          ⟨kind, String.ofList name, String.ofList version⟩ := by
  rw [at?, ← List.cons_append, isPrefixOf?_append]
  show (afterBlanks? (gap ++ _)).bind _ = _
  rw [afterBlanks?_attributeText hgap head?_include nofun]
  show (attribute? "Include".toList (attributeText "Include".toList name ++ _)).bind _ = _
  rw [attribute?_append hname]
  exact if_neg hne

/-- A tag is read where it begins. -/
theorem at?_append {attributes ending : List Char} (hgap : IsGap gap) (hname : IsValue name)
    (hne : name ≠ []) (hversion : WritesVersion kind version attributes) (hends : Ends ending)
    (after : List Char) :
    at? kind ('<' :: (kind.tagName.toList ++ (gap ++ (attributeText "Include".toList name ++
      (attributes ++ (ending ++ after)))))) =
        some ⟨kind, String.ofList name, String.ofList version⟩ := by
  rw [at?_name hgap hname.1 hne, hversion.version?_append hends]
  rfl

/-! ### Places of a bracket -/

theorem not_mem_of_isGap (h : ∀ c ∈ gap, isBlank c = true) : '<' ∉ gap := fun hmem =>
  absurd (h '<' hmem) (by decide)

theorem not_mem_attributeText (hkey : '<' ∉ key) (hvalue : IsValue value) :
    '<' ∉ attributeText key value := by
  simp [attributeText, hkey, hvalue.2]

theorem WritesVersion.not_mem {attributes : List Char} (h : WritesVersion kind version attributes) :
    '<' ∉ attributes := by
  cases h with
  | none => exact List.not_mem_nil
  | given _ hgap hvalue =>
    rw [List.mem_append, not_or]
    exact ⟨not_mem_of_isGap hgap.2, not_mem_attributeText (by decide) hvalue⟩

theorem Ends.not_mem (h : Ends cs) : '<' ∉ cs := by
  cases h with
  | closed hpad =>
    rw [List.mem_append, not_or]
    exact ⟨not_mem_of_isGap hpad, by decide⟩
  | opened hpad =>
    rw [List.mem_append, not_or]
    exact ⟨not_mem_of_isGap hpad, by decide⟩

theorem not_mem_tagName (kind : ReferenceKind) : '<' ∉ kind.tagName.toList := by
  cases kind <;> decide

/-- **A written tag is found.** Whatever stands before and behind it on the line, it is found with
its kind, its name and its version, which is empty if none is given. -/
theorem find?_of_writes (h : Writes kind name version line) :
    find? line = some ⟨kind, String.ofList name, String.ofList version⟩ := by
  obtain ⟨hbefore, hgap, hname, hne, hversion, hends, hafter⟩ := h
  rename_i before gap attributes ending after
  have hrest : '<' ∉ kind.tagName.toList ++ (gap ++ (attributeText "Include".toList name ++
      (attributes ++ (ending ++ after)))) := by
    simp only [List.mem_append, not_or]
    exact ⟨not_mem_tagName kind, not_mem_of_isGap hgap.2, not_mem_attributeText (by decide) hname,
      hversion.not_mem, hends.not_mem, hafter⟩
  have hmem : kind ∈ ReferenceKind.all := by cases kind <;> decide
  rw [find?, findSome?_eq_ite (a := kind), if_pos hmem]
  intro other _
  rw [leftmost?_of_only_place (fun _ => at?_eq_none) hbefore hrest]
  split
  · rename_i heq
    rw [← heq]
    exact at?_append hgap hname hne hversion hends after
  · rename_i hother
    exact at?_of_ne hother _

/-- A name that closes brackets and a version that looks like an attribute, with a no-break space
before it and something like a further attribute behind the tag. -/
theorem find?_of_odd_package :
    let line :=
      "> <PackageReference\tInclude=\"a>b/>\"\u00A0Version=\" x=1/> \" > Version=\"2\"".toList
    Writes .package "a>b/>".toList " x=1/> ".toList line ∧
      find? line = some ⟨.package, "a>b/>", " x=1/> "⟩ := by
  intro line
  have hgap : IsGap ['\t'] := by decide
  have hspace : IsGap ['\u00A0'] := by decide
  have hblank : ∀ c ∈ [' '], isBlank c = true := by simp [isBlank]
  have hversion : WritesVersion .package " x=1/> ".toList
      (['\u00A0'] ++ attributeText "Version".toList " x=1/> ".toList) :=
    .given rfl hspace ⟨by decide, by decide⟩ (by decide)
  have hbefore : '<' ∉ "> ".toList := by decide
  have hafter : '<' ∉ " Version=\"2\"".toList := by decide
  have hwrites : Writes .package "a>b/>".toList " x=1/> ".toList line :=
    .tag hbefore hgap ⟨by decide, by decide⟩ (by decide) hversion (.opened hblank) hafter
  exact ⟨hwrites, find?_of_writes hwrites⟩

end ReferenceTag

end PullReport
