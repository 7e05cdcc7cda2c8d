import PullReport.Proofs.References.Classes
import PullReport.Proofs.Text.Pieces
import PullReport.Report.Basic

/-!
# The reference block of a report

The block is one text. Cut at its line feeds it has a heading, and below it either the one line that
says that there is nothing to report, or the sections of the classes that some change has, with an
empty line between each two. That holds because nothing that is reported has a line feed in it, so
every line of the text is one that was meant as a line.

## Main definitions

* `ReferenceChange.textLines`: the lines of the block.
* `ReferenceChange.classes`: the classes that have changes, in the order in which they are listed.
* `ReferenceChange.bodyLines`: what the block is to have below its heading.

## Main results

* `ReferenceChange.control_not_mem_bodyLines`: no line has a control character in it that is not
  reported.
* `ReferenceChange.textLines_eq`: the lines of the block are the heading and the body.
* `ReferenceChange.filter_isEntry_textLines`: each change that has a class has one entry.
* `ReferenceChange.noneLine_mem_textLines_iff`, `ReferenceChange.heading_mem_textLines_iff`: when
  the other lines appear.
* `ReferenceChange.ofFiles_classified_and_listed`: all of it for the changes in some files.
-/

namespace PullReport

/-! ### Lists of lines -/

/-- Texts with an empty line between each two are their lines with an empty line between. -/
theorem intercalate_emptyLine {blocks : List (List String)} (h : ∀ block ∈ blocks, block ≠ []) :
    "\n\n".intercalate (blocks.map "\n".intercalate) =
      "\n".intercalate ([""].intercalate blocks) := by
  induction blocks with
  | nil => rfl
  | cons block blocks ih =>
    cases blocks with
    | nil => simp
    | cons next blocks =>
      have hrest : ∀ b ∈ next :: blocks, b ≠ [] := fun b hb => h b (List.mem_cons_of_mem _ hb)
      have hne : [""].intercalate (next :: blocks) ≠ [] :=
        intercalate_ne_nil (List.cons_ne_nil _ _) hrest
      rw [List.map_cons, String.intercalate_cons_of_ne_nil (by simp), ih hrest,
        List.intercalate_cons_cons, List.append_assoc,
        String.intercalate_append_of_ne_nil (h block List.mem_cons_self) (by simp),
        List.singleton_append, String.intercalate_cons_of_ne_nil hne, String.append_assoc,
        String.append_assoc]
      rfl

/-! ### Control characters -/

section Control

variable {x : Char}

/-- What is fixed in a line has no control character in it. -/
theorem control_not_mem (hx : x.toNat < 0x20) {s : String}
    (h : s.toList.all (0x20 ≤ ·.toNat) = true) : x ∉ s.toList := fun hmem =>
  absurd (of_decide_eq_true (List.all_eq_true.1 h x hmem)) (Nat.not_le.2 hx)

theorem control_not_mem_append {s t : String} (hs : x ∉ s.toList) (ht : x ∉ t.toList) :
    x ∉ (s ++ t).toList := by
  rw [String.toList_append, List.mem_append, not_or]
  exact ⟨hs, ht⟩

end Control

namespace ReferenceChange

/-! ### What the block is to be -/

/-- The lines of the block: what stands between its line feeds. -/
def textLines (changes : List ReferenceChange) : List String := Text.feedLines (text changes)

/-- The classes that have changes, in the order in which they are listed. -/
def classes (changes : List ReferenceChange) : List ChangeClass :=
  ChangeClass.all.filter fun cls => changes.any (·.readsAs cls)

/-- A heading and an entry for each change of a class. -/
def classLines (changes : List ReferenceChange) (cls : ChangeClass) : List String :=
  cls.heading :: (changes.filter (·.readsAs cls)).map (line cls)

/-- What the block is to have below its heading. -/
def bodyLines (changes : List ReferenceChange) : List String :=
  if classes changes = [] then [noneLine]
  else [""].intercalate ((classes changes).map (classLines changes))

/-- Whether a line is an entry, which starts with a hyphen and a space. -/
def isEntry (line : String) : Bool := "- ".toList.isPrefixOf line.toList

theorem any_readsAs_eq (changes : List ReferenceChange) (cls : ChangeClass) :
    changes.any (·.readsAs cls) = decide (ofClass cls changes ≠ []) := by
  rw [Bool.eq_iff_iff, decide_eq_true_iff, ofClass, ne_eq, List.filter_eq_nil_iff]
  simp

theorem sectionLines_eq (changes : List ReferenceChange) (cls : ChangeClass) :
    sectionLines changes cls =
      if changes.any (·.readsAs cls) then classLines changes cls else [] := by
  rw [sectionLines, classLines, any_readsAs_eq, ← ofClass]
  cases ofClass cls changes <;> rfl

/-- The sections are those of the classes that have changes. -/
theorem sections_eq (changes : List ReferenceChange) :
    sections changes = (classes changes).map (classLines changes) := by
  have hsame : (fun block : List String => decide (block ≠ [])) ∘ sectionLines changes =
      fun cls => changes.any (·.readsAs cls) := by
    funext cls
    rw [Function.comp_apply, sectionLines_eq]
    cases changes.any (·.readsAs cls) <;> simp [classLines]
  rw [sections, List.filter_map, hsame, classes]
  exact List.map_congr_left fun cls hcls => by
    rw [sectionLines_eq, if_pos (List.mem_filter.1 hcls).2]

/-- The block under a heading, with the heading as its first line. -/
theorem heading_append_sections (heading : String) (changes : List ReferenceChange) :
    (heading ++ "\n" ++
      match sections changes with
      | [] => noneLine
      | blocks => "\n\n".intercalate (blocks.map "\n".intercalate)) =
      "\n".intercalate (heading :: bodyLines changes) := by
  rw [sections_eq, bodyLines]
  cases h : classes changes with
  | nil =>
    rw [if_pos rfl, String.intercalate_cons_cons, String.intercalate_singleton]
    rfl
  | cons cls rest =>
    -- a section has its heading at least, so the empty lines between sections are easy to place
    have hblocks : ∀ block ∈ (cls :: rest).map (classLines changes), block ≠ [] := by
      intro block hblock
      obtain ⟨other, -, rfl⟩ := List.mem_map.1 hblock
      exact List.cons_ne_nil _ _
    have hbody : [""].intercalate ((cls :: rest).map (classLines changes)) ≠ [] :=
      intercalate_ne_nil (by simp) hblocks
    rw [if_neg (List.cons_ne_nil cls rest), String.intercalate_cons_of_ne_nil hbody,
      ← intercalate_emptyLine hblocks]
    rfl

theorem text_eq (changes : List ReferenceChange) :
    text changes = "\n".intercalate ("Project References:" :: bodyLines changes) := by
  rw [← heading_append_sections]
  rfl

/-- What lines there are below the heading of the block. -/
theorem mem_bodyLines {changes : List ReferenceChange} {l : String} (h : l ∈ bodyLines changes) :
    (classes changes = [] ∧ l = noneLine) ∨ l = "" ∨ (∃ cls ∈ classes changes, l = cls.heading) ∨
      ∃ cls, ∃ change ∈ changes, l = line cls change := by
  rw [bodyLines] at h
  split at h
  · exact Or.inl ⟨‹_›, List.mem_singleton.1 h⟩
  · rcases mem_or_mem_of_mem_intercalate h with h | ⟨block, hblock, h⟩
    · exact Or.inr (Or.inl (List.mem_singleton.1 h))
    · obtain ⟨cls, hcls, rfl⟩ := List.mem_map.1 hblock
      rcases List.mem_cons.1 h with rfl | h
      · exact Or.inr (Or.inr (Or.inl ⟨cls, hcls, rfl⟩))
      · obtain ⟨change, hchange, rfl⟩ := List.mem_map.1 h
        exact Or.inr (Or.inr (Or.inr ⟨cls, change, (List.mem_filter.1 hchange).1, rfl⟩))

/-! ### No control characters -/

section Control

variable {x : Char}

theorem control_not_mem_versionSuffix (hx : x.toNat < 0x20) {version : Option String}
    (h : ∀ v ∈ version, x ∉ v.toList) : x ∉ (versionSuffix version).toList := by
  rw [versionSuffix.eq_def]
  split
  · split
    · exact control_not_mem_append (control_not_mem_append (control_not_mem hx (by decide))
        (h _ rfl)) (control_not_mem hx (by decide))
    · exact List.not_mem_nil
  · exact List.not_mem_nil

theorem control_not_mem_versionLabel (hx : x.toNat < 0x20) {version : Option String}
    (h : ∀ v ∈ version, x ∉ v.toList) : x ∉ (versionLabel version).toList := by
  rw [versionLabel.eq_def]
  split
  · split
    · exact control_not_mem hx (by decide)
    · exact h _ rfl
  · exact List.not_mem_nil

/-- The entry of a change has no control character in it that the name and the versions of the
reference do not have. -/
theorem control_not_mem_line (hx : x.toNat < 0x20) {change : ReferenceChange}
    (h : ∀ s ∈ change.name :: change.versions, x ∉ s.toList) (cls : ChangeClass) :
    x ∉ (line cls change).toList := by
  obtain ⟨hname, hversions⟩ := List.forall_mem_cons.1 h
  have hold : ∀ v ∈ change.old, x ∉ v.toList := fun v hv =>
    hversions v (List.mem_append_left _ (Option.mem_toList.2 hv))
  have hnew : ∀ v ∈ change.new, x ∉ v.toList := fun v hv =>
    hversions v (List.mem_append_right _ (Option.mem_toList.2 hv))
  have hkind : x ∉ change.kind.tagName.toList := by
    cases change.kind <;> exact control_not_mem hx (by decide)
  have hfixed {s : String} (hs : s.toList.all (0x20 ≤ ·.toNat) = true) : x ∉ s.toList :=
    control_not_mem hx hs
  have hparts {versions : String} (hv : x ∉ versions.toList) : x ∉ ("- " ++ change.name ++
      versions ++ " [" ++ change.kind.tagName ++ "]").toList :=
    control_not_mem_append (control_not_mem_append (control_not_mem_append
      (control_not_mem_append (control_not_mem_append (hfixed (by decide)) hname) hv)
      (hfixed (by decide))) hkind) (hfixed (by decide))
  cases cls with
  | added => exact hparts (control_not_mem_versionSuffix hx hnew)
  | updated =>
    exact hparts <| control_not_mem_append (control_not_mem_append (control_not_mem_append
      (control_not_mem_append (hfixed (by decide)) (control_not_mem_versionLabel hx hold))
      (hfixed (by decide))) (control_not_mem_versionLabel hx hnew)) (hfixed (by decide))
  | removed => exact hparts (control_not_mem_versionSuffix hx hold)

theorem control_not_mem_bodyLines (hx : x.toNat < 0x20) {changes : List ReferenceChange}
    (h : ∀ change ∈ changes, ∀ s ∈ change.name :: change.versions, x ∉ s.toList) :
    ∀ l ∈ bodyLines changes, x ∉ l.toList := by
  intro l hl
  rcases mem_bodyLines hl with ⟨-, rfl⟩ | rfl | ⟨cls, -, rfl⟩ | ⟨cls, change, hchange, rfl⟩
  · exact control_not_mem hx (by decide)
  · exact List.not_mem_nil
  · cases cls <;> exact control_not_mem hx (by decide)
  · exact control_not_mem_line hx (h change hchange) cls

end Control

theorem feed_not_mem_bodyLines {changes : List ReferenceChange}
    (h : ∀ change ∈ changes, change.OnOneLine) : ∀ l ∈ bodyLines changes, '\n' ∉ l.toList :=
  control_not_mem_bodyLines (by decide) fun change hchange =>
    List.forall_mem_cons.2 ⟨(h change hchange).name, (h change hchange).versions⟩

/-! ### The lines of the block -/

/-- The lines of the block are its heading and its body. -/
theorem textLines_eq {changes : List ReferenceChange} (h : ∀ change ∈ changes, change.OnOneLine) :
    textLines changes = "Project References:" :: bodyLines changes := by
  rw [textLines, text_eq]
  exact Text.feedLines_intercalate (List.cons_ne_nil _ _)
    (List.forall_mem_cons.2 ⟨by decide, feed_not_mem_bodyLines h⟩)

theorem classes_eq_nil_iff {changes : List ReferenceChange} :
    classes changes = [] ↔ ∀ change ∈ changes, ∀ cls, change.readsAs cls = false := by
  rw [classes, List.filter_eq_nil_iff]
  constructor
  · intro h change hchange cls
    by_contra hcls
    refine h cls ?_ (List.any_eq_true.2 ⟨change, hchange, by simpa using hcls⟩)
    cases cls <;> decide
  · intro h cls _ hany
    obtain ⟨change, hchange, hcls⟩ := List.any_eq_true.1 hany
    rw [h change hchange cls] at hcls
    cases hcls

theorem mem_classes {changes : List ReferenceChange} {cls : ChangeClass} :
    cls ∈ classes changes ↔ ∃ change ∈ changes, change.readsAs cls = true := by
  rw [classes, List.mem_filter, List.any_eq_true]
  refine and_iff_right ?_
  cases cls <;> decide

/-- Entries have a shape of their own. -/
theorem isEntry_line (cls : ChangeClass) (change : ReferenceChange) :
    isEntry (line cls change) = true := by
  cases cls <;> simp [isEntry, line, String.toList_append]

theorem line_ne_of_isEntry_eq_false {l : String} (h : isEntry l = false) (cls : ChangeClass)
    (change : ReferenceChange) : l ≠ line cls change := by
  rintro rfl
  rw [isEntry_line] at h
  cases h

/-- No line of a section is empty. -/
theorem not_mem_classLines (changes : List ReferenceChange) (cls : ChangeClass) :
    "" ∉ classLines changes cls := by
  intro hmem
  rcases List.mem_cons.1 hmem with hhead | hmem
  · cases cls <;> exact absurd hhead (by decide)
  · obtain ⟨change, -, hline⟩ := List.mem_map.1 hmem
    exact line_ne_of_isEntry_eq_false (by decide) cls change hline.symm

/-- The line that says that there is nothing stands in the block of changes without classes. -/
theorem noneLine_mem_textLines_iff {changes : List ReferenceChange}
    (h : ∀ change ∈ changes, change.OnOneLine) :
    noneLine ∈ textLines changes ↔ ∀ change ∈ changes, ∀ cls, change.readsAs cls = false := by
  rw [textLines_eq h, ← classes_eq_nil_iff, List.mem_cons, or_iff_right (by decide)]
  constructor
  · intro hmem
    rcases mem_bodyLines hmem with ⟨hnil, -⟩ | hempty | ⟨cls, -, hcls⟩ | ⟨cls, change, -, hline⟩
    · exact hnil
    · exact absurd hempty (by decide)
    · exact absurd hcls (by cases cls <;> decide)
    · exact absurd hline (line_ne_of_isEntry_eq_false (by decide) cls change)
  · intro hnil
    rw [bodyLines, if_pos hnil]
    exact List.mem_singleton_self noneLine

/-- The heading of a class stands in the block if some change has that class. -/
theorem heading_mem_textLines_iff {changes : List ReferenceChange}
    (h : ∀ change ∈ changes, change.OnOneLine) (cls : ChangeClass) :
    cls.heading ∈ textLines changes ↔ ∃ change ∈ changes, change.readsAs cls = true := by
  have hhead : cls.heading ≠ "Project References:" := by cases cls <;> decide
  rw [textLines_eq h, ← mem_classes, List.mem_cons, or_iff_right hhead]
  constructor
  · intro hmem
    rcases mem_bodyLines hmem with
      ⟨-, hnone⟩ | hempty | ⟨other, hother, heq⟩ | ⟨other, change, -, hline⟩
    · exact absurd hnone (by cases cls <;> decide)
    · exact absurd hempty (by cases cls <;> decide)
    · rwa [show cls = other by revert heq; cases cls <;> cases other <;> decide]
    · refine absurd hline (line_ne_of_isEntry_eq_false ?_ other change)
      cases cls <;> decide
  · intro hmem
    rw [bodyLines, if_neg (List.ne_nil_of_mem hmem)]
    exact mem_intercalate_of_mem (List.mem_map_of_mem hmem) List.mem_cons_self

theorem filter_isEntry_classLines (changes : List ReferenceChange) (cls : ChangeClass) :
    (classLines changes cls).filter isEntry = (changes.filter (·.readsAs cls)).map (line cls) := by
  have hhead : ¬ isEntry cls.heading = true := by cases cls <;> decide
  rw [classLines, List.filter_cons_of_neg hhead, List.filter_eq_self]
  intro l hl
  obtain ⟨change, -, rfl⟩ := List.mem_map.1 hl
  exact isEntry_line cls change

/-- The changes of a class that is left out are none. -/
theorem flatMap_classes (changes : List ReferenceChange) :
    ((classes changes).flatMap fun cls => (changes.filter (·.readsAs cls)).map (line cls)) =
      ChangeClass.all.flatMap fun cls => (changes.filter (·.readsAs cls)).map (line cls) := by
  rw [classes]
  generalize ChangeClass.all = all
  induction all with
  | nil => rfl
  | cons cls all ih =>
    rw [List.flatMap_cons, ← ih, List.filter_cons]
    split
    · rw [List.flatMap_cons]
    · rename_i hany
      have hnil : changes.filter (·.readsAs cls) = [] := by simpa using hany
      rw [hnil, List.map_nil, List.nil_append]

/-- **The entries.** Each change that has a class has one entry, under the heading of the class, and
the entries of a class are in the order of the changes. -/
theorem filter_isEntry_textLines {changes : List ReferenceChange}
    (h : ∀ change ∈ changes, change.OnOneLine) :
    (textLines changes).filter isEntry =
      ChangeClass.all.flatMap fun cls => (changes.filter (·.readsAs cls)).map (line cls) := by
  rw [textLines_eq h, List.filter_cons_of_neg (by decide), ← flatMap_classes, bodyLines]
  split
  · rename_i hnil
    rw [hnil, List.filter_cons_of_neg (by decide)]
    rfl
  · rw [filter_intercalate (by decide), List.flatMap_map]
    exact List.flatMap_congr fun cls _ => filter_isEntry_classLines changes cls

/-- An entry has the name of the reference in front and its kind at the end. -/
theorem line_eq (cls : ChangeClass) (change : ReferenceChange) :
    ∃ versions, line cls change =
      "- " ++ change.name ++ versions ++ " [" ++ change.kind.tagName ++ "]" := by
  cases cls
  · exact ⟨versionSuffix change.new, rfl⟩
  · exact ⟨_, rfl⟩
  · exact ⟨versionSuffix change.old, rfl⟩

/-! ### The changes in files -/

/-- **What is known, how it reads and how it is listed.** While the lines of some files are read,
only versions are recorded that the kind of their reference allows, and no change is without one. In
the end each change has exactly one class, except for assemblies of which only empty versions are
known, and these have none. The block is the heading and the sections of the classes, new, updated
and removed in this order, with a section exactly for the classes that some change has, and with one
entry for each change that has a class; where no change has one it is said that there are none. -/
theorem ofFiles_classified_and_listed (files : List ChangedFile) :
    (∀ seen, seen <+: ReferenceMention.inFiles files →
      ∀ change ∈ (seen.foldl Reconciler.apply .empty).changes, change.WellVersioned) ∧
    (∀ change ∈ ofFiles files, change.WellVersioned ∧
      ((∃! cls, change.readsAs cls = true) ∨
        (change.kind = .assembly ∧ (∀ v ∈ change.versions, v = "") ∧
          ∀ cls, change.readsAs cls = false))) ∧
    textLines (ofFiles files) = "Project References:" :: bodyLines (ofFiles files) ∧
    (noneLine ∈ textLines (ofFiles files) ↔
      ∀ change ∈ ofFiles files, ∀ cls, change.readsAs cls = false) ∧
    (∀ cls : ChangeClass, cls.heading ∈ textLines (ofFiles files) ↔
      ∃ change ∈ ofFiles files, change.readsAs cls = true) ∧
    (textLines (ofFiles files)).filter isEntry =
      (ChangeClass.all.flatMap fun cls =>
        ((ofFiles files).filter (·.readsAs cls)).map (line cls)) ∧
    ∀ cls, ∀ change ∈ ofFiles files, ∃ versions, line cls change =
      "- " ++ change.name ++ versions ++ " [" ++ change.kind.tagName ++ "]" := by
  have honeLine : ∀ change ∈ ofFiles files, change.OnOneLine := fun _ => onOneLine_of_mem_ofFiles
  refine ⟨fun seen hseen => ?_, fun change hchange => ?_, textLines_eq honeLine,
    noneLine_mem_textLines_iff honeLine, heading_mem_textLines_iff honeLine,
    filter_isEntry_textLines honeLine, fun cls change _ => line_eq cls change⟩
  · exact wellVersioned_of_mem_changes fun mention hmem => hseen.subset hmem
  · have hversions := wellVersioned_of_mem_ofFiles hchange
    exact ⟨hversions, readsAs_cases hversions⟩

/-- A package that is updated, and an assembly of which only an empty version is known. -/
theorem ofFiles_of_update_and_assembly :
    let files : List ChangedFile := [⟨"App.csproj",
      "-<PackageReference Include=\"Log\" Version=\"1.0\" />\n" ++
        "+<PackageReference Include=\"Log\" Version=\"2.0\" />\n+<Reference Include=\"Sys\" />"⟩]
    (∃ change ∈ ofFiles files, change.kind = .assembly ∧ ∀ cls, change.readsAs cls = false) ∧
      ChangeClass.updated.heading ∈ textLines (ofFiles files) ∧
        noneLine ∉ textLines (ofFiles files) := by
  intro files
  have hpackage : ⟨"Log", .package, some "1.0", some "2.0"⟩ ∈ ofFiles files := by decide +kernel
  have hassembly : ⟨"Sys", .assembly, none, some ""⟩ ∈ ofFiles files := by decide +kernel
  obtain ⟨-, hcases, -, hnone, hheading, -⟩ := ofFiles_classified_and_listed files
  refine ⟨⟨_, hassembly, rfl, ?_⟩, (hheading .updated).2 ⟨_, hpackage, rfl⟩, fun hmem => ?_⟩
  · rcases (hcases _ hassembly).2 with ⟨cls, hcls, -⟩ | ⟨-, -, hclasses⟩
    · exact absurd hcls (by cases cls <;> decide)
    · exact hclasses
  · exact absurd (hnone.1 hmem _ hpackage .updated) (by decide)

end ReferenceChange

end PullReport
