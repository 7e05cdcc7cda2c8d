import PullReport.Proofs.References.Reconciliation
import PullReport.Proofs.References.Tag

/-!
# What is known about a reference, and how it reads

Every change has a version on at least one side, since some line made it. Which versions it can have
depends on the kind, and so does whether it has a class: only an assembly may be recorded with empty
versions alone, and only then does a change read as nothing.

## Main definitions

* `ReferenceChange.versions`: the versions that are known of a reference.
* `ReferenceChange.WellVersioned`: they are ones that its kind allows, and there is one.
* `ReferenceChange.OnOneLine`: nothing that is known of a reference has a line feed in it.

## Main results

* `ReferenceChange.wellVersioned_of_mem_changes`: so it is behind any number of mentions.
* `ReferenceChange.readsAs_cases`: a change has exactly one class, or it is of an assembly and has
  no version that is not empty.
-/

namespace PullReport

namespace ReferenceChange

open ReferenceMention

/-- The versions that are known of a reference. -/
def versions (change : ReferenceChange) : List String := change.old.toList ++ change.new.toList

/-- Something is known of the reference, and nothing that its kind does not allow. -/
structure WellVersioned (change : ReferenceChange) : Prop where
  /-- One version is known at least. -/
  versions_ne_nil : change.versions ≠ []
  /-- A kind without versions is recorded under the sentinel. -/
  eq_noVersion : change.kind.isUnversioned = true → ∀ v ∈ change.versions, v = noVersion
  /-- A package has versions that are not empty. -/
  ne_empty : change.kind = .package → ∀ v ∈ change.versions, v ≠ ""

/-- Neither the name nor a version has a line feed in it. -/
structure OnOneLine (change : ReferenceChange) : Prop where
  name : '\n' ∉ change.name.toList
  versions : ∀ v ∈ change.versions, '\n' ∉ v.toList

/-! ### From mentions to changes -/

theorem mem_inFiles {files : List ChangedFile} {mention : ReferenceMention}
    (h : mention ∈ inFiles files) :
    ∃ file ∈ files, ∃ line ∈ file.lines, ofLine? line = some mention := by
  rw [inFiles_eq_flatMap] at h
  obtain ⟨file, hfile, h⟩ := List.mem_flatMap.1 h
  obtain ⟨line, hline, h⟩ := List.mem_filterMap.1 h
  exact ⟨file, hfile, line, hline, h⟩

theorem exists_mention_of_lastVersion {mentions : List ReferenceMention} {side : Side}
    {key : ReferenceKey} {v : String} (h : lastVersion mentions side key = some v) :
    ∃ mention ∈ mentions, mention.key = key ∧ mention.version = v := by
  obtain ⟨mention, hmem, rfl⟩ := List.mem_map.1 (List.mem_of_getLast? h)
  obtain ⟨hmem, hkey⟩ := List.mem_filter.1 hmem
  exact ⟨mention, hmem, (of_decide_eq_true hkey).2, rfl⟩

theorem isSome_lastVersion_of_mem {mentions : List ReferenceMention} {mention : ReferenceMention}
    (h : mention ∈ mentions) : (lastVersion mentions mention.side mention.key).isSome := by
  rw [lastVersion, Option.isSome_iff_ne_none, ne_eq, List.getLast?_eq_none_iff]
  exact List.ne_nil_of_mem (List.mem_map_of_mem (List.mem_filter.2 ⟨h, by simp⟩))

/-- Whatever is known of a reference has been mentioned. -/
theorem exists_mention_of_mem_versions {mentions : List ReferenceMention}
    {change : ReferenceChange} (hchange : change ∈ summary mentions) {v : String}
    (hv : v ∈ change.versions) :
    ∃ mention ∈ mentions, mention.key = change.key ∧ mention.version = v := by
  obtain ⟨key, -, rfl⟩ := List.mem_map.1 hchange
  rcases List.mem_append.1 hv with h | h <;>
    exact exists_mention_of_lastVersion (Option.mem_toList.1 h)

/-- Every change comes from a mention, whose version was known at the time. -/
theorem exists_mention_of_mem_summary {mentions : List ReferenceMention}
    {change : ReferenceChange} (hchange : change ∈ summary mentions) :
    (∃ mention ∈ mentions, mention.key = change.key) ∧ change.versions ≠ [] := by
  obtain ⟨key, hkey, rfl⟩ := List.mem_map.1 hchange
  obtain ⟨mention, hmem, rfl⟩ := List.mem_map.1 (List.mem_eraseDups.1 hkey)
  refine ⟨⟨mention, hmem, rfl⟩, fun hnil => ?_⟩
  have hsome := isSome_lastVersion_of_mem hmem
  obtain ⟨hold, hnew⟩ := List.append_eq_nil_iff.1 hnil
  cases hside : mention.side with
  | old => simp_all [entry]
  | new => simp_all [entry]

theorem wellVersioned_of_mem_summary {mentions : List ReferenceMention}
    (h : ∀ mention ∈ mentions, mention.WellVersioned) {change : ReferenceChange}
    (hchange : change ∈ summary mentions) : change.WellVersioned := by
  refine ⟨(exists_mention_of_mem_summary hchange).2, fun hkind v hv => ?_, fun hkind v hv => ?_⟩
  · obtain ⟨mention, hmem, hkey, rfl⟩ := exists_mention_of_mem_versions hchange hv
    refine (h mention hmem).eq_noVersion ?_
    rwa [show mention.kind = change.kind from congrArg ReferenceKey.kind hkey]
  · obtain ⟨mention, hmem, hkey, rfl⟩ := exists_mention_of_mem_versions hchange hv
    refine (h mention hmem).ne_empty ?_
    rwa [show mention.kind = change.kind from congrArg ReferenceKey.kind hkey]

theorem onOneLine_of_mem_summary {mentions : List ReferenceMention}
    (h : ∀ mention ∈ mentions, mention.OnOneLine) {change : ReferenceChange}
    (hchange : change ∈ summary mentions) : change.OnOneLine := by
  obtain ⟨⟨mention, hmem, hkey⟩, -⟩ := exists_mention_of_mem_summary hchange
  refine ⟨?_, fun v hv => ?_⟩
  · rw [← show mention.name = change.name from congrArg ReferenceKey.name hkey]
    exact (h mention hmem).name
  · obtain ⟨mention, hmem, -, rfl⟩ := exists_mention_of_mem_versions hchange hv
    exact (h mention hmem).version

/-- **Any state of a run.** The changes are well versioned behind every part of the mentions in some
files, so no version that was ever recorded is one that the kind does not allow. -/
theorem wellVersioned_of_mem_changes {files : List ChangedFile} {mentions : List ReferenceMention}
    (h : ∀ mention ∈ mentions, mention ∈ inFiles files) :
    ∀ change ∈ (mentions.foldl Reconciler.apply .empty).changes, change.WellVersioned := by
  intro change hchange
  rw [Reconciler.changes_foldl_apply] at hchange
  refine wellVersioned_of_mem_summary (fun mention hmem => ?_) hchange
  obtain ⟨_, -, line, -, hline⟩ := mem_inFiles (h mention hmem)
  exact wellVersioned_of_ofLine? hline

theorem wellVersioned_of_mem_ofFiles {files : List ChangedFile} {change : ReferenceChange}
    (h : change ∈ ofFiles files) : change.WellVersioned := by
  rw [ofFiles, Reconciler.foldl_readFile] at h
  exact wellVersioned_of_mem_changes (fun _ hmem => hmem) change h

theorem onOneLine_of_mem_ofFiles {files : List ChangedFile} {change : ReferenceChange}
    (h : change ∈ ofFiles files) : change.OnOneLine := by
  rw [ofFiles_eq_summary] at h
  refine onOneLine_of_mem_summary (fun mention hmem => ?_) h
  obtain ⟨_, -, line, hline, hmention⟩ := mem_inFiles hmem
  exact onOneLine_of_mem_lines hline hmention

/-! ### Classes -/

theorem isSet_eq_false_iff {version : Option String} :
    isSet version = false ↔ ∀ v ∈ version.toList, v = "" := by
  cases version with
  | none => simp [isSet]
  | some v => simp [isSet]

/-- A change without a class is one of which only empty versions are known. -/
theorem readsAs_eq_false_iff {change : ReferenceChange} :
    (∀ cls, change.readsAs cls = false) ↔ ∀ v ∈ change.versions, v = "" := by
  rw [versions, List.forall_mem_append, ← isSet_eq_false_iff, ← isSet_eq_false_iff]
  constructor
  · intro h
    have hadded := h .added
    have hupdated := h .updated
    have hremoved := h .removed
    simp only [readsAs] at hadded hupdated hremoved
    cases hold : isSet change.old <;> cases hnew : isSet change.new <;> simp_all
  · rintro ⟨hold, hnew⟩ cls
    cases cls <;> simp [readsAs, hold, hnew]

/-- A change reads as one class at most. -/
theorem readsAs_unique {change : ReferenceChange} {cls other : ChangeClass}
    (h : change.readsAs cls = true) (hother : change.readsAs other = true) : cls = other :=
  Option.some.inj ((changeClass?_eq_some_iff.2 h).symm.trans (changeClass?_eq_some_iff.2 hother))

/-- **Exactly one class, or an assembly of which nothing is known.** -/
theorem readsAs_cases {change : ReferenceChange} (h : change.WellVersioned) :
    (∃! cls, change.readsAs cls = true) ∨
      (change.kind = .assembly ∧ (∀ v ∈ change.versions, v = "") ∧
        ∀ cls, change.readsAs cls = false) := by
  by_cases hclass : ∀ cls, change.readsAs cls = false
  · refine Or.inr ⟨?_, readsAs_eq_false_iff.1 hclass, hclass⟩
    obtain ⟨v, hv⟩ := List.exists_mem_of_ne_nil _ h.versions_ne_nil
    have hempty : v = "" := readsAs_eq_false_iff.1 hclass v hv
    cases hkind : change.kind with
    | assembly => rfl
    | package => exact absurd hempty (h.ne_empty hkind v hv)
    | project =>
      have := h.eq_noVersion (by rw [hkind]; rfl) v hv
      exact absurd (this.symm.trans hempty) (by decide)
    | framework =>
      have := h.eq_noVersion (by rw [hkind]; rfl) v hv
      exact absurd (this.symm.trans hempty) (by decide)
  · push Not at hclass
    obtain ⟨cls, hcls⟩ := hclass
    rw [ne_eq, Bool.not_eq_false] at hcls
    exact Or.inl ⟨cls, hcls, fun other hother => readsAs_unique hother hcls⟩

end ReferenceChange

end PullReport
