import Mathlib.Data.List.Induction
import Mathlib.Data.List.Nodup
import PullReport.Analysis.Reconciler

/-!
# What reconciling amounts to

Reconciling works line by line, with an index and with changes that are updated in place. What comes
out of it can be said without any of that: take all mentions in the files as one sequence; there is
one change for each reference in it, in the order of first mention, and its versions are those of
the last mentions on either side.

## Main definitions

* `ReferenceMention.onLine?`: the mention on a patch line, with its version as it is recorded.
* `ReferenceMention.inFiles`: the mentions in some files as one sequence.
* `ReferenceMention.lastVersion`: the version in the last mention of a reference on one side.
* `ReferenceChange.summary`: the changes that a sequence of mentions amounts to.

## Main results

* `Reconciler.changes_apply`: one more mention keeps the changes a summary of all mentions.
* `Reconciler.changes_foldl_apply`: so after any sequence of mentions they are one.
* `ReferenceChange.ofFiles_summarizes`: the changes in files, one for each reference, in order, with
  the last version of each side.
-/

namespace PullReport

namespace ReferenceMention

/-- The side whose lines have a given sign in front. -/
def side? : Char → Option Side
  | '+' => some .new
  | '-' => some .old
  | _ => none

/-- The mention on a patch line: its sign, and the tag behind the sign once blanks around it are
gone. Project and framework references without a version are recorded as `[NoVersion]`; a package
has a version of its own, and the empty version of an assembly stays empty. -/
def onLine? : List Char → Option ReferenceMention
  | [] => none
  | sign :: content => do
    let side ← side? sign
    let tag ← ReferenceTag.find? (Text.trim content)
    return {
      side
      kind := tag.kind
      name := tag.name
      version :=
        if tag.version = "" ∧ (tag.kind = .project ∨ tag.kind = .framework) then "[NoVersion]"
        else tag.version }

/-- Every mention in the files, in the order of files and lines. -/
def inFiles (files : List ChangedFile) : List ReferenceMention :=
  (files.flatMap ChangedFile.lines).filterMap onLine?

theorem ofTag_eq (side : Side) (tag : ReferenceTag) :
    ofTag side tag = ⟨side, tag.kind, tag.name,
      if tag.version = "" ∧ (tag.kind = .project ∨ tag.kind = .framework) then "[NoVersion]"
      else tag.version⟩ := by
  have hkind : tag.kind.isUnversioned = true ↔ tag.kind = .project ∨ tag.kind = .framework := by
    cases tag.kind <;> decide
  simp only [ofTag, hkind, noVersion]

/-- Reconciling reads the same mentions on a line. -/
theorem onLine?_eq_ofLine? (line : List Char) : onLine? line = ofLine? line := by
  cases line with
  | nil => rfl
  | cons sign content =>
    by_cases hadd : sign = '+'
    · subst hadd
      cases htag : ReferenceTag.find? (Text.trim content) <;>
        simp [onLine?, side?, ofLine?, ofTag_eq, htag]
    by_cases hremove : sign = '-'
    · subst hremove
      cases htag : ReferenceTag.find? (Text.trim content) <;>
        simp [onLine?, side?, ofLine?, ofTag_eq, htag]
    simp [onLine?, side?, ofLine?, hadd, hremove]

theorem inFiles_eq_flatMap (files : List ChangedFile) :
    inFiles files = files.flatMap fun file => file.lines.filterMap ofLine? := by
  rw [inFiles, funext onLine?_eq_ofLine?, List.filterMap_flatMap]

/-- The version in the last mention of a reference on one side, if there is such a mention. -/
def lastVersion (mentions : List ReferenceMention) (side : Side) (key : ReferenceKey) :
    Option String :=
  ((mentions.filter fun mention => mention.side = side ∧ mention.key = key).map version).getLast?

/-- One more mention decides the last version of its side of its reference and no other. -/
theorem lastVersion_concat (mentions : List ReferenceMention) (mention : ReferenceMention)
    (side : Side) (key : ReferenceKey) :
    lastVersion (mentions ++ [mention]) side key =
      if mention.side = side ∧ mention.key = key then some mention.version
      else lastVersion mentions side key := by
  rw [lastVersion, List.filter_append]
  by_cases h : mention.side = side ∧ mention.key = key
  · rw [if_pos h, List.filter_cons_of_pos (by simpa using h)]
    simp
  · rw [if_neg h, List.filter_cons_of_neg (by simpa using h)]
    simp [lastVersion]

end ReferenceMention

namespace ReferenceChange

open ReferenceMention

/-- What a sequence of mentions says about one reference. -/
def entry (mentions : List ReferenceMention) (key : ReferenceKey) : ReferenceChange :=
  ⟨key.name, key.kind, lastVersion mentions .old key, lastVersion mentions .new key⟩

/-- The changes that a sequence of mentions amounts to, in the order of first mention. -/
def summary (mentions : List ReferenceMention) : List ReferenceChange :=
  (mentions.map ReferenceMention.key).eraseDups.map (entry mentions)

theorem map_key_summary (mentions : List ReferenceMention) :
    (summary mentions).map key = (mentions.map ReferenceMention.key).eraseDups := by
  rw [summary, List.map_map, show key ∘ entry mentions = id from rfl, List.map_id]

/-- One more mention updates what is said about its own reference. -/
theorem entry_concat_self (mentions : List ReferenceMention) (mention : ReferenceMention) :
    entry (mentions ++ [mention]) mention.key = (entry mentions mention.key).update mention := by
  rw [entry, lastVersion_concat, lastVersion_concat]
  cases h : mention.side <;> simp [entry, update, h]

/-- What is said about other references stays as it is. -/
theorem entry_concat_of_ne (mentions : List ReferenceMention) {mention : ReferenceMention}
    {key : ReferenceKey} (h : mention.key ≠ key) :
    entry (mentions ++ [mention]) key = entry mentions key := by
  rw [entry, lastVersion_concat, lastVersion_concat, if_neg fun hc => h hc.2,
    if_neg fun hc => h hc.2, entry]

/-- A first mention says no more than it would on its own. -/
theorem entry_of_not_mem {mentions : List ReferenceMention} {mention : ReferenceMention}
    (h : mention.key ∉ mentions.map ReferenceMention.key) :
    (entry mentions mention.key).update mention = ofMention mention := by
  have unseen : ∀ side, lastVersion mentions side mention.key = none := by
    intro side
    have hnil : mentions.filter (fun m => m.side = side ∧ m.key = mention.key) = [] := by
      refine List.filter_eq_nil_iff.2 fun m hm hkey => ?_
      simp only [decide_eq_true_eq] at hkey
      exact h (List.mem_map.2 ⟨m, hm, hkey.2⟩)
    rw [lastVersion, hnil]
    rfl
  rw [entry, unseen, unseen]
  rfl

/-- The references of a sequence stay the same when a known one is mentioned again. -/
theorem eraseDups_concat_of_mem {keys : List ReferenceKey} {key : ReferenceKey} (h : key ∈ keys) :
    (keys ++ [key]).eraseDups = keys.eraseDups := by
  rw [List.eraseDups_append, List.removeAll, List.filter_cons_of_neg (by simpa using h)]
  simp

/-- A reference that is mentioned for the first time comes last. -/
theorem eraseDups_concat_of_not_mem {keys : List ReferenceKey} {key : ReferenceKey}
    (h : key ∉ keys) : (keys ++ [key]).eraseDups = keys.eraseDups ++ [key] := by
  rw [List.eraseDups_append, List.removeAll, List.filter_cons_of_pos (by simpa using h)]
  simp [List.eraseDups_cons]

end ReferenceChange

namespace Reconciler

open ReferenceMention ReferenceChange

/-! ### One mention -/

/-- Once the changes are a summary, the index leads to the places that the references have among
the distinct ones. -/
theorem lookup_index_of_summary {r : Reconciler} {mentions : List ReferenceMention}
    (h : r.changes = summary mentions) (key : ReferenceKey) (slot : Nat) :
    r.index.lookup key = some slot ↔
      (mentions.map ReferenceMention.key).eraseDups[slot]? = some key := by
  rw [r.lookup_index, h, ← List.getElem?_map, map_key_summary]

/-- **One step.** If the changes sum up the mentions so far, they sum them up together with one more
mention behind it. -/
theorem changes_apply {r : Reconciler} {mentions : List ReferenceMention}
    (h : r.changes = summary mentions) (mention : ReferenceMention) :
    (r.apply mention).changes = summary (mentions ++ [mention]) := by
  have index := lookup_index_of_summary h
  cases hslot : r.index.lookup mention.key with
  | some slot =>
    have known : mention.key ∈ mentions.map ReferenceMention.key :=
      List.mem_eraseDups.1 (List.mem_of_getElem? ((index _ _).1 hslot))
    rw [changes_apply_of_known hslot, summary, List.map_append, List.map_singleton,
      eraseDups_concat_of_mem known, h, summary]
    refine List.ext_getElem? fun place => ?_
    rw [List.getElem?_modify, List.getElem?_map, List.getElem?_map]
    cases hkey : (mentions.map ReferenceMention.key).eraseDups[place]? with
    | none => rfl
    | some key =>
      by_cases hplace : slot = place
      · subst hplace
        obtain rfl : mention.key = key := Option.some.inj (((index _ _).1 hslot).symm.trans hkey)
        simp [entry_concat_self]
      · -- each reference has one place, so another place has another reference
        have hne : mention.key ≠ key := by
          rintro rfl
          exact hplace (Option.some.inj (hslot.symm.trans ((index _ _).2 hkey)))
        simp [hplace, entry_concat_of_ne _ hne]
  | none =>
    have new : mention.key ∉ mentions.map ReferenceMention.key := by
      intro hmem
      obtain ⟨slot, hkey⟩ := List.mem_iff_getElem?.1 (List.mem_eraseDups.2 hmem)
      rw [(index _ _).2 hkey] at hslot
      cases hslot
    rw [changes_apply_of_new hslot, summary, List.map_append, List.map_singleton,
      eraseDups_concat_of_not_mem new, List.map_append, List.map_singleton, entry_concat_self,
      entry_of_not_mem new, h, summary]
    refine congrArg (· ++ _) (List.map_congr_left fun key hkey => ?_)
    refine (entry_concat_of_ne _ ?_).symm
    rintro rfl
    exact new (List.mem_eraseDups.1 hkey)

/-! ### Whole runs -/

/-- **Any run.** The changes behind a sequence of mentions sum them up. -/
theorem changes_foldl_apply (mentions : List ReferenceMention) :
    (mentions.foldl apply empty).changes = summary mentions := by
  induction mentions using List.reverseRecOn with
  | nil => rfl
  | append_singleton mentions mention ih =>
    rw [List.foldl_append]
    exact changes_apply ih mention

/-- Reading files line by line is applying the mentions in them, one after the other. -/
theorem foldl_readFile (files : List ChangedFile) (r : Reconciler) :
    files.foldl readFile r = (inFiles files).foldl apply r := by
  rw [inFiles_eq_flatMap, List.foldl_flatMap]
  refine congrArg (fun step => files.foldl step r) ?_
  funext r file
  rw [readFile, List.foldl_filterMap]
  refine congrArg (fun step => file.lines.foldl step r) ?_
  funext r line
  cases h : ofLine? line <;> simp [readLine, h]

/-- No reference has two changes. -/
theorem nodup_map_key_changes (r : Reconciler) : (r.changes.map ReferenceChange.key).Nodup := by
  refine List.nodup_iff_getElem?_ne_getElem?.2 fun i j hij hj heq => ?_
  have hkey := List.getElem?_eq_getElem hj
  have hi := (r.lookup_index _ i).2 (by rw [← List.getElem?_map, heq, hkey])
  have hj := (r.lookup_index _ j).2 (by rw [← List.getElem?_map, hkey])
  exact Nat.ne_of_lt hij (Option.some.inj (hi.symm.trans hj))

end Reconciler

namespace ReferenceChange

open ReferenceMention

theorem ofFiles_eq_summary (files : List ChangedFile) :
    ofFiles files = summary (inFiles files) := by
  rw [ofFiles, Reconciler.foldl_readFile, Reconciler.changes_foldl_apply]

theorem nodup_map_key_ofFiles (files : List ChangedFile) : ((ofFiles files).map key).Nodup :=
  Reconciler.nodup_map_key_changes _

/-- **What the changes in files are.** Whatever the order of additions and removals within and
across the files, there is exactly one change for each reference that the files mention, in the
order of first mention; its new version is that of the last line that adds the reference, its old
version that of the last line that removes it, and each is absent if there is no such line. -/
theorem ofFiles_summarizes (files : List ChangedFile) :
    (ofFiles files).map key = ((inFiles files).map ReferenceMention.key).eraseDups ∧
      ((ofFiles files).map key).Nodup ∧
      ∀ change ∈ ofFiles files,
        change.new = lastVersion (inFiles files) .new change.key ∧
          change.old = lastVersion (inFiles files) .old change.key := by
  refine ⟨?_, nodup_map_key_ofFiles files, fun change hmem => ?_⟩
  · rw [ofFiles_eq_summary, map_key_summary]
  · rw [ofFiles_eq_summary] at hmem
    obtain ⟨key, -, rfl⟩ := List.mem_map.1 hmem
    exact ⟨rfl, rfl⟩

/-- A package that is added before it is removed is updated, and a project that is added in another
file is new without a version of its own. -/
theorem ofFiles_of_added_before_removed :
    let files : List ChangedFile := [⟨"App.csproj",
      "+<PackageReference Include=\"Log\" Version=\"2.0\" />\n" ++
        "-<PackageReference Include=\"Log\" Version=\"1.0\" />"⟩,
      ⟨"Web.csproj", "+ <ProjectReference Include=\"Core\" />"⟩]
    ⟨"Log", .package, some "1.0", some "2.0"⟩ ∈ ofFiles files ∧
      lastVersion (inFiles files) .new ⟨.package, "Log"⟩ = some "2.0" ∧
        lastVersion (inFiles files) .old ⟨.package, "Log"⟩ = some "1.0" ∧
      ⟨"Core", .project, none, some "[NoVersion]"⟩ ∈ ofFiles files ∧
        lastVersion (inFiles files) .new ⟨.project, "Core"⟩ = some "[NoVersion]" := by
  intro files
  have hpackage : ⟨"Log", .package, some "1.0", some "2.0"⟩ ∈ ofFiles files := by decide +kernel
  have hproject : ⟨"Core", .project, none, some "[NoVersion]"⟩ ∈ ofFiles files := by decide +kernel
  obtain ⟨hnew, hold⟩ := (ofFiles_summarizes files).2.2 _ hpackage
  have hcore := ((ofFiles_summarizes files).2.2 _ hproject).1
  exact ⟨hpackage, hnew.symm, hold.symm, hproject, hcore.symm⟩

end ReferenceChange

end PullReport
