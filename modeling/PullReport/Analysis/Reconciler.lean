import PullReport.Analysis.ReferenceChange

/-!
# Reconciling the lines about references

The lines of all manifests are read once, in order. What is known about a reference is kept in one
change, which every later line about that reference updates in its place, whichever of addition and
removal comes first and whatever file it is in. An index leads from the reference to that place.

## Main definitions

* `Reconciler`: the changes found so far and the index. That the index leads to the right places,
  and only there, is part of the structure.
* `Reconciler.apply`: one more mention of a reference.
* `Reconciler.readLine`, `Reconciler.readFile`: one more line, and one more file.
* `ReferenceChange.ofFiles`: the changes in some files.
-/

namespace PullReport

/-- The changes found so far, in the order of discovery, and for each reference among them the place
of its change. -/
structure Reconciler where
  index : List (ReferenceKey × Nat)
  changes : List ReferenceChange
  lookup_index : ∀ key slot,
    index.lookup key = some slot ↔ (changes[slot]?).map ReferenceChange.key = some key

namespace Reconciler

/-- Nothing has been found. -/
def empty : Reconciler := ⟨[], [], by simp⟩

/-! ### One more mention -/

/-- Updating a change leaves the reference at every place what it was. -/
theorem map_key_getElem?_modify (changes : List ReferenceChange) (mention : ReferenceMention)
    (slot place : Nat) :
    ((changes.modify place (·.update mention))[slot]?).map ReferenceChange.key =
      (changes[slot]?).map ReferenceChange.key := by
  rw [List.getElem?_modify]
  cases changes[slot]? with
  | none => rfl
  | some change => by_cases h : place = slot <;> simp [h]

/-- A reference that the index does not know yet gets the next place. -/
theorem lookup_index_append (r : Reconciler) {mention : ReferenceMention}
    (h : r.index.lookup mention.key = none) (key : ReferenceKey) (slot : Nat) :
    ((mention.key, r.changes.length) :: r.index).lookup key = some slot ↔
      ((r.changes ++ [.ofMention mention])[slot]?).map ReferenceChange.key = some key := by
  rcases Nat.lt_trichotomy slot r.changes.length with hlt | rfl | hgt
  · rw [List.getElem?_append_left hlt, ← r.lookup_index, List.lookup_cons]
    by_cases hkey : key = mention.key
    · subst hkey
      simp only [BEq.rfl, h, Option.some.injEq, reduceCtorEq, iff_false]
      omega
    · rw [beq_eq_false_iff_ne.2 hkey]
  · rw [List.getElem?_concat_length, List.lookup_cons]
    by_cases hkey : key = mention.key
    · simp [hkey]
    · have hnone : r.index.lookup key ≠ some r.changes.length := by
        simp [r.lookup_index]
      simpa [beq_eq_false_iff_ne.2 hkey, hnone] using Ne.symm hkey
  · have hnone : r.index.lookup key ≠ some slot := by
      simp [r.lookup_index, List.getElem?_eq_none (Nat.le_of_lt hgt)]
    rw [List.getElem?_eq_none (by simpa using Nat.succ_le_of_lt hgt), List.lookup_cons]
    split
    · simp only [Option.some.injEq, Option.map_none, reduceCtorEq, iff_false]
      omega
    · simp [hnone]

/-- The state behind one more mention. A reference that is known already has its change updated
where it stands; any other gets a change of its own behind all others. -/
def apply (r : Reconciler) (mention : ReferenceMention) : Reconciler :=
  match h : r.index.lookup mention.key with
  | some slot =>
    { index := r.index
      changes := r.changes.modify slot (·.update mention)
      lookup_index := fun key place => by
        rw [map_key_getElem?_modify]
        exact r.lookup_index key place }
  | none =>
    { index := (mention.key, r.changes.length) :: r.index
      changes := r.changes ++ [.ofMention mention]
      lookup_index := r.lookup_index_append h }

theorem changes_apply_of_known {r : Reconciler} {mention : ReferenceMention} {slot : Nat}
    (h : r.index.lookup mention.key = some slot) :
    (r.apply mention).changes = r.changes.modify slot (·.update mention) := by
  rw [apply]
  split
  · rename_i other hother
    obtain rfl : slot = other := Option.some.inj (h.symm.trans hother)
    rfl
  · rename_i hnone
    rw [h] at hnone
    cases hnone

theorem changes_apply_of_new {r : Reconciler} {mention : ReferenceMention}
    (h : r.index.lookup mention.key = none) :
    (r.apply mention).changes = r.changes ++ [.ofMention mention] := by
  rw [apply]
  split
  · rename_i slot hslot
    rw [h] at hslot
    cases hslot
  · rfl

/-! ### Lines and files -/

/-- The state behind one more line. A line that mentions no reference changes nothing. -/
def readLine (r : Reconciler) (line : List Char) : Reconciler :=
  match ReferenceMention.ofLine? line with
  | some mention => r.apply mention
  | none => r

/-- The state behind all lines of one more file. -/
def readFile (r : Reconciler) (file : ChangedFile) : Reconciler := file.lines.foldl readLine r

end Reconciler

/-- The changes in the manifests of a pull request. A reference that is removed in one file and
added in another changes once. -/
def ReferenceChange.ofFiles (files : List ChangedFile) : List ReferenceChange :=
  (files.foldl Reconciler.readFile .empty).changes

end PullReport
