import Mathlib.Data.List.Induction
import PullReport.FileTree

/-!
# Sound file trees

A file tree is a table, and a table can have an entry under a path whose directory is not there. In
a sound tree everything stands in a directory. What programs do with names keeps a tree sound: a
file is written, and a directory made, only where its directory is. And nothing that programs do
here takes a directory away, so that a name which has led somewhere still leads there afterwards.

## Main definitions

* `FileTree.Sound`: everything stands in a directory.
* `FileTree.Keeps`: the directories of one tree are those of another.
* `FileTree.Extends`: whatever is in one tree is in another, too.

## Main results

* `FileTree.Keeps.resolve`: names lead to the same paths as long as directories are kept.
* `FileTree.Sound.insert`, `FileTree.Sound.erase`: what keeps a tree sound.
* `FileTree.write_cases`, `FileTree.protect_insert`, `FileTree.remove_cases`: what writing a file,
  setting its rights and removing it do.
-/

namespace PullReport

namespace FileTree

variable {tree new : FileTree} {path target : Path} {name text : String} {names : List String}

/-! ### Soundness -/

/-- In a sound tree everything stands in a directory. -/
structure Sound (tree : FileTree) : Prop where
  workDir : tree.find? tree.workDir = some .directory
  parent : ∀ (path : Path) (name : String) (entry : Entry),
    tree.find? (path ++ [name]) = some entry → tree.find? path = some .directory

/-- Nothing but a root is sound. -/
theorem sound_empty : Sound ⟨[], []⟩ where
  workDir := rfl
  parent := fun path name entry h => by cases path <;> cases h

/-- What a directory stands in is a directory. -/
theorem Sound.dropLast (h : tree.Sound) (hpath : tree.find? path = some .directory) :
    tree.find? path.dropLast = some .directory := by
  rcases List.eq_nil_or_concat path with rfl | ⟨parent, name, rfl⟩
  · exact hpath
  · rw [List.concat_eq_append, List.dropLast_concat]
    rw [List.concat_eq_append] at hpath
    exact h.parent _ _ _ hpath

/-- There is nothing below what is missing. -/
theorem Sound.find?_append (h : tree.Sound) (hpath : tree.find? path = none) (names : List String) :
    tree.find? (path ++ names) = none := by
  induction names using List.reverseRecOn with
  | nil => rwa [List.append_nil]
  | append_singleton names name ih =>
    cases hentry : tree.find? (path ++ (names ++ [name])) with
    | none => rfl
    | some entry =>
      rw [← List.append_assoc] at hentry
      rw [h.parent _ _ _ hentry] at ih
      cases ih

/-- Only the root is not the path of something in a directory, and it is a directory. -/
theorem exists_of_ne_directory (h : tree.find? path ≠ some .directory) :
    ∃ parent name, path = parent ++ [name] := by
  rcases List.eq_nil_or_concat path with rfl | ⟨parent, name, rfl⟩
  · exact absurd rfl h
  · exact ⟨parent, name, List.concat_eq_append⟩

/-! ### Trees that follow each other -/

/-- A tree keeps the directories of another one. -/
structure Keeps (tree new : FileTree) : Prop where
  workDir : new.workDir = tree.workDir
  directory : ∀ path, tree.find? path = some .directory → new.find? path = some .directory

/-- A tree has all that is in another one. -/
structure Extends (tree new : FileTree) : Prop where
  workDir : new.workDir = tree.workDir
  entry : ∀ path entry, tree.find? path = some entry → new.find? path = some entry

theorem Extends.keeps (h : tree.Extends new) : tree.Keeps new :=
  ⟨h.workDir, fun path => h.entry path .directory⟩

/-! ### Names -/

/-- One step of a name is taken in a directory. -/
theorem walk_cons_eq_ok_iff :
    tree.walk path (name :: names) = .ok target ↔ tree.find? path = some .directory ∧
      ∃ next, step path name = .ok next ∧ tree.walk next names = .ok target := by
  rw [walk]
  cases hpath : tree.find? path with
  | none => simp
  | some entry =>
    cases entry with
    | file text rights => simp
    | unreadable reason => simp
    | directory => cases hstep : step path name <;> simp

theorem resolve_eq_ok_iff :
    tree.resolve name = .ok path ↔ '\x00' ∉ name.toList ∧ name ≠ "" ∧
      tree.walk (tree.start name) (steps name) = .ok path := by
  rw [resolve]
  by_cases hnul : '\x00' ∈ name.toList
  · simp [hnul]
  · by_cases hempty : name = ""
    · simp [hempty]
    · simp [hnul, hempty]

/-- Taking some steps and then more is taking them all. -/
theorem walk_append_eq_ok_iff {more : List String} :
    tree.walk path (names ++ more) = .ok target ↔
      ∃ midway, tree.walk path names = .ok midway ∧ tree.walk midway more = .ok target := by
  induction names generalizing path with
  | nil => simp [walk]
  | cons name names ih =>
    rw [List.cons_append, walk_cons_eq_ok_iff]
    simp only [walk_cons_eq_ok_iff, ih]
    constructor
    · rintro ⟨hpath, next, hstep, midway, hwalk, hmore⟩
      exact ⟨midway, ⟨hpath, next, hstep, hwalk⟩, hmore⟩
    · rintro ⟨midway, ⟨hpath, next, hstep, hwalk⟩, hmore⟩
      exact ⟨hpath, next, hstep, midway, hwalk, hmore⟩

/-- A step stays, goes up or goes down. -/
theorem eq_of_step {next : Path} (h : step path name = .ok next) :
    next = path ∨ next = path.dropLast ∨ next = path ++ [name] := by
  rw [step] at h
  split at h
  · exact .inl (Except.ok.inj h).symm
  · split at h
    · exact .inr (.inl (Except.ok.inj h).symm)
    · split at h
      · cases h
      · exact .inr (.inr (Except.ok.inj h).symm)

/-- A step from a directory leads to something that would stand in a directory. -/
theorem Sound.step_dropLast {next : Path} (h : tree.Sound)
    (hpath : tree.find? path = some .directory) (hstep : step path name = .ok next) :
    tree.find? next.dropLast = some .directory := by
  rcases eq_of_step hstep with rfl | rfl | rfl
  · exact h.dropLast hpath
  · exact h.dropLast (h.dropLast hpath)
  · rwa [List.dropLast_concat]

/-- So do several steps. -/
theorem Sound.walk_dropLast (h : tree.Sound) (hpath : tree.find? path.dropLast = some .directory)
    (hwalk : tree.walk path names = .ok target) :
    tree.find? target.dropLast = some .directory := by
  induction names generalizing path with
  | nil =>
    obtain rfl := Except.ok.inj hwalk
    exact hpath
  | cons name names ih =>
    obtain ⟨hdirectory, next, hstep, hnext⟩ := walk_cons_eq_ok_iff.1 hwalk
    exact ih (h.step_dropLast hdirectory hstep) hnext

/-- A name starts in a directory. -/
theorem Sound.start (h : tree.Sound) (name : String) :
    tree.find? (tree.start name) = some .directory := by
  rw [FileTree.start]
  split
  · rfl
  · exact h.workDir

/-- A name leads to something that would stand in a directory. -/
theorem Sound.resolve_dropLast (h : tree.Sound) (hname : tree.resolve name = .ok path) :
    tree.find? path.dropLast = some .directory := by
  obtain ⟨-, -, hwalk⟩ := resolve_eq_ok_iff.1 hname
  exact h.walk_dropLast (h.dropLast (h.start name)) hwalk

theorem start_eq (h : new.workDir = tree.workDir) : new.start name = tree.start name := by
  rw [start, start, h]

/-- Steps that can be taken can be taken as long as directories are kept. -/
theorem Keeps.walk (h : tree.Keeps new) (hwalk : tree.walk path names = .ok target) :
    new.walk path names = .ok target := by
  induction names generalizing path with
  | nil => exact hwalk
  | cons name names ih =>
    obtain ⟨hdirectory, next, hstep, hnext⟩ := walk_cons_eq_ok_iff.1 hwalk
    exact walk_cons_eq_ok_iff.2 ⟨h.directory path hdirectory, next, hstep, ih hnext⟩

/-- **Names lead to the same paths** as long as directories are kept. -/
theorem Keeps.resolve (h : tree.Keeps new) (hname : tree.resolve name = .ok path) :
    new.resolve name = .ok path := by
  obtain ⟨hnul, hempty, hwalk⟩ := resolve_eq_ok_iff.1 hname
  have hkept := h.walk hwalk
  rw [← start_eq h.workDir] at hkept
  exact resolve_eq_ok_iff.2 ⟨hnul, hempty, hkept⟩

/-! ### Putting entries in and taking them out -/

/-- What has been put in place of something other than a directory is found there. -/
theorem find?_insert_same (h : tree.find? path ≠ some .directory) (entry : Entry) :
    (tree.insert path entry).find? path = some entry := by
  obtain ⟨parent, name, rfl⟩ := exists_of_ne_directory h
  cases parent <;> exact find?_insert_self _ _ _ _

/-- What has been put in is gone once something else has been put in its place. -/
theorem insert_insert (tree : FileTree) (path : Path) (entry other : Entry) :
    (tree.insert path entry).insert path other = tree.insert path other := by
  simp only [insert, List.filter_cons, ne_eq, not_true_eq_false, decide_false, Bool.false_eq_true,
    if_false, List.filter_filter, Bool.and_self]

/-- Something other than a directory that has been taken out is not found any more. -/
theorem find?_erase_same (h : tree.find? path ≠ some .directory) :
    (tree.erase path).find? path = none := by
  obtain ⟨parent, name, rfl⟩ := exists_of_ne_directory h
  cases parent <;> exact find?_erase_self _ _ _

/-- What is put in where no directory is keeps the directories. -/
theorem keeps_insert (h : tree.find? path ≠ some .directory) (entry : Entry) :
    tree.Keeps (tree.insert path entry) where
  workDir := rfl
  directory := fun other hother => by
    have hne : other ≠ path := by
      rintro rfl
      exact h hother
    rw [find?_insert_of_ne tree entry hne, hother]

theorem keeps_erase (h : tree.find? path ≠ some .directory) : tree.Keeps (tree.erase path) where
  workDir := rfl
  directory := fun other hother => by
    have hne : other ≠ path := by
      rintro rfl
      exact h hother
    rw [find?_erase_of_ne tree hne, hother]

/-- A tree stays sound that keeps its directories and gets nothing new but in one of them. -/
theorem Sound.of_keeps (h : tree.Sound) (hkeeps : tree.Keeps new)
    (hnew : ∀ path name entry, new.find? (path ++ [name]) = some entry →
      tree.find? path = some .directory) : new.Sound where
  workDir := by rw [hkeeps.workDir]; exact hkeeps.directory _ h.workDir
  parent := fun path name entry hentry => hkeeps.directory path (hnew path name entry hentry)

/-- Something that is put into a directory, in place of nothing or of no directory. -/
theorem Sound.insert (h : tree.Sound) (hpath : tree.find? path.dropLast = some .directory)
    (hold : tree.find? path ≠ some .directory) (entry : Entry) :
    (tree.insert path entry).Sound := by
  refine h.of_keeps (keeps_insert hold entry) fun parent name there hthere => ?_
  by_cases hne : parent ++ [name] = path
  · rwa [← hne, List.dropLast_concat] at hpath
  · rw [find?_insert_of_ne tree entry hne] at hthere
    exact h.parent _ _ _ hthere

/-- Something other than a directory that is taken out. -/
theorem Sound.erase (h : tree.Sound) (hold : tree.find? path ≠ some .directory) :
    (tree.erase path).Sound := by
  refine h.of_keeps (keeps_erase hold) fun parent name there hthere => ?_
  by_cases hne : parent ++ [name] = path
  · rw [hne, find?_erase_same hold] at hthere
    cases hthere
  · rw [find?_erase_of_ne tree hne] at hthere
    exact h.parent _ _ _ hthere

/-! ### Files -/

/-- Writing a file puts it where the name leads, if no directory is there. -/
theorem write_cases (h : tree.write name text = .ok new) :
    ∃ path, tree.resolve name = .ok path ∧ tree.find? path ≠ some .directory ∧
      new = tree.insert path (.file text (tree.rightsAt path)) := by
  rw [write] at h
  by_cases hslash : name.toList.getLast? = some '/'
  · simp only [hslash, true_or, if_true] at h
    split at h <;> cases h
  · simp only [hslash, false_and, if_false, false_or] at h
    cases hname : tree.resolve name with
    | error e =>
      rw [hname] at h
      cases h
    | ok path =>
      rw [hname] at h
      by_cases hpath : tree.find? path = some .directory
      · simp only [hpath, if_true] at h
        cases h
      · simp only [hpath, if_false] at h
        exact ⟨path, rfl, hpath, (Except.ok.inj h).symm⟩

/-- Behind the writing of a file, its rights are set unless that is refused. -/
theorem protect_insert (hname : tree.resolve name = .ok path)
    (hold : tree.find? path ≠ some .directory) (text : String) (rights : Rights)
    (refusal : Option FileError) :
    (tree.insert path (.file text rights)).protect name refusal =
      match refusal with
      | some reason => .error reason
      | none => .ok (tree.insert path (.file text .ownerOnly)) := by
  rw [protect, (keeps_insert hold _).resolve hname]
  simp only [find?_insert_same hold]
  cases refusal with
  | some reason => rfl
  | none => simp only [insert_insert]

/-- Removing a file takes it out, and it is no directory. -/
theorem remove_cases (h : tree.remove name = .ok new) :
    ∃ path, tree.resolve name = .ok path ∧ tree.find? path ≠ some .directory ∧
      new = tree.erase path := by
  rw [remove] at h
  cases hname : tree.resolve name with
  | error e =>
    rw [hname] at h
    cases h
  | ok path =>
    rw [hname] at h
    cases hpath : tree.find? path with
    | none =>
      simp only [hpath] at h
      cases h
    | some entry =>
      simp only [hpath] at h
      cases entry with
      | directory => cases h
      | file text rights => exact ⟨path, rfl, by simp [hpath], (Except.ok.inj h).symm⟩
      | unreadable reason => exact ⟨path, rfl, by simp [hpath], (Except.ok.inj h).symm⟩

/-- **Writing a file** keeps the directories and a sound tree sound. -/
theorem Sound.write (h : tree.Sound) (hwrite : tree.write name text = .ok new) :
    new.Sound ∧ tree.Keeps new := by
  obtain ⟨path, hpath, hold, rfl⟩ := write_cases hwrite
  exact ⟨h.insert (h.resolve_dropLast hpath) hold _, keeps_insert hold _⟩

end FileTree

end PullReport
