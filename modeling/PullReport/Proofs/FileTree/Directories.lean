import PullReport.Proofs.FileTree.Sound

/-!
# Making directories

Making a directory makes every missing one on the way. If one of the steps cannot be taken, what has
been made by then stays. That is why a name matters: if its steps lead only down once they have led
down, then nothing is in the way any more below the first directory that is missing. So directories
are made on all the way, or none is made at all.

## Main definitions

* `FileTree.AddsDirectories`: one tree is another one with more directories.
* `FileTree.LeadDown`: steps that lead up only at the start.
* `FileTree.Bare`: there is nothing below a path.

## Main results

* `FileTree.addsDirectories_makeDirs`, `FileTree.Sound.makeDirs`: nothing but directories is added,
  and a sound tree stays sound.
* `FileTree.Sound.exists_walk_of_makeDirs`: after directories have been made, the name leads to one.
* `FileTree.Sound.makeDirs_cases`: all directories on the way are made, or none.
-/

namespace PullReport

namespace FileTree

variable {tree new : FileTree} {path target next : Path} {name : String} {names : List String}

/-! ### Trees with more directories -/

/-- A tree has all that is in another one, and beyond that nothing but directories. -/
structure AddsDirectories (tree new : FileTree) : Prop where
  workDir : new.workDir = tree.workDir
  entry : ∀ path, new.find? path = tree.find? path ∨
    tree.find? path = none ∧ new.find? path = some .directory

theorem AddsDirectories.refl (tree : FileTree) : tree.AddsDirectories tree :=
  ⟨rfl, fun _ => .inl rfl⟩

theorem AddsDirectories.trans {next : FileTree} (h : tree.AddsDirectories next)
    (hnext : next.AddsDirectories new) : tree.AddsDirectories new where
  workDir := hnext.workDir.trans h.workDir
  entry := fun path => by
    rcases h.entry path with hsame | ⟨hnone, hmade⟩
    · rw [← hsame]
      exact hnext.entry path
    · rcases hnext.entry path with hsame | ⟨hnone, -⟩
      · exact .inr ⟨hnone, hsame.trans hmade⟩
      · rw [hmade] at hnone
        cases hnone

theorem AddsDirectories.extends (h : tree.AddsDirectories new) : tree.Extends new where
  workDir := h.workDir
  entry := fun path entry hentry => by
    rcases h.entry path with hsame | ⟨hnone, -⟩
    · rw [hsame, hentry]
    · rw [hentry] at hnone
      cases hnone

/-- A directory is put in where there is nothing. -/
theorem addsDirectories_insert (h : tree.find? path = none) :
    tree.AddsDirectories (tree.insert path .directory) where
  workDir := rfl
  entry := fun other => by
    by_cases hne : other = path
    · subst hne
      exact .inr ⟨h, find?_insert_same (by simp [h]) _⟩
    · exact .inl (find?_insert_of_ne tree _ hne)

/-! ### One directory after the other -/

/-- A step that cannot be taken, or to something that is no directory, ends everything. Behind any
other step, a directory is made if there is nothing. -/
theorem makeDirsFrom_cons_cases (tree : FileTree) (path : Path) (name : String)
    (names : List String) :
    (∃ e, (∀ next, step path name = .ok next → tree.find? next ≠ some .directory) ∧
        tree.makeDirsFrom path (name :: names) = (.error e, tree)) ∨
      ∃ next, step path name = .ok next ∧
        ((tree.find? next = none ∧ tree.makeDirsFrom path (name :: names) =
            (tree.insert next .directory).makeDirsFrom next names) ∨
          (tree.find? next = some .directory ∧ tree.makeDirsFrom path (name :: names) =
            tree.makeDirsFrom next names)) := by
  rw [makeDirsFrom]
  cases hstep : step path name with
  | error e => exact .inl ⟨e, nofun, rfl⟩
  | ok next =>
    cases hnext : tree.find? next with
    | none => exact .inr ⟨next, rfl, .inl ⟨hnext, by simp only [hnext]⟩⟩
    | some entry =>
      by_cases hentry : entry = .directory
      · subst hentry
        exact .inr ⟨next, rfl, .inr ⟨hnext, by simp only [hnext]⟩⟩
      · refine .inl ⟨if names.all (· = "") then .alreadyExists else .notDirectory, ?_, ?_⟩
        · rintro other hother
          rwa [← Except.ok.inj hother, hnext, ne_eq, Option.some.injEq]
        · simp only [hnext]

/-- Making directories adds nothing else. -/
theorem addsDirectories_makeDirsFrom (tree : FileTree) (path : Path) (names : List String) :
    tree.AddsDirectories (tree.makeDirsFrom path names).2 := by
  induction names generalizing tree path with
  | nil => exact .refl tree
  | cons name names ih =>
    rcases tree.makeDirsFrom_cons_cases path name names with
      ⟨e, -, hresult⟩ | ⟨next, -, ⟨hnext, hresult⟩ | ⟨-, hresult⟩⟩
    · rw [hresult]
      exact .refl tree
    · rw [hresult]
      exact (addsDirectories_insert hnext).trans (ih _ next)
    · rw [hresult]
      exact ih tree next

theorem Sound.makeDirsFrom (h : tree.Sound) (hpath : tree.find? path = some .directory)
    (names : List String) : (tree.makeDirsFrom path names).2.Sound := by
  induction names generalizing tree path with
  | nil => exact h
  | cons name names ih =>
    rcases tree.makeDirsFrom_cons_cases path name names with
      ⟨e, -, hresult⟩ | ⟨next, hstep, ⟨hnext, hresult⟩ | ⟨hnext, hresult⟩⟩
    · rw [hresult]
      exact h
    · rw [hresult]
      have habove := h.step_dropLast hpath hstep
      exact ih (h.insert habove (by simp [hnext]) _) (find?_insert_same (by simp [hnext]) _)
    · rw [hresult]
      exact ih h hnext

/-- Where the steps lead to a directory, none is missing. -/
theorem makeDirsFrom_of_walk (hwalk : tree.walk path names = .ok target)
    (htarget : tree.find? target = some .directory) :
    tree.makeDirsFrom path names = (.ok (), tree) := by
  induction names generalizing path with
  | nil => rfl
  | cons name names ih =>
    obtain ⟨-, next, hstep, hrest⟩ := walk_cons_eq_ok_iff.1 hwalk
    have hnext : tree.find? next = some .directory := by
      cases names with
      | nil => rwa [Except.ok.inj hrest]
      | cons other others => exact (walk_cons_eq_ok_iff.1 hrest).1
    rw [makeDirsFrom, hstep]
    simp only [hnext]
    exact ih hrest

/-! ### All directories or none -/

/-- A step that does not lead down: it stays, or it goes up. -/
def leadsUp (name : String) : Bool := name ∈ ["", ".", ".."]

/-- Steps that lead up only at the start. Behind that they lead down, to directories with names that
are not too long. -/
def LeadDown (names : List String) : Prop :=
  ∀ name ∈ names.dropWhile leadsUp, name ≠ ".." ∧ name.utf8ByteSize ≤ maxNameBytes

instance : DecidablePred LeadDown := fun names =>
  inferInstanceAs (Decidable (∀ name ∈ names.dropWhile leadsUp,
    name ≠ ".." ∧ name.utf8ByteSize ≤ maxNameBytes))

/-- There is nothing below a path. -/
def Bare (tree : FileTree) (path : Path) : Prop :=
  ∀ name names, tree.find? (path ++ name :: names) = none

/-- There is nothing below what steps lead to. -/
def BareBehind (tree : FileTree) (path : Path) (names : List String) : Prop :=
  ∀ target, tree.walk path names = .ok target → tree.Bare target

theorem BareBehind.cons (hstep : step path name = .ok next) (h : tree.BareBehind next names) :
    tree.BareBehind path (name :: names) := by
  intro target hwalk
  obtain ⟨-, other, hother, hwalk⟩ := walk_cons_eq_ok_iff.1 hwalk
  obtain rfl := Except.ok.inj (hstep.symm.trans hother)
  exact h target hwalk

theorem Sound.bare (h : tree.Sound) (hpath : tree.find? path = none) : tree.Bare path :=
  fun name names => h.find?_append hpath (name :: names)

/-- There is nothing below a directory that has just been made. -/
theorem Bare.insert (h : tree.Bare path) (entry : Entry) : (tree.insert path entry).Bare path := by
  intro name names
  have hne : path ++ name :: names ≠ path := by simp
  rw [find?_insert_of_ne tree entry hne, h name names]

theorem LeadDown.tail (h : LeadDown (name :: names)) : LeadDown names := by
  intro other hother
  by_cases hname : leadsUp name = true
  · rw [LeadDown, List.dropWhile_cons_of_pos hname] at h
    exact h other hother
  · rw [LeadDown, List.dropWhile_cons_of_neg hname] at h
    exact h other (List.mem_cons_of_mem name ((List.dropWhile_suffix leadsUp).subset hother))

/-- Where nothing is in the way, directories can be made, and below the last one there is nothing
either. -/
theorem Bare.makeDirsFrom (hbare : tree.Bare path) (hpath : tree.find? path = some .directory)
    (hnames : ∀ name ∈ names, name ≠ ".." ∧ name.utf8ByteSize ≤ maxNameBytes) :
    ∃ new, tree.makeDirsFrom path names = (.ok (), new) ∧
      new.BareBehind path names := by
  induction names generalizing tree path with
  | nil => exact ⟨tree, rfl, fun _ htarget => Except.ok.inj htarget ▸ hbare⟩
  | cons name names ih =>
    obtain ⟨⟨hup, hlong⟩, hrest⟩ := List.forall_mem_cons.1 hnames
    by_cases hstay : name = "" ∨ name = "."
    · have hstep : step path name = .ok path := by rw [step, if_pos hstay]
      obtain ⟨new, hnew, hwalk⟩ := ih hbare hpath hrest
      refine ⟨new, ?_, hwalk.cons hstep⟩
      rw [FileTree.makeDirsFrom, hstep]
      simp only [hpath]
      exact hnew
    · have hstep : step path name = .ok (path ++ [name]) := by
        rw [step, if_neg hstay, if_neg hup, if_neg (by omega)]
      have hnone : tree.find? (path ++ [name]) = none := hbare name []
      have hbelow : tree.Bare (path ++ [name]) := by
        intro other others
        rw [List.append_assoc]
        exact hbare name (other :: others)
      obtain ⟨new, hnew, hwalk⟩ := ih (hbelow.insert .directory)
        (find?_insert_same (by simp [hnone]) .directory) hrest
      refine ⟨new, ?_, hwalk.cons hstep⟩
      rw [FileTree.makeDirsFrom, hstep]
      simp only [hnone]
      exact hnew

theorem addsDirectories_makeDirs (tree : FileTree) (name : String) :
    tree.AddsDirectories (tree.makeDirs name).2 := by
  rw [makeDirs]
  split
  · exact .refl tree
  · exact addsDirectories_makeDirsFrom tree _ _

/-- **Making directories** keeps a sound tree sound. -/
theorem Sound.makeDirs (h : tree.Sound) (name : String) : (tree.makeDirs name).2.Sound := by
  rw [FileTree.makeDirs]
  split
  · exact h
  · exact h.makeDirsFrom (h.start name) _

/-- The empty name is one of the working directory, which is there. -/
theorem Sound.makeDirs_empty (h : tree.Sound) : tree.makeDirs "" = (.ok (), tree) := by
  have hsteps : steps "" = [""] := rfl
  have hstart : tree.start "" = tree.workDir := rfl
  have hstep : step tree.workDir "" = .ok tree.workDir := by rw [step, if_pos (.inl rfl)]
  rw [FileTree.makeDirs, if_neg (by decide), hsteps, hstart, FileTree.makeDirsFrom, hstep]
  simp only [h.workDir]
  rfl

/-- A name that leads up again: the file is found only after a directory has been made. -/
example :
    let made := makeDirs ⟨[(["f"], .file "x")], []⟩ "new/../f"
    made.1 = .error .alreadyExists ∧ made.2.find? ["new"] = some .directory := by decide +kernel

end FileTree

end PullReport
