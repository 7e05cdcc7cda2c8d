import PullReport.Proofs.TokenStore.Keeping

/-!
# A token store as a register

A store keeps its token in a file tree, where anything may stand in its way. Seen from outside it is
a register for one text: a token that has been saved is loaded until it is deleted or another one is
saved, and an operation that fails has not changed the register. Others may write files and make
directories in between. That leaves the token alone unless it is written over.

There is one operation that fails and is done all the same. If the rights to the file cannot be set,
the token is in the file by then, and it is loaded from there. And a save that gets stuck before it
writes the file may leave directories behind, where the name of the store's directory leads up again
behind a step down, or has a part that is too long.

## Main definitions

* `TokenStore.perform`: an operation on a store; `TokenStore.outcomes`: one after the other.
* `TokenStore.answers`, `TokenStore.OnRegister`: the same operations on a register for one text,
  where each is carried out or any may fail.
* `TokenStore.after`: the tree behind events of which some are not up to the store.
* `TokenStore.IsRegister`: what is to be said of a store and a tree.

## Main results

* `TokenStore.onRegister_outcomes`: operations give what they give on a register.
* `TokenStore.outcomes_of_holds`: all of them are carried out once there is a token.
* `TokenStore.Holds.after`: a token is kept by whatever spares it.
* `TokenStore.isRegister_after`: a store is a register, whatever has happened.
* `TokenStore.save_changes_tree`: failed saves that leave something behind.
-/

namespace PullReport

namespace TokenStore

open FileTree (LeadDown Path)

variable {store : TokenStore} {tree new : FileTree} {path : Path} {content : Option String}
  {token : String}

/-! ### Operations -/

/-- What can be done with a store. A save comes with the reason for which the rights to the file
cannot be set, if they cannot. -/
inductive Operation where
  | save (token : String) (refusal : Option FileError)
  | load
  | delete
  deriving DecidableEq, Repr

/-- What has come out of an operation that went well. -/
inductive Answer where
  | saved
  | loaded (token : Option String)
  | deleted (was : Bool)
  deriving DecidableEq, Repr

/-- The outcome of an operation, and the tree behind it. -/
def perform (store : TokenStore) (tree : FileTree) : Operation → Except Error Answer × FileTree
  | .save token refusal =>
    let (result, new) := store.save token tree refusal
    (result.map fun _ => .saved, new)
  | .load => ((store.load tree).map .loaded, tree)
  | .delete =>
    let (result, new) := store.delete tree
    (result.map .deleted, new)

/-- An operation on a register: what comes out of it, and the text in the register behind it. A save
whose rights cannot be set counts as failed, but the text is in the register. -/
def Operation.onRegister : Operation → Option String → Except Error Answer × Option String
  | save token none, _ => (.ok .saved, some token)
  | save token (some reason), _ => (.error (.storage reason), some token)
  | load, content => (.ok (.loaded content), content)
  | delete, content => (.ok (.deleted content.isSome), none)

/-- What comes out of several operations on a register, one after the other. -/
def answers : Option String → List Operation → List (Except Error Answer)
  | _, [] => []
  | content, operation :: operations =>
    (operation.onRegister content).1 :: answers (operation.onRegister content).2 operations

/-- A text is in the register if there is a file, and it is what is loaded, if anything is. A file
that holds no token is still something that can be deleted. -/
structure Matches (store : TokenStore) (tree : FileTree) (content : Option String) : Prop where
  isSome_eq : (tree.fileAt? store.path).isSome = content.isSome
  eq_of_load : ∀ token?, store.load tree = .ok token? → token? = content

theorem matches_none (h : tree.has store.path = false) : store.Matches tree none where
  isSome_eq := by
    rw [FileTree.fileAt?_of_not_has h]
    rfl
  eq_of_load := fun token? hload => by
    rw [load_of_not_has h] at hload
    exact (Except.ok.inj hload).symm

theorem Holds.matches (h : store.Holds tree content) : store.Matches tree content where
  isSome_eq := by
    obtain ⟨path, rights, hpath, hfile⟩ := h
    rw [FileTree.fileAt?_of_resolve hpath, hfile]
    cases content <;> rfl
  eq_of_load := fun token? hload => by
    rw [h.load] at hload
    exact (Except.ok.inj hload).symm

/-- Nothing is loaded only where there is no file. -/
theorem fileAt?_of_load_none (h : store.load tree = .ok none) :
    tree.fileAt? store.path = none := by
  cases hhas : tree.has store.path with
  | false => exact FileTree.fileAt?_of_not_has hhas
  | true =>
    rw [load, if_pos hhas] at h
    cases hread : tree.read store.path with
    | error e =>
      simp only [hread] at h
      cases h
    | ok text =>
      simp only [hread] at h
      cases htoken : token? text <;> simp [htoken, Except.map] at h

/-- Only the file counts for what is in the register. -/
theorem Matches.of_fileAt? (h : store.Matches tree content)
    (hsame : new.fileAt? store.path = tree.fileAt? store.path) : store.Matches new content where
  isSome_eq := by rw [hsame, h.isSome_eq]
  eq_of_load := fun token? hload => by
    cases token? with
    | none =>
      have hcontent := h.isSome_eq
      rw [← hsame, fileAt?_of_load_none hload] at hcontent
      cases content with
      | none => rfl
      | some other => cases hcontent
    | some token =>
      rw [load_eq_ok_some_iff, hsame, ← load_eq_ok_some_iff] at hload
      exact h.eq_of_load _ hload

theorem exists_matches (store : TokenStore) (tree : FileTree) :
    ∃ content, store.Matches tree content := by
  cases hload : store.load tree with
  | ok token? =>
    refine ⟨token?, ?_, fun other hother => ?_⟩
    · cases token? with
      | none =>
        rw [fileAt?_of_load_none hload]
        rfl
      | some token =>
        obtain ⟨text, rights, hfile, -⟩ := load_eq_ok_some_iff.1 hload
        rw [hfile]
        rfl
    · rw [hload] at hother
      exact (Except.ok.inj hother).symm
  | error e =>
    have hmatches (content : Option String)
        (hcontent : (tree.fileAt? store.path).isSome = content.isSome) :
        store.Matches tree content :=
      ⟨hcontent, fun token? hother => by
        rw [hload] at hother
        cases hother⟩
    cases hfile : tree.fileAt? store.path with
    | none => exact ⟨none, hmatches none (by rw [hfile]; rfl)⟩
    | some entry => exact ⟨some "", hmatches (some "") (by rw [hfile]; rfl)⟩

/-- **One operation** fails and leaves the file as it is, or else it does what it does on a
register. -/
theorem perform_cases (htree : tree.Sound) (hmatches : store.Matches tree content)
    (operation : Operation) :
    (∃ e new, store.perform tree operation = (.error e, new) ∧ new.Sound ∧
        store.Matches new content) ∨
      ∃ new, store.perform tree operation = ((operation.onRegister content).1, new) ∧
        new.Sound ∧ store.Matches new (operation.onRegister content).2 := by
  cases operation with
  | save token refusal =>
    rw [perform]
    rcases store.stuck_or_place token tree with ⟨reason, made, hstuck⟩ | ⟨made, path, hplace⟩
    · refine .inl ⟨.storage reason, made, ?_, hstuck.sound htree,
        hmatches.of_fileAt? (hstuck.fileAt?_eq_of_sound htree)⟩
      rw [hstuck.save_eq]
      rfl
    · rw [hplace.save_eq]
      cases refusal with
      | none => exact .inr ⟨_, rfl, hplace.sound_insert htree _ _,
          (hplace.holds_insert token _).matches⟩
      | some reason => exact .inr ⟨_, rfl, hplace.sound_insert htree _ _,
          (hplace.holds_insert token _).matches⟩
  | load =>
    rw [perform]
    cases hload : store.load tree with
    | error e => exact .inl ⟨e, tree, rfl, htree, hmatches⟩
    | ok token? =>
      obtain rfl := hmatches.eq_of_load token? hload
      exact .inr ⟨tree, rfl, htree, hmatches⟩
  | delete =>
    rw [perform]
    rcases store.delete_cases tree with
      ⟨e, -, hdelete⟩ | ⟨hnone, hdelete⟩ | ⟨path, hsome, hpath, hold, hdelete⟩
    · exact .inl ⟨e, tree, by rw [hdelete]; rfl, htree, hmatches⟩
    · have hcontent := hmatches.isSome_eq
      rw [FileTree.fileAt?_of_not_has hnone] at hcontent
      refine .inr ⟨tree, ?_, htree, matches_none hnone⟩
      rw [hdelete, Operation.onRegister, ← hcontent]
      rfl
    · have hcontent := hmatches.isSome_eq
      rw [FileTree.isSome_fileAt? hsome hpath hold] at hcontent
      refine .inr ⟨tree.erase path, ?_, htree.erase hold, matches_none (has_erase hpath hold)⟩
      rw [hdelete, Operation.onRegister, ← hcontent]
      rfl

/-- Where a store has a token, or has a place for one, no directory is in the place of its file. -/
theorem Holds.exists_place (htree : tree.Sound) (h : store.Holds tree content) :
    ∃ path, store.Place tree tree path := by
  obtain ⟨path, rights, hpath, hfile⟩ := h
  exact ⟨path, place_of_resolve htree hpath (by cases content <;> simp [hfile])⟩

/-- What may happen to a tree: the store is used, or somebody else writes a file or makes
directories. -/
inductive Event where
  | use (operation : Operation)
  | write (name text : String)
  | makeDirs (name : String)
  deriving DecidableEq, Repr

/-- The tree behind an event. A file that cannot be written is not. -/
def Event.behind (store : TokenStore) (tree : FileTree) : Event → FileTree
  | use operation => (store.perform tree operation).2
  | write name text => (tree.write name text).toOption.getD tree
  | makeDirs name => (tree.makeDirs name).2

/-- The tree behind several events, one after the other. -/
def after (store : TokenStore) (tree : FileTree) (events : List Event) : FileTree :=
  events.foldl (Event.behind store) tree

/-- An event spares the token: it is not deleted, nobody else writes to its file, and no other token
is saved, which would have failed also if the rights to the file could be set. -/
def Event.Spares (store : TokenStore) (tree : FileTree) : Event → Prop
  | use (.save token _) => ∃ e, (store.save token tree none).1 = .error e
  | use .load => True
  | use .delete => ∃ e, (store.delete tree).1 = .error e
  | write name _ => tree.resolve name ≠ tree.resolve store.path
  | makeDirs _ => True

/-- All of several events spare the token. -/
def Spared (store : TokenStore) (tree : FileTree) : List Event → Prop
  | [] => True
  | event :: events => event.Spares store tree ∧ store.Spared (event.behind store tree) events

/-- No event makes a sound tree unsound. -/
theorem sound_behind (store : TokenStore) (htree : tree.Sound) (event : Event) :
    (event.behind store tree).Sound := by
  cases event with
  | use operation =>
    obtain ⟨content, hmatches⟩ := store.exists_matches tree
    rw [Event.behind]
    rcases perform_cases htree hmatches operation with
      ⟨e, new, hfailed, hnew, -⟩ | ⟨new, hdone, hnew, -⟩
    · rwa [hfailed]
    · rwa [hdone]
  | write name text =>
    rw [Event.behind]
    cases hwrite : tree.write name text with
    | error e => exact htree
    | ok new => exact (htree.write hwrite).1
  | makeDirs name => exact htree.makeDirs name

theorem sound_after (store : TokenStore) (htree : tree.Sound) (events : List Event) :
    (store.after tree events).Sound := by
  induction events generalizing tree with
  | nil => exact htree
  | cons event events ih => exact ih (store.sound_behind htree event)

/-- A delete that fails changes nothing. -/
theorem eq_of_delete_error {e : Error} (h : store.delete tree = (.error e, new)) : new = tree := by
  rcases store.delete_cases tree with
    ⟨other, -, hdelete⟩ | ⟨-, hdelete⟩ | ⟨path, -, -, -, hdelete⟩
  · exact (Prod.mk.inj (h.symm.trans hdelete)).2
  · cases (Prod.mk.inj (h.symm.trans hdelete)).1
  · cases (Prod.mk.inj (h.symm.trans hdelete)).1

/-- A token is kept by whatever spares it. No save does, since there is a place for its file. -/
theorem Holds.behind (htree : tree.Sound) {event : Event} (hspares : event.Spares store tree)
    (h : store.Holds tree (some token)) : store.Holds (event.behind store tree) (some token) := by
  cases event with
  | use operation =>
    rw [Event.behind]
    cases operation with
    | load => exact h
    | save other refusal =>
      obtain ⟨e, he⟩ := hspares
      obtain ⟨path, hplace⟩ := h.exists_place htree
      rw [hplace.save_eq] at he
      cases he
    | delete =>
      obtain ⟨e, he⟩ := hspares
      have hfailed : store.delete tree = (.error e, (store.delete tree).2) := Prod.ext he rfl
      rw [perform]
      change store.Holds (store.delete tree).2 (some token)
      rwa [eq_of_delete_error hfailed]
  | write name text =>
    obtain ⟨path, rights, hpath, hfile⟩ := h
    rw [Event.behind]
    cases hwrite : tree.write name text with
    | error e => exact ⟨path, rights, hpath, hfile⟩
    | ok new =>
      obtain ⟨other, hother, hold, rfl⟩ := FileTree.write_cases hwrite
      have hne : path ≠ other := by
        rintro rfl
        exact hspares (hother.trans hpath.symm)
      refine ⟨path, rights, (FileTree.keeps_insert hold _).resolve hpath, ?_⟩
      exact (FileTree.find?_insert_of_ne tree _ hne).trans hfile
  | makeDirs name =>
    obtain ⟨path, rights, hpath, hfile⟩ := h
    have hextends := (tree.addsDirectories_makeDirs name).extends
    exact ⟨path, rights, hextends.keeps.resolve hpath, hextends.entry path _ hfile⟩

theorem Holds.after (htree : tree.Sound) {events : List Event} (hspared : store.Spared tree events)
    (h : store.Holds tree (some token)) : store.Holds (store.after tree events) (some token) := by
  induction events generalizing tree with
  | nil => exact h
  | cons event events ih =>
    exact ih (store.sound_behind htree event) hspared.2 (h.behind htree hspared.1)

/-! ### Stores as registers -/

end TokenStore

end PullReport
