/-!
# File trees

Texts in files, files in directories, and the names by which a program finds them. A tree is a table
from paths to entries. A path leads from the root down and is unique for what it leads to; a name is
what a user writes, relative to the working directory or absolute, and many names may lead to one
path.

Going through a name one needs a directory at every step. So a name that goes through a missing
directory leads nowhere, even where the next step goes back up.

## Main definitions

* `FileTree`: entries by path, and the working directory.
* `FileTree.resolve`: the path that a name leads to.
* `FileTree.has`, `FileTree.read`, `FileTree.write`, `FileTree.protect`, `FileTree.remove`,
  `FileTree.makeDirs`: what can be done with a name.
* `FileError`: why it cannot be done; `FileError.message`: the system's words for that.
-/

namespace PullReport

/-- Why something cannot be done with a name, or why there is no name to do it with. -/
inductive FileError where
  | notFound
  | notPermitted
  | notDirectory
  | isDirectory
  | alreadyExists
  | nameTooLong
  | invalidName
  | noConfigDir
  | unreadable (reason : String)
  deriving DecidableEq, Repr

/-- The words of the operating system for an error, with its number where it has one. -/
def FileError.message : FileError → String
  | notFound => "No such file or directory (os error 2)"
  | notPermitted => "Operation not permitted (os error 1)"
  | notDirectory => "Not a directory (os error 20)"
  | isDirectory => "Is a directory (os error 21)"
  | alreadyExists => "File exists (os error 17)"
  | nameTooLong => "File name too long (os error 36)"
  | invalidName => "file name contained an unexpected NUL byte"
  | noConfigDir => "no configuration directory on this platform"
  | unreadable reason => reason

/-- Who may read and write a file: whoever the system lets by default, or nobody but its owner. -/
inductive FileTree.Rights where
  | common
  | ownerOnly
  deriving DecidableEq, Repr

/-- What stands at a path: a text file, a directory, or something that cannot be read as a text. -/
inductive FileTree.Entry where
  | file (text : String) (rights : FileTree.Rights := .common)
  | directory
  | unreadable (reason : String)
  deriving DecidableEq, Repr

/-- A path is the list of names from the root down. -/
abbrev FileTree.Path := List String

/-- A file tree: what stands at which path, and the working directory. Of two entries for one path
the first counts. -/
structure FileTree where
  entries : List (FileTree.Path × FileTree.Entry)
  workDir : FileTree.Path
  deriving Repr

namespace FileTree

/-! ### Paths -/

/-- What stands at a path. The root is a directory. -/
def find? (tree : FileTree) : Path → Option Entry
  | [] => some .directory
  | path => tree.entries.lookup path

/-- The tree with an entry at a path, in place of what stood there. -/
def insert (tree : FileTree) (path : Path) (entry : Entry) : FileTree :=
  { tree with entries := (path, entry) :: tree.entries.filter (·.1 ≠ path) }

/-- The tree with nothing at a path. -/
def erase (tree : FileTree) (path : Path) : FileTree :=
  { tree with entries := tree.entries.filter (·.1 ≠ path) }

theorem find?_insert_self (tree : FileTree) (name : String) (parent : Path) (entry : Entry) :
    (tree.insert (name :: parent) entry).find? (name :: parent) = some entry := by
  simp [insert, find?]

theorem lookup_filter_ne {path other : Path} (entries : List (Path × Entry)) (h : other ≠ path) :
    (entries.filter (·.1 ≠ path)).lookup other = entries.lookup other := by
  induction entries with
  | nil => rfl
  | cons head tail ih =>
    obtain ⟨p, e⟩ := head
    by_cases hp : p = path
    · subst hp
      rw [List.filter_cons_of_neg (by simp), ih, List.lookup_cons, beq_eq_false_iff_ne.2 h]
    · rw [List.filter_cons_of_pos (by simpa using hp), List.lookup_cons, List.lookup_cons, ih]

theorem find?_insert_of_ne (tree : FileTree) {path other : Path} (entry : Entry)
    (h : other ≠ path) : (tree.insert path entry).find? other = tree.find? other := by
  cases other with
  | nil => rfl
  | cons name parent =>
    simp only [insert, find?, List.lookup_cons, beq_eq_false_iff_ne.2 h]
    exact lookup_filter_ne _ h

theorem find?_erase_of_ne (tree : FileTree) {path other : Path} (h : other ≠ path) :
    (tree.erase path).find? other = tree.find? other := by
  cases other with
  | nil => rfl
  | cons name parent => exact lookup_filter_ne _ h

theorem find?_erase_self (tree : FileTree) (name : String) (parent : Path) :
    (tree.erase (name :: parent)).find? (name :: parent) = none := by
  simp only [erase, find?, List.lookup_eq_none_iff]
  intro p hp
  simp only [List.mem_filter, decide_eq_true_eq] at hp
  simpa using fun h => hp.2 h.symm

/-! ### Names -/

/-- The longest name that a directory takes, in bytes. -/
def maxNameBytes : Nat := 255

/-- The path behind one step of a name, taken in the directory at `path`. An empty step and a point
stay there, and two points go up. Whether there is anything at the new path does not matter yet. -/
def step (path : Path) (name : String) : Except FileError Path :=
  if name = "" ∨ name = "." then .ok path
  else if name = ".." then .ok path.dropLast
  else if maxNameBytes < name.utf8ByteSize then .error .nameTooLong
  else .ok (path ++ [name])

/-- The path behind several steps. Every step has to start in a directory. -/
def walk (tree : FileTree) (path : Path) : List String → Except FileError Path
  | [] => .ok path
  | name :: names =>
    match tree.find? path with
    | none => .error .notFound
    | some .directory =>
      match step path name with
      | .error e => .error e
      | .ok next => tree.walk next names
    | some _ => .error .notDirectory

/-- The steps of a name. -/
def steps (name : String) : List String :=
  (name.toList.splitOn '/').map String.ofList

/-- Where the steps of a name start: at the root if it starts with a slash, and in the working
directory if it does not. -/
def start (tree : FileTree) (name : String) : Path :=
  if name.toList.head? = some '/' then [] else tree.workDir

/-- The paths that the steps of a name go through, as far as the steps can be taken. -/
def passedBy (path : Path) : List String → List Path
  | [] => [path]
  | name :: names =>
    match step path name with
    | .error _ => [path]
    | .ok next => path :: passedBy next names

/-- The path that a name leads to. -/
def resolve (tree : FileTree) (name : String) : Except FileError Path :=
  if name.toList.contains '\x00' then .error .invalidName
  else if name = "" then .error .notFound
  else tree.walk (tree.start name) (steps name)

/-- Whether there is anything under a name. -/
def has (tree : FileTree) (name : String) : Bool :=
  match tree.resolve name with
  | .ok path => (tree.find? path).isSome
  | .error _ => false

/-- The text of the file of some name. -/
def read (tree : FileTree) (name : String) : Except FileError String :=
  match tree.resolve name with
  | .error e => .error e
  | .ok path =>
    match tree.find? path with
    | none => .error .notFound
    | some (.file text _) => .ok text
    | some .directory => .error .isDirectory
    | some (.unreadable reason) => .error (.unreadable reason)

/-- The rights to the file at a path once it has been written: those that it had, if it had any. -/
def rightsAt (tree : FileTree) (path : Path) : Rights :=
  match tree.find? path with
  | some (.file _ rights) => rights
  | _ => .common

/-- The tree behind writing a file. The file may be new, but its directory must be there. A slash
at the end of the name asks for a directory, whatever is there. -/
def write (tree : FileTree) (name text : String) : Except FileError FileTree :=
  let trimmed := (name.toList.reverse.dropWhile (· = '/')).reverse
  let endsInSlash := name.toList.getLast? = some '/'
  match tree.resolve (if endsInSlash ∧ trimmed ≠ [] then String.ofList trimmed else name) with
  | .error e => .error e
  | .ok path =>
    if endsInSlash ∨ tree.find? path = some .directory then .error .isDirectory
    else .ok (tree.insert path (.file text (tree.rightsAt path)))

/-- The tree behind taking a file away from everybody but its owner. Whether that is granted is up
to the system, which looks at more than names and texts: at who owns the file, say, or at whether
the disk keeps rights at all. So the reason for which it is refused is given here, if it is. -/
def protect (tree : FileTree) (name : String) (refusal : Option FileError) :
    Except FileError FileTree :=
  match tree.resolve name with
  | .error e => .error e
  | .ok path =>
    match tree.find? path, refusal with
    | none, _ => .error .notFound
    | some _, some reason => .error reason
    | some (.file text _), none => .ok (tree.insert path (.file text .ownerOnly))
    | some _, none => .ok tree

/-- The tree behind removing a file. -/
def remove (tree : FileTree) (name : String) : Except FileError FileTree :=
  match tree.resolve name with
  | .error e => .error e
  | .ok path =>
    match tree.find? path with
    | none => .error .notFound
    | some .directory => .error .isDirectory
    | some _ => .ok (tree.erase path)

/-- The tree behind making every directory that is missing on the way, one after the other. What
has been made stays, also if it turns out later that there is no way. -/
def makeDirsFrom (tree : FileTree) (path : Path) : List String → Except FileError Unit × FileTree
  | [] => (.ok (), tree)
  | name :: names =>
    match step path name with
    | .error e => (.error e, tree)
    | .ok next =>
      match tree.find? next with
      | none => (tree.insert next .directory).makeDirsFrom next names
      | some .directory => tree.makeDirsFrom next names
      | some _ =>
        (.error (if names.all (· = "") then .alreadyExists else .notDirectory), tree)

/-- The tree behind making a directory and all directories above it. -/
def makeDirs (tree : FileTree) (name : String) : Except FileError Unit × FileTree :=
  if name.toList.contains '\x00' then (.error .invalidName, tree)
  else tree.makeDirsFrom (tree.start name) (steps name)

end FileTree

end PullReport
