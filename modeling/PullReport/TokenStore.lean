import PullReport.FileTree
import PullReport.Text.Base64
import PullReport.Text.Blank
import PullReport.Text.Percent

/-!
# The stored token

A login leaves its token in a file of its own, in base64, which keeps the token from being read at a
glance. A store is the directory of that file. It holds at most one token.

## Main definitions

* `TokenStore`: a store, and `TokenStore.path`: the name of its file.
* `TokenStore.save`, `TokenStore.load`, `TokenStore.delete`: what can be done with it.
* `TokenStore.Error`: why that may fail.
-/

namespace PullReport

/-- A store for one token, given by the name of its directory. -/
structure TokenStore where
  directory : String
  deriving DecidableEq, Repr

namespace TokenStore

/-- Why a store cannot be used, or why its file holds no token. -/
inductive Error where
  | storage (error : FileError)
  | notBase64
  | notText
  deriving DecidableEq, Repr

/-- The error in words. -/
def Error.message : Error → String
  | storage error => "Token storage error: " ++ error.message
  | notBase64 => "Stored token is not valid base64"
  | notText => "Stored token is not valid UTF-8"

/-- The name of the token's file. -/
def path (store : TokenStore) : String := store.directory ++ "/token"

/-- A token as it is written into the file. -/
def written (token : String) : String := String.ofList (Base64.encode (Text.utf8 token.toList))

/-- The token that the text of a file holds. Blanks at its ends do not count. -/
def token? (text : String) : Except Error String :=
  match Base64.decode? (Text.trim text.toList) with
  | none => .error .notBase64
  | some bytes =>
    match String.fromUTF8? bytes.toByteArray with
    | none => .error .notText
    | some token => .ok token

/-- The outcome of saving a token, and the tree behind it. Directories are made as needed. Behind
the writing the file is taken away from everybody but its owner. If that is refused, the save has
failed, and yet the token is in the file. -/
def save (store : TokenStore) (token : String) (tree : FileTree)
    (refusal : Option FileError := none) : Except Error Unit × FileTree :=
  match tree.makeDirs store.directory with
  | (.error e, tree) => (.error (.storage e), tree)
  | (.ok _, tree) =>
    match tree.write store.path (written token) with
    | .error e => (.error (.storage e), tree)
    | .ok tree =>
      match tree.protect store.path refusal with
      | .error e => (.error (.storage e), tree)
      | .ok tree => (.ok (), tree)

/-- The stored token, if there is one. -/
def load (store : TokenStore) (tree : FileTree) : Except Error (Option String) :=
  if tree.has store.path then
    match tree.read store.path with
    | .error e => .error (.storage e)
    | .ok text => (token? text).map some
  else .ok none

/-- The outcome of deleting the token, which is whether there was one, and the tree behind it. -/
def delete (store : TokenStore) (tree : FileTree) : Except Error Bool × FileTree :=
  if tree.has store.path then
    match tree.remove store.path with
    | .error e => (.error (.storage e), tree)
    | .ok tree => (.ok true, tree)
  else (.ok false, tree)

end TokenStore

end PullReport
