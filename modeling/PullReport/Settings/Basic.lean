import PullReport.Analysis.FileFilter
import PullReport.FileTree
import PullReport.Settings.Environment
import PullReport.Text.Quoted
import PullReport.Toml.Document

/-!
# Settings

What the configuration file says. All of it may be left out, and so may the file.

The file has two records, and each is written as a TOML table or as an array of its fields. Unknown
keys mean nothing.

## Main definitions

* `Settings`: the settings.
* `Settings.ofEntries?`: the settings in a TOML document.
* `Settings.load`: the settings in the configuration file.
* `Settings.Error`: what can be wrong with settings and with what is resolved from them;
  `Settings.Error.message`.
-/

namespace PullReport

/-- The settings: a token, the address of the API, the identity of this program at logins, and which
files are analyzed. -/
structure Settings where
  token : Option String := none
  apiUrl : Option String := none
  clientId : Option String := none
  filter : FileFilter := {}
  deriving DecidableEq, Repr

namespace Settings

/-- What can be wrong with a configuration: a file cannot be read, the configuration file or the
event is malformed, variables are missing, or one has a malformed value. -/
inductive Error where
  | unreadable (error : FileError)
  | malformed
  | malformedEvent
  | missing (which : List Variable)
  | invalid (which : Variable) (value : String)
  deriving DecidableEq, Repr

/-- The error in words. All missing variables are named at once. -/
def Error.message : Error → String
  | unreadable error => "Failed to read configuration: " ++ error.message
  | malformed => "Failed to parse config file"
  | malformedEvent => "Failed to parse event payload"
  | missing which =>
    "Missing required configuration: " ++ ", ".intercalate (which.map Variable.name)
  | invalid which value =>
    "Invalid value for " ++ which.name ++ ": " ++ Text.quoted value

/-! ### The configuration file -/

/-- The fields of a record in a document, or none of them if the document does not have it. -/
def section? (entries : Toml.Entries) (key : String) (names : List String) :
    Option (String → Field Toml) :=
  match entries.lookup key with
  | none => some fun _ => .absent
  | some value => value.record? names

/-- The settings in a TOML document. -/
def ofEntries? (entries : Toml.Entries) : Option Settings := do
  let github ← section? entries "github" ["token", "api_url", "client_id"]
  let token ← (github "token").optional? Toml.text?
  let apiUrl ← (github "api_url").optional? Toml.text?
  let clientId ← (github "client_id").optional? Toml.text?
  let analysis ← section? entries "analysis" ["source_extensions", "manifest_extensions"]
  let default : FileFilter := {}
  let sources ← (analysis "source_extensions").default? default.sourceExtensions Toml.texts?
  let manifests ← (analysis "manifest_extensions").default? default.manifestExtensions Toml.texts?
  return ⟨token, apiUrl, clientId, ⟨sources, manifests⟩⟩

/-- The settings that the text of a configuration file holds. -/
def read? (text : String) : Option Settings := do ofEntries? (← Toml.read? text)

/-- The name of the configuration file, which is in the working directory. -/
def fileName : String := ".pr-helper.toml"

/-- The settings in the configuration file, or the default settings where there is none. -/
def load (tree : FileTree) : Except Error Settings :=
  if tree.has fileName then
    match tree.read fileName with
    | .error e => .error (.unreadable e)
    | .ok text =>
      match read? text with
      | none => .error .malformed
      | some settings => .ok settings
  else .ok {}

end Settings

end PullReport
