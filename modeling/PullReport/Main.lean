import PullReport.Program.CommandLine

/-!
# The program

The outside of the program: it takes a picture of everything that the command may read or change,
runs the command on that picture, and carries out what has changed. There is no connection to any
server, so every request fails as one to a server that cannot be reached.

## Main definitions

* `Outside.world`: the picture.
* `Outside.carryOut`: the changes.
* `main`: the program.
-/

namespace PullReport

namespace Outside

/-- An absolute name for a path. -/
def nameOf (path : FileTree.Path) : String := "/" ++ "/".intercalate path

/-- What stands at a path. -/
def look (path : FileTree.Path) : IO (Option FileTree.Entry) := do
  try
    return some (.file (← IO.FS.readFile (nameOf path)))
  catch
    | .noFileOrDirectory _ _ _ => return none
    | .inappropriateType _ code _ => return if code = 21 then some .directory else none
    | .permissionDenied _ _ _ => return some (.unreadable "Permission denied (os error 13)")
    | .userError _ => return some (.unreadable "stream did not contain valid UTF-8")
    | error => return some (.unreadable (toString error))

/-- The directory for the settings of the user, if there is one. -/
def configDir : IO (Option String) := do
  match ← IO.getEnv "XDG_CONFIG_HOME" with
  | some dir => if dir.startsWith "/" then return some dir else fallback
  | none => fallback
where
  fallback : IO (Option String) := do
    let home := (← IO.getEnv "HOME").filter (· ≠ "")
    return home.map (· ++ "/.config")

/-- Whether what is printed may be coloured: on a terminal, unless the environment says
otherwise. -/
def colour : IO Bool := do
  let isSet (name : String) : IO Bool := return (← IO.getEnv name).any (· ≠ "0")
  if ← isSet "CLICOLOR_FORCE" then return true
  if ← isSet "NO_COLOR" then return false
  if (← IO.getEnv "CLICOLOR") = some "0" then return false
  (← IO.getStdout).isTty

/-- The values of the variables. -/
def environment : IO Environment := do
  let all : List Variable := [.token, .repository, .number, .eventPath, .clientId]
  let values ← all.mapM fun which => return (which, ← IO.getEnv which.name)
  return fun which => (values.lookup which).join

/-- The world as it is before a command. -/
def world (arguments : List String) : IO World := do
  let environment ← environment
  let configDir ← configDir
  let here := (← IO.currentDir).toString
  let workDir := (FileTree.steps here).filter (· ≠ "")
  let named := match Arguments.parse arguments with
    | .ok command => command.fileNames
    | .error _ => []
  let empty : FileTree := ⟨[], workDir⟩
  let world : World := {
    files := empty, environment := environment, configDir := configDir
    exchange := ⟨[.unreachable], []⟩, colour := ← colour }
  let names := [here, Settings.fileName] ++ (world.tokenStore.map TokenStore.path).toList ++ named
    ++ (environment .eventPath).toList
  let paths := names.flatMap fun name =>
    FileTree.passedBy (empty.start name) (FileTree.steps name)
  let entries ← paths.eraseDups.filterMapM fun path =>
    return (← look path).map fun entry => (path, entry)
  return { world with files := ⟨entries, workDir⟩ }

/-- Takes a file away from everybody but its owner, and gives the reason if that is refused. -/
def protect (path : FileTree.Path) : IO (Option FileError) := do
  try
    IO.setAccessRights (nameOf path) ⟨⟨true, true, false⟩, ⟨false, false, false⟩,
      ⟨false, false, false⟩⟩
    return none
  catch
    | .permissionDenied _ _ _ => return some .notPermitted
    | error => return some (.unreadable (toString error))

/-- Makes the files what they are in the world behind a command, and gives the reason if the rights
to one of them cannot be set. -/
def carryOut (before after : World) : IO (Option FileError) := do
  let mut refusal := none
  for (path, entry) in after.files.entries.reverse do
    if before.files.find? path ≠ some entry then
      match entry with
      | .directory => IO.FS.createDirAll (nameOf path)
      | .unreadable _ => pure ()
      | .file text rights =>
        IO.FS.writeFile (nameOf path) text
        if rights = .ownerOnly then refusal := refusal <|> (← protect path)
  for (path, _) in before.files.entries do
    if (after.files.find? path).isNone then IO.FS.removeFile (nameOf path)
  return refusal

end Outside

end PullReport

/-- Runs the command that the arguments stand for, and gives its exit code. That the rights to a
file cannot be set comes out only when it is tried, and then the command goes as it does in such a
world. -/
def main (arguments : List String) : IO UInt32 := do
  let before ← PullReport.Outside.world arguments
  let refusal ← PullReport.Outside.carryOut before (PullReport.CommandLine.run arguments before).2
  let (ending, after) := PullReport.CommandLine.run arguments { before with refusal := refusal }
  IO.print after.printed
  IO.eprint ending.complaint
  return UInt32.ofNat ending.exitCode
