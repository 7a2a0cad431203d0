import Switchboard.CommandLine.Run
/-!
The program. It tells a run what the run needs to know of the world: its variables, its settings
file and whether it may keep a log. No line leaves this process, so that every endpoint refuses to
be connected to. The argument parser says nothing by itself.
-/

set_option autoImplicit false
set_option relaxedAutoImplicit false

namespace Switchboard.CommandLine

private def variableNames : List String :=
  ["TOPICBUS_LOG_FILE", "TOPICBUS_CONFIG_DIR", "TOPICBUS_ENDPOINT", "TOPICBUS_CONNECT_TIMEOUT",
    "TOPICBUS_ACCEPT_MISSING_VALUE", "XDG_CONFIG_HOME", "HOME"]

private def readVariables : IO (List (String × String)) :=
  variableNames.filterMapM fun name => do
    match ← IO.getEnv name with
    | some value => pure (some (name, value))
    | none => pure none

/-- Keeps a file in storage, along with the folders above it. -/
private def keepFile (storage : Storage) (path : String) (octets : List UInt8) : Storage :=
  let above := String.intercalate "/" (Storage.parts path).dropLast
  match storage.makeFolders above with
  | .ok made => ((made.write path octets).toOption).getD made
  | .error _ => storage

/-- Begins the log file of this process, if one is named, and keeps it in storage if that works. -/
private def beginLog (env : Environment) (storage : Storage) : IO Storage := do
  match env "TOPICBUS_LOG_FILE" with
  | none => pure storage
  | some path =>
    try
      IO.FS.writeFile path ""
      pure (keepFile storage path [])
    catch _ => pure storage

/-- Makes the settings folder of this process and keeps the settings file in storage, if there is
one. -/
private def readSettings (env : Environment) (storage : Storage) : IO Storage := do
  match Settings.folder env with
  | .error _ => pure storage
  | .ok folder =>
    let path := Storage.join folder "config.json"
    try
      IO.FS.createDirAll folder
      let octets ← IO.FS.readBinFile path
      pure (keepFile storage path octets.toList)
    catch _ => pure storage

end Switchboard.CommandLine

open Switchboard CommandLine in
def main (arguments : List String) : IO UInt32 := do
  let pairs ← readVariables
  let env : Environment := fun name => pairs.lookup name
  let storage ← readSettings env (← beginLog env .empty)
  let finished :=
    run (fun _ => "") arguments env storage (fun endpoint => .ofEndpoint endpoint .refusing) []
  IO.print finished.output
  IO.eprint finished.errors
  pure (UInt32.ofNat finished.status)
