import Switchboard.CommandLine.Arguments
import Switchboard.Session.Responder
/-!
A run of the program: it opens its log, reads its arguments, loads its settings, and does what it is
asked to do, against storage and a network that are given to it. So are the texts with which the
argument parser answers by itself.
-/

set_option autoImplicit false
set_option relaxedAutoImplicit false

namespace Switchboard.CommandLine

/-- What a run leaves behind: its exit status, what it printed, and what its peer was written. -/
structure Run where
  status : Nat
  output : String := ""
  errors : String := ""
  written : List String := []
  deriving DecidableEq, Repr

def versionText : String := "topicbus 0.1.0"

def failed (message : String) (cause : Option String) : Run :=
  { status := 1
    errors := "Error: " ++ message ++ "\n" ++
      match cause with
      | some text => "\nCaused by:\n    " ++ text ++ "\n"
      | none => "" }

def settingsCause : SettingsError → Option String
  | .noFolder _ cause => some cause.message
  | _ => none

/-- The settings that a run works with: frames may always leave out their value, and an option goes
before every other source of the endpoint. -/
def effectiveSettings (loaded : Settings) (options : Options) : Settings :=
  { loaded with
    endpoint := options.endpoint.getD loaded.endpoint
    acceptMissingValue := true }

def openLog (env : Environment) (storage : Storage) : Except Run Storage :=
  match env "TOPICBUS_LOG_FILE" with
  | none => .ok storage
  | some path =>
    match storage.write path [] with
    | .ok storage => .ok storage
    | .error cause =>
      .error (failed ("Failed to create log file at " ++ path) (some cause.message))

def taskName : String := "command"

/-- Runs a command in a session of its own. The command is polled for the first time before its line
begins to connect. -/
def runCommand (settings : Settings) (timeout : UInt64) (command : Command)
    (destination : Destination) (rules : List Rule) : Run :=
  let fresh : Session Empty := .ofSettings settings true destination
  let asked := (fresh.perform (.command taskName command (1000 * timeout.toNat))).1.pollTasks
  let started := asked.start []
  let answered := if destination = .listening then (started.step .accept).1 else started
  let s := answered.converseByRules rules
  let output := String.join s.bus.output
  match s.results with
  | (_, .command (.error failure)) :: _ =>
    { failed failure.message failure.cause? with output, written := s.written }
  | _ => { status := 0, output, written := s.written }

/-- A run of the program. What listens at an endpoint is asked of the network, and `advice` is what
the argument parser has to say to arguments that ask for help or are misused. -/
def run (advice : List String → String) (arguments : List String) (env : Environment)
    (storage : Storage) (network : String → Destination) (rules : List Rule) : Run :=
  match openLog env storage with
  | .error run => run
  | .ok storage =>
    match parse arguments with
    | none => { status := 2, errors := advice arguments }
    | some .showVersion => { status := 0, output := versionText ++ "\n" }
    | some .showHelp => { status := 0, output := advice arguments }
    | some (.act options action) =>
      match Settings.load env storage with
      | .error e => failed e.message (settingsCause e)
      | .ok (loaded, _) =>
        let settings := effectiveSettings loaded options
        match action with
        | .showSettings => { status := 0, output := settings.render ++ "\n" }
        | .run command =>
          runCommand settings (options.timeout.getD defaultTimeout) command
            (network (normalizeEndpoint settings.endpoint)) rules

end Switchboard.CommandLine
