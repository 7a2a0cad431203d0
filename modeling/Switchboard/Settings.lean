import Switchboard.Connection.Basic
import Switchboard.Frame.Basic
import Switchboard.Json.Record
import Switchboard.Json.Writer
import Switchboard.Storage
import Switchboard.Text.Utf8
/-!
Settings of a bus: their file, which is a record with a default for every field, and the
environment variables that override single fields.
-/

set_option autoImplicit false
set_option relaxedAutoImplicit false

namespace Switchboard

structure Settings where
  endpoint : String := "ws://localhost:17080/ws"
  timeoutSeconds : UInt64 := 10
  acceptMissingValue : Bool := false
  deriving DecidableEq, Repr

abbrev Environment := String → Option String

inductive SettingsError
  | noHome
  | noFolder (path : String) (cause : StorageError)
  | unreadable (path : String)
  | invalid (path : String)
  | unwritable (path : String)
  deriving DecidableEq, Repr

def SettingsError.message : SettingsError → String
  | .noHome => "Could not determine config directory"
  | .noFolder path _ => "Failed to create config directory " ++ path
  | .unreadable path => "Failed to read " ++ path
  | .invalid path => "Invalid config in " ++ path
  | .unwritable path => "Failed to write " ++ path

namespace Settings

/-- The settings for an endpoint, with every other field at its default. -/
def withEndpoint (endpoint : String) : Settings := { endpoint }

/-- How long a handshake may take; zero seconds stand for no limit. -/
def handshakeSeconds (settings : Settings) : Option Nat :=
  if settings.timeoutSeconds = 0 then none else some settings.timeoutSeconds.toNat

def policy (settings : Settings) : Policy :=
  if settings.acceptMissingValue then .lenient else .strict

def describeBus (settings : Settings) (onClose : Bool) : String :=
  "BusBuilder \x7b config: BusConfig \x7b endpoint: " ++ Text.quoted settings.endpoint ++
    ", connect_timeout_secs: " ++ Decimal.natText settings.timeoutSeconds.toNat ++
    ", accept_missing_value: " ++ boolText settings.acceptMissingValue ++
    " \x7d, on_close: " ++ boolText onClose ++ " \x7d"

def endpointKey : String := "endpoint"

def timeoutKey : String := "connect_timeout_secs"

def lenientKey : String := "accept_missing_value"

def fileLine (key : String) (value : List Char) : List Char :=
  ' ' :: ' ' :: (Json.stringChars key ++ ':' :: ' ' :: value)

def boolChars (b : Bool) : List Char := (Json.bool b).chars

/-- The text of the file: one member on each line, indented by two spaces. -/
def render (settings : Settings) : String :=
  String.ofList ('{' :: '\n' :: (fileLine endpointKey (Json.stringChars settings.endpoint) ++
    ',' :: '\n' :: (fileLine timeoutKey (Decimal.natChars settings.timeoutSeconds.toNat) ++
      ',' :: '\n' :: (fileLine lenientKey (boolChars settings.acceptMissingValue) ++
        ['\n', '}']))))

/-- A field that a record may leave out. -/
def fieldOr {α : Type} (default : α) (read : Written → Option α) :
    Written.Occurrence → Option α
  | .absent => some default
  | .once written => read written
  | .repeated => none

/-- The settings in three fields, each read or left at its default. -/
def ofOccurrences (endpoint timeout lenient : Written.Occurrence) : Option Settings := do
  let default : Settings := {}
  let endpoint ← fieldOr default.endpoint Written.text? endpoint
  let timeoutSeconds ←
    fieldOr default.timeoutSeconds (fun written => written.natural?.map UInt64.ofNat) timeout
  let acceptMissingValue ← fieldOr default.acceptMissingValue Written.bool? lenient
  some { endpoint, timeoutSeconds, acceptMissingValue }

/-- The settings in an array that gives the first of its fields in order. -/
def ofItems : List Written → Option Settings
  | [] => ofOccurrences .absent .absent .absent
  | [endpoint] => ofOccurrences (.once endpoint) .absent .absent
  | [endpoint, timeout] => ofOccurrences (.once endpoint) (.once timeout) .absent
  | [endpoint, timeout, lenient] => ofOccurrences (.once endpoint) (.once timeout) (.once lenient)
  | _ => none

def read? (text : String) : Option Settings :=
  match Written.read? text with
  | some (.array items) => ofItems items
  | some (.object members) => do
    let keyed ← Written.keyedMembers members
    ofOccurrences (Written.occurrence endpointKey keyed) (Written.occurrence timeoutKey keyed)
      (Written.occurrence lenientKey keyed)
  | _ => none

/-- Reads a number of seconds, of no more than 64 bits. -/
def seconds? (text : String) : Option UInt64 :=
  (Decimal.readUpTo Json.greatestUnsigned text.toList).map UInt64.ofNat

/-- Reads one of the six words for a truth value. -/
def word? (text : String) : Option Bool :=
  if text = "1" ∨ text = "true" ∨ text = "yes" then some true
  else if text = "0" ∨ text = "false" ∨ text = "no" then some false
  else none

/-- Overrides single fields by variables; a value that cannot be read overrides nothing. -/
def override (settings : Settings) (env : Environment) : Settings where
  endpoint := (env "TOPICBUS_ENDPOINT").getD settings.endpoint
  timeoutSeconds :=
    ((env "TOPICBUS_CONNECT_TIMEOUT").bind seconds?).getD settings.timeoutSeconds
  acceptMissingValue :=
    ((env "TOPICBUS_ACCEPT_MISSING_VALUE").bind word?).getD settings.acceptMissingValue

def loadFrom (storage : Storage) (path : String) : Except SettingsError Settings :=
  match (storage.read path).toOption.bind Text.decode? with
  | none => .error (.unreadable path)
  | some text =>
    match read? text with
    | some settings => .ok settings
    | none => .error (.invalid path)

def saveTo (settings : Settings) (storage : Storage) (path : String) :
    Except SettingsError Storage :=
  match storage.write path (Text.encode settings.render) with
  | .ok storage => .ok storage
  | .error _ => .error (.unwritable path)

/-- The folder of configuration: an absolute one from the environment, or one under the home. -/
def platformFolder (env : Environment) : Option String :=
  match (env "XDG_CONFIG_HOME").filter Storage.isAbsolute with
  | some folder => some folder
  | none => ((env "HOME").filter (· ≠ "")).map fun home => Storage.join home ".config"

/-- The folder of the settings: the environment names it, or it has a place of its own under the
folder of configuration. -/
def folder (env : Environment) : Except SettingsError String :=
  match env "TOPICBUS_CONFIG_DIR" with
  | some path => .ok path
  | none =>
    match platformFolder env with
    | some path => .ok (Storage.join path "topicbus")
    | none => .error .noHome

/-- Loads the settings: makes their folder, reads their file if it can be read as a whole, and
applies the overrides of the environment. -/
def load (env : Environment) (storage : Storage) : Except SettingsError (Settings × Storage) := do
  let path ← folder env
  match storage.makeFolders path with
  | .error cause => .error (.noFolder path cause)
  | .ok storage =>
    let stored := (loadFrom storage (Storage.join path "config.json")).toOption.getD {}
    .ok (stored.override env, storage)

end Settings

end Switchboard
