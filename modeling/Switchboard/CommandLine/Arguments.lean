import Switchboard.Command.Basic
/-!
The arguments of the command line: options, which may stand before and behind the name of an action,
and what the action takes. Arguments are read from left to right, and the first one that settles the
matter does so.
-/

set_option autoImplicit false
set_option relaxedAutoImplicit false

namespace Switchboard.CommandLine

inductive Action
  | run (command : Command)
  | showSettings
  deriving DecidableEq, Repr

/-- The options as they stand in one place; each may stand there once. -/
structure Options where
  endpoint : Option String := none
  timeout : Option UInt64 := none
  deriving DecidableEq, Repr

inductive Request
  | act (options : Options) (action : Action)
  | showVersion
  | showHelp
  deriving DecidableEq, Repr

/-- How long waits last when no option says it, in seconds. -/
def defaultTimeout : UInt64 := 10

def actionArities : List (String × Nat) :=
  [("request", 2), ("stream", 2), ("watch", 1), ("services", 0), ("node-info", 0), ("exit", 0),
    ("config", 0)]

def action? : String → List String → Option Action
  | "request", [topic, message] => some (.run (.request topic message))
  | "stream", [topic, message] => some (.run (.stream topic message))
  | "watch", [topic] => some (.run (.watch topic))
  | "services", [] => some (.run .services)
  | "node-info", [] => some (.run .nodeInfo)
  | "exit", [] => some (.run .exit)
  | "config", [] => some .showSettings
  | _, _ => none

/-- Whether an argument looks like an option; a lone hyphen does not. -/
def looksLikeOption (argument : String) : Bool :=
  argument.toList.head? = some '-' && argument ≠ "-"

/-- Options of one place from those of an outer and an inner one, of which the inner win. -/
def Options.within (inner outer : Options) : Options :=
  ⟨inner.endpoint <|> outer.endpoint, inner.timeout <|> outer.timeout⟩

/-- Sets an option by its name; it must not be set already, and its value must be readable. -/
def Options.set? (options : Options) (name value : String) : Option Options :=
  if name = "--endpoint" ∧ options.endpoint.isNone then
    some { options with endpoint := some value }
  else if name = "--timeout" ∧ options.timeout.isNone then
    (Settings.seconds? value).map fun seconds => { options with timeout := some seconds }
  else none

/-- A word up to its first equals sign, and what follows it. -/
private def splitValue (word : String) : String × Option String :=
  let chars := word.toList
  match chars.dropWhile (· ≠ '=') with
  | _ :: value => (String.ofList (chars.takeWhile (· ≠ '=')), some (String.ofList value))
  | [] => (word, none)

private inductive Reading
  | set (options : Options)
  /-- The value is the next argument. -/
  | named (name : String)
  | help
  | version
  | misuse

private def readOption (options : Options) (argument : String) : Reading :=
  match argument.toList with
  | '-' :: '-' :: _ =>
    match splitValue argument with
    | ("--help", none) => .help
    | ("--version", none) => .version
    | (name, some value) => (options.set? name value).elim .misuse .set
    | (name, none) => if name = "--endpoint" ∨ name = "--timeout" then .named name else .misuse
  | '-' :: 'h' :: _ => .help
  | '-' :: 'V' :: _ => .version
  | _ => .misuse

/-- Reads the arguments behind the name of an action. `most` words are taken in all; behind a
double hyphen everything is a word. -/
private def readWords (most : Nat) : Bool → Options → List String → List String →
    Option (Except Request (Options × List String))
  | _, options, words, [] => some (.ok (options, words))
  | true, options, words, argument :: rest =>
    if words.length < most then readWords most true options (words ++ [argument]) rest else none
  | false, options, words, argument :: rest =>
    if argument = "--" then readWords most true options words rest
    else if looksLikeOption argument then
      match readOption options argument, rest with
      | .set options, rest => readWords most false options words rest
      | .named name, value :: rest =>
        if looksLikeOption value then none
        else (options.set? name value).bind fun options => readWords most false options words rest
      | .help, _ => some (.error .showHelp)
      | .named _, [] | .version, _ | .misuse, _ => none
    else if words.length < most then readWords most false options (words ++ [argument]) rest
    else none

private def readAction (outer : Options) (name : String) (most : Nat) (arguments : List String) :
    Option Request :=
  match readWords most false {} [] arguments with
  | none => none
  | some (.error request) => some request
  | some (.ok (inner, words)) => (action? name words).map (.act (inner.within outer))

private def readFrom : Options → List String → Option Request
  | _, [] => none
  | options, argument :: rest =>
    match actionArities.lookup argument with
    | some most => readAction options argument most rest
    | none =>
      if argument = "help" then
        match rest with
        | [] => some .showHelp
        | [name] =>
          if name = "help" ∨ (actionArities.lookup name).isSome then some .showHelp else none
        | _ => none
      else if looksLikeOption argument ∧ argument ≠ "--" then
        match readOption options argument, rest with
        | .set options, rest => readFrom options rest
        | .named name, value :: rest =>
          if looksLikeOption value then none
          else (options.set? name value).bind fun options => readFrom options rest
        | .help, _ => some .showHelp
        | .version, _ => some .showVersion
        | .named _, [] | .misuse, _ => none
      else none

/-- What the arguments ask for; nothing when they are misused. -/
def parse (arguments : List String) : Option Request := readFrom {} arguments

end Switchboard.CommandLine
