import Switchboard.Session.Step
/-!
A peer that answers by rules: a frame that is written to it sets off every rule that names its topic
or its value.
-/

set_option autoImplicit false
set_option relaxedAutoImplicit false

namespace Switchboard

/-- What a peer does about a frame: it sends some texts and may then close. -/
structure Rule where
  trigger : String
  texts : List String
  closes : Bool
  deriving DecidableEq, Repr

def Rule.applies (rule : Rule) (written : String) : Bool :=
  match Frame.parse .strict written with
  | .ok frame => frame.topic = rule.trigger ∨ frame.value = .string rule.trigger
  | .error _ => false

namespace Session

variable {ν : Type}

def written (s : Session ν) : List String :=
  s.bus.journal.filterMap fun
    | .wrote text => some text
    | _ => none

def follow (s : Session ν) (rule : Rule) : Session ν :=
  let told := rule.texts.foldl (fun s text => (s.step (.transmit (.text text))).1) s
  if rule.closes then (told.step (.transmit (.close none ""))).1 else told

def answerText (rules : List Rule) (s : Session ν) (text : String) : Session ν :=
  (rules.filter fun rule => rule.applies text).foldl follow s

def nextAlarm (s : Session ν) : Option Nat := (s.tasks.filterMap Task.firstDeadline).min?

/-- Lets a session go on, with the first `heard` written texts answered already, until no task is
left or nothing can happen any more. -/
def converse (rules : List Rule) : Nat → Nat → Session ν → Session ν
  | 0, _, s => s
  | n + 1, heard, s =>
    if s.tasks = [] then s
    else
      match s.written.drop heard with
      | text :: _ => converse rules n (heard + 1) (answerText rules s text)
      | [] =>
        match s.nextAlarm with
        | some time => converse rules n heard (s.step (.advance (time - s.now))).1
        | none => s

/-- Lets a session run to its end against a peer with rules. A command writes at most as many texts
as there are services, and few waits of it can run out before it is over. -/
def converseByRules (rules : List Rule) (s : Session ν) : Session ν :=
  converse rules (knownServices.length + 10) 0 s

end Session

end Switchboard
