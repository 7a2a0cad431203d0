import Switchboard.Bus.Basic
/-!
Asking for the state of every known service at once. Each service has a topic of its own, so that
replies are told apart, and each question its own deadline.
-/

set_option autoImplicit false
set_option relaxedAutoImplicit false

namespace Switchboard

/-- The known services: the topic on which each is asked about, and its name. -/
def knownServices : List (String × String) :=
  [("service-gameap-status", "gameap"), ("service-daemon-status", "gameap-daemon"),
    ("service-nginx-status", "nginx"), ("service-mysql-status", "mysql"),
    ("service-php-status", "php-fpm")]

def statusMessage (name : String) : Json := .string ("service-status " ++ name)

structure ServiceQuery where
  name : String
  call : Call
  deadline : Nat
  status : Option ServiceStatus := none
  deriving DecidableEq

namespace ServiceQuery

variable {ν : Type}

def all (deadline : Nat) : List ServiceQuery :=
  knownServices.map fun service =>
    ⟨service.2, .fresh service.1 (statusMessage service.2), deadline, none⟩

def settle (q : ServiceQuery) (status : ServiceStatus) (b : Bus ν) :
    Bus ν × ServiceQuery :=
  (b.enter [.serviceAnswered q.name status], { q with call := .finished, status := some status })

/-- Polls one question. A reply or the end of the call settles it, and the deadline otherwise. -/
def poll (now : Nat) (q : ServiceQuery) (b : Bus ν) : Bus ν × ServiceQuery :=
  if q.status.isSome then (b, q)
  else
    match q.call.poll b with
    | (b, _, .ready (.ok reply)) => q.settle (.ofReply reply) b
    | (b, _, .ready (.error error)) => q.settle (.failed error.message) b
    | (b, call, .pending) =>
      if q.deadline ≤ now then q.settle (.failed "timed out") (call.drop b)
      else (b, { q with call })

def pollAll (now : Nat) : List ServiceQuery → Bus ν → Bus ν × List ServiceQuery
  | [], b => (b, [])
  | q :: rest, b =>
    let (b, q) := q.poll now b
    let (b, rest) := pollAll now rest b
    (b, q :: rest)

/-- The reports of questions, once every one is settled. -/
def reports? : List ServiceQuery → Option (List ServiceReport)
  | [] => some []
  | q :: rest => do
    let status ← q.status
    let others ← reports? rest
    some (⟨q.name, status⟩ :: others)

def dropAll (queries : List ServiceQuery) (b : Bus ν) : Bus ν :=
  queries.foldl (fun b q => q.call.drop b) b

end ServiceQuery

end Switchboard
