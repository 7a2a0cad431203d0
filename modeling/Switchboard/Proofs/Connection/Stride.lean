import Switchboard.Connection.Line
/-!
What one signal does to the life of a line: the line stays in its phase, it opens, or it ends, and
then for a reason that belongs to the signal. `Line.step_stride` says so of every signal; a line
that has closed stays closed therefore, and one that has not has told of no end.
-/

set_option autoImplicit false
set_option relaxedAutoImplicit false

namespace Switchboard

/-- Signals in which a line keeps its phase, whatever that is. -/
def Signal.isSteady : Signal → Bool
  | .established | .refused _ | .timedOut _ | .write | .notice | .abandon => false
  | .received (.close ..) | .received (.broken _) | .received .ended => false
  | _ => true

theorem Signal.steady_of_text {message : Message} {text : String}
    (carries : message.text? = some text) : Signal.isSteady (.received message) = true := by
  cases message with
  | text content => rfl
  | binary octets => rfl
  | _ => cases carries

def Event.handled? : Event → Option String
  | .handled text => some text
  | _ => none

def handledTexts (events : List Event) : List String := events.filterMap Event.handled?

/-- Whether an entry tells of the last thing that a line wrote, or could not write any more. -/
def Event.isParting : Event → Bool
  | .wroteClose | .writeFailed _ => true
  | _ => false

def Event.isFinal : Event → Bool
  | .closed _ | .notified _ => true
  | e => e.isParting

/-- Whether an entry may be told of a line that stays in a phase. -/
def Phase.admits (phase : Phase) : Event → Bool
  | .opened | .closed _ | .notified _ | .wroteClose | .writeFailed _ => false
  | .handled _ | .wrote _ | .wrotePong _ => phase = .open
  | _ => true

theorem Phase.isFinal_of_admits {phase : Phase} {e : Event} (h : phase.admits e = true) :
    e.isFinal = false := by
  cases e with
  | opened | closed _ | notified _ | wroteClose | writeFailed _ => cases h
  | _ => rfl

namespace Line

/-- The text that a signal brings to the handler of a line. -/
def arrival (line : Line) : Signal → List String
  | .received message =>
    if line.phase = .open ∧ line.setup.onMessage then message.text?.toList else []
  | _ => []

def arrivals (line : Line) : List Signal → List String
  | [] => []
  | signal :: rest => line.arrival signal ++ arrivals (line.step signal).1 rest

inductive EndsBy (line : Line) : Signal → CloseReason → Prop
  | refused (early : line.phase = .connecting) (detail : String) :
    EndsBy line (.refused detail) ⟨none, detail⟩
  | timedOut (early : line.phase = .connecting) (seconds : Nat) :
    EndsBy line (.timedOut seconds)
      ⟨none, "handshake timed out after " ++ Decimal.natText seconds ++ "s"⟩
  | cancelled (early : line.phase = .connecting) (asked : line.closing = true) :
    EndsBy line .notice ⟨none, "closed before open"⟩
  | requested (isOpen : line.phase = .open) (asked : line.closing = true) :
    EndsBy line .notice ⟨some 1000, "client requested close"⟩
  | abandoned (isOpen : line.phase = .open) (written : line.accepted = [])
    (unused : line.isAbandoned = true) : EndsBy line .abandon ⟨some 1000, "all handles dropped"⟩
  | peerClosed (isOpen : line.phase = .open) (code : Option Nat) (reason : String) :
    EndsBy line (.received (.close code reason)) ⟨some (code.getD 1005), reason⟩
  | readFailed (isOpen : line.phase = .open) (detail : String) :
    EndsBy line (.received (.broken detail)) ⟨some 1006, "WebSocket read error: " ++ detail⟩
  | streamEnded (isOpen : line.phase = .open) :
    EndsBy line (.received .ended) ⟨some 1006, "stream ended"⟩
  | writeFailed (isOpen : line.phase = .open) (accepted : line.accepted ≠ [])
    (detail : String) (refuses : line.fault = some detail) :
    EndsBy line .write ⟨some 1006, "WebSocket send_text failed: " ++ detail⟩

/-- What a signal does to the life of a line, and what is told of it. -/
inductive Stride (line : Line) (signal : Signal) (after : Line) (events : List Event) : Prop
  | stays (setup : after.setup = line.setup) (phase : after.phase = line.phase)
    (mild : ∀ e ∈ events, line.phase.admits e = true)
    (heard : handledTexts events = line.arrival signal)
  | opens (setup : after.setup = line.setup) (begun : signal = .established)
    (early : line.phase = .connecting) (isOpen : after.phase = .open) (told : events = [.opened])
  | ends (setup : after.setup = line.setup) (reason : CloseReason) (last : List Event)
    (cause : line.EndsBy signal reason) (closed : after.phase = .closed)
    (told : events = last ++ .closed reason ::
      if line.setup.onClose then [.notified reason] else [])
    (parting : ∀ e ∈ last,
      line.phase.admits e = true ∨ line.phase = .open ∧ e.isParting = true)
    (silent : handledTexts last = []) (once : last.count .wroteClose ≤ 1)

variable {line : Line} {signal : Signal}

/-! What the parts of a step do. -/

private theorem endingEvents_parting (line : Line) (ending : Ending)
    (isOpen : ∀ detail, ending = .writeFailed detail → line.phase = .open) :
    ∀ e ∈ line.endingEvents ending,
      (line.phase.admits e = true ∨ line.phase = .open ∧ e.isParting = true) ∧
        e.handled? = none ∧ e ≠ .wroteClose := by
  intro e member
  unfold endingEvents at member
  split at member
  · obtain rfl := List.mem_singleton.mp member
    exact ⟨.inl rfl, rfl, by simp⟩
  · obtain rfl := List.mem_singleton.mp member
    exact ⟨.inl rfl, rfl, by simp⟩
  · obtain rfl := List.mem_singleton.mp member
    exact ⟨.inl rfl, rfl, by simp⟩
  · obtain ⟨text, -, rfl⟩ := List.mem_map.mp member
    exact ⟨.inr ⟨isOpen _ rfl, rfl⟩, rfl, by simp⟩
  · split at member
    · obtain rfl := List.mem_singleton.mp member
      exact ⟨.inl rfl, rfl, by simp⟩
    · cases member

private theorem stride_finish {ending : Ending} (cause : line.EndsBy signal ending.closeReason)
    (isOpen : ∀ detail, ending = .writeFailed detail → line.phase = .open) :
    line.Stride signal (line.finish ending).1 (line.finish ending).2 := by
  have last := line.endingEvents_parting ending isOpen
  refine .ends rfl _ _ cause rfl rfl (fun e member => (last e member).1) ?_ ?_
  · exact List.filterMap_eq_nil_iff.mpr fun e member => (last e member).2.1
  · rw [List.count_eq_zero_of_not_mem fun member => (last _ member).2.2 rfl]
    exact Nat.zero_le 1

private theorem stride_finishPolitely {ending : Ending}
    (cause : line.EndsBy signal ending.closeReason) (isOpen : line.phase = .open) :
    line.Stride signal (line.finishPolitely ending).1 (line.finishPolitely ending).2 := by
  have last := line.endingEvents_parting ending fun _ _ => isOpen
  have silent : handledTexts (line.endingEvents ending) = [] :=
    List.filterMap_eq_nil_iff.mpr fun e member => (last e member).2.1
  have none : (line.endingEvents ending).count .wroteClose = 0 :=
    List.count_eq_zero_of_not_mem fun member => (last _ member).2.2 rfl
  refine .ends rfl ending.closeReason
    ((if line.writable then [.wroteClose] else []) ++ line.endingEvents ending) cause rfl
    ?_ ?_ ?_ ?_
  · simp only [finishPolitely, finish, List.append_assoc]
  · intro e member
    rcases List.mem_append.mp member with member | member
    · refine .inr ⟨isOpen, ?_⟩
      split at member
      · rw [List.mem_singleton.mp member]
        rfl
      · cases member
    · exact (last e member).1
  · rw [handledTexts, List.filterMap_append]
    refine List.append_eq_nil_iff.mpr ⟨?_, silent⟩
    split <;> rfl
  · rw [List.count_append, none]
    split <;> simp

private theorem stride_accept {other : Line} (setup : other.setup = line.setup)
    (same : other.phase = line.phase) (text : String) (h : line.arrival signal = []) :
    line.Stride signal (other.accept text).1 (other.accept text).2 := by
  unfold accept
  split
  · exact .stays setup same (by simp) h.symm
  · exact .stays setup same (by simp [Phase.admits]) h.symm

private theorem stride_still (h : line.arrival signal = []) : line.Stride signal line [] :=
  .stays rfl rfl (by simp) h.symm

private theorem stride_withWaiter {i : Nat} {change : Waiter → Line × List Event}
    (h : line.arrival signal = []) (each : ∀ w, line.Stride signal (change w).1 (change w).2) :
    line.Stride signal (line.withWaiter i change).1 (line.withWaiter i change).2 := by
  unfold withWaiter
  split
  · exact each _
  · exact stride_still h

private theorem stride_deferText (i : Nat) (w : Waiter) (text : String)
    (h : line.arrival signal = []) :
    line.Stride signal (line.deferText i w text).1 (line.deferText i w text).2 := by
  unfold deferText
  split
  · exact stride_accept rfl rfl text h
  · exact .stays rfl rfl (by simp [Phase.admits]) h.symm

private theorem stride_flushStep (i : Nat) (w : Waiter) (place : Nat)
    (h : line.arrival signal = []) :
    line.Stride signal (line.flushStep i w place).1 (line.flushStep i w place).2 := by
  unfold flushStep
  split
  · exact stride_still h
  · split
    · exact stride_still h
    · exact .stays rfl rfl (by simp) h.symm
  · split
    · exact .stays rfl rfl (by simp) h.symm
    · exact .stays rfl rfl (by simp) h.symm
  · split
    · dsimp only
      exact stride_accept (show (line.setWaiter i _).setup = line.setup from rfl) rfl _ h
    · exact .stays rfl rfl (by simp [Phase.admits]) h.symm

private theorem stride_receive (isOpen : line.phase = .open) (message : Message) :
    line.Stride (.received message) (line.receive message).1 (line.receive message).2 := by
  cases message with
  | text text =>
    refine .stays rfl rfl ?_ ?_
    · simp only [receive]
      split <;> simp [Phase.admits, isOpen]
    · cases handler : line.setup.onMessage <;>
        simp [receive, arrival, Message.text?, handledTexts, Event.handled?, isOpen, handler]
  | binary octets =>
    refine .stays rfl rfl ?_ ?_
    · simp only [receive]
      split <;> simp [Phase.admits, isOpen]
    · cases handler : line.setup.onMessage <;>
        simp [receive, arrival, Message.text?, handledTexts, Event.handled?, isOpen, handler]
  | ping octets =>
    refine .stays rfl rfl ?_ ?_
    · simp only [receive]
      split <;> simp [Phase.admits, isOpen]
    · simp only [receive, arrival, Message.text?]
      split <;> split <;> rfl
  | pong octets =>
    refine .stays rfl rfl (by simp [receive]) ?_
    simp only [receive, arrival, Message.text?]
    split <;> rfl
  | close code reason => exact stride_finish (.peerClosed isOpen code reason) fun _ _ => isOpen
  | broken detail => exact stride_finish (.readFailed isOpen detail) fun _ _ => isOpen
  | ended => exact stride_finish (.streamEnded isOpen) fun _ _ => isOpen

/-- Every step of a line is a stride of its life. -/
theorem step_stride (line : Line) (signal : Signal) :
    line.Stride signal (line.step signal).1 (line.step signal).2 := by
  cases signal with
  | connect => exact .stays rfl rfl (by simp [step, Phase.admits]) rfl
  | established =>
    simp only [step]
    split
    · rename_i early
      exact .opens rfl rfl early rfl rfl
    · exact stride_still rfl
  | refused detail =>
    simp only [step]
    split
    · rename_i early
      exact stride_finish (.refused early detail) (by simp)
    · exact stride_still rfl
  | timedOut seconds =>
    simp only [step]
    split
    · rename_i early
      exact stride_finish (.timedOut early seconds) (by simp)
    · exact stride_still rfl
  | received message =>
    simp only [step]
    split
    · rename_i isOpen
      exact stride_receive isOpen message
    · rename_i shut
      exact stride_still (by simp [arrival, shut])
  | write =>
    simp only [step]
    split
    · rename_i text rest isOpen oldest
      split
      · exact .stays rfl rfl (by simp [Phase.admits, isOpen]) rfl
      · rename_i detail refuses
        exact stride_finish (.writeFailed isOpen (by simp [oldest]) detail refuses)
          fun _ _ => isOpen
    · exact stride_still rfl
  | notice =>
    simp only [step]
    split
    · rename_i asked
      split
      · rename_i early
        exact stride_finish (.cancelled early asked) (by simp)
      · rename_i isOpen
        exact stride_finishPolitely (.requested isOpen asked) isOpen
      · exact stride_still rfl
    · exact stride_still rfl
  | abandon =>
    simp only [step]
    split
    · rename_i left
      exact stride_finishPolitely (.abandoned left.1 left.2.1 left.2.2) left.1
    · exact stride_still rfl
  | close => simp only [step]; split <;> exact .stays rfl rfl (by simp) rfl
  | send text =>
    simp only [step]
    split
    · exact stride_still rfl
    · exact stride_accept rfl rfl text rfl
  | defer i text =>
    refine stride_withWaiter rfl fun w => ?_
    split
    · exact stride_still rfl
    · exact stride_deferText i w text rfl
  | flush i place => exact stride_withWaiter rfl fun w => stride_flushStep i w place rfl
  | retain => simp only [step]; split <;> exact .stays rfl rfl (by simp) rfl
  | release => exact .stays rfl rfl (by simp [step]) rfl
  | retainWaiter i =>
    refine stride_withWaiter rfl fun w => ?_
    split <;> exact .stays rfl rfl (by simp) rfl
  | releaseWaiter i => exact stride_withWaiter rfl fun w => .stays rfl rfl (by simp) rfl
  | setFault fault => exact .stays rfl rfl (by simp [step]) rfl

theorem step_setup (line : Line) (signal : Signal) : (line.step signal).1.setup = line.setup := by
  cases line.step_stride signal with
  | stays setup => exact setup
  | opens setup => exact setup
  | ends setup => exact setup

theorem step_phase (line : Line) (steady : signal.isSteady = true) :
    (line.step signal).1.phase = line.phase := by
  cases line.step_stride signal with
  | stays setup phase => exact phase
  | opens setup begun =>
    subst begun
    cases steady
  | ends setup reason last cause => cases cause <;> cases steady

theorem run_append (line : Line) (signals later : List Signal) :
    line.run (signals ++ later) =
      (((line.run signals).1.run later).1,
        (line.run signals).2 ++ ((line.run signals).1.run later).2) := by
  induction signals generalizing line with
  | nil => rfl
  | cons signal rest ih => simp only [List.cons_append, run, ih, List.append_assoc]

theorem run_setup (line : Line) (signals : List Signal) :
    (line.run signals).1.setup = line.setup := by
  induction signals generalizing line with
  | nil => rfl
  | cons signal rest ih => exact (ih _).trans (line.step_setup signal)

theorem EndsBy.alive {reason : CloseReason} (h : line.EndsBy signal reason) :
    line.phase ≠ .closed := by
  cases h <;> simp [*]

theorem step_arrival (line : Line) (signal : Signal) :
    handledTexts (line.step signal).2 = line.arrival signal := by
  cases line.step_stride signal with
  | stays setup phase mild heard => exact heard
  | opens setup begun early isOpen told =>
    subst begun
    rw [told]
    rfl
  | ends setup reason last cause closed told parting silent =>
    -- no signal that ends a line carries a text
    have nothing : line.arrival signal = [] := by
      cases cause with
      | peerClosed | readFailed | streamEnded => simp only [arrival, Message.text?]; split <;> rfl
      | _ => rfl
    rw [told, nothing, handledTexts, List.filterMap_append]
    refine List.append_eq_nil_iff.mpr ⟨silent, ?_⟩
    split <;> rfl

theorem run_arrivals (line : Line) (signals : List Signal) :
    handledTexts (line.run signals).2 = line.arrivals signals := by
  induction signals generalizing line with
  | nil => rfl
  | cons signal rest ih =>
    rw [run, arrivals, ← step_arrival, ← ih, handledTexts, List.filterMap_append]
    rfl

/-! A line that has closed stays closed, and one that has not closed has told of no end. -/

theorem step_closed (closed : line.phase = .closed) (signal : Signal) :
    (line.step signal).1.phase = .closed ∧
      ∀ e ∈ (line.step signal).2, Phase.closed.admits e = true := by
  cases line.step_stride signal with
  | stays setup phase mild => exact ⟨phase.trans closed, closed ▸ mild⟩
  | opens setup begun early => simp [closed] at early
  | ends setup reason last cause => exact absurd closed cause.alive

theorem run_closed (closed : line.phase = .closed) (signals : List Signal) :
    (line.run signals).1.phase = .closed ∧
      ∀ e ∈ (line.run signals).2, Phase.closed.admits e = true := by
  induction signals generalizing line with
  | nil => exact ⟨closed, by simp [run]⟩
  | cons signal rest ih =>
    obtain ⟨between, first⟩ := step_closed closed signal
    obtain ⟨after, later⟩ := ih between
    exact ⟨after, fun e member => (List.mem_append.mp member).elim (first e) (later e)⟩

theorem step_alive (alive : (line.step signal).1.phase ≠ .closed) :
    line.phase ≠ .closed ∧ ∀ e ∈ (line.step signal).2, e.isFinal = false := by
  cases line.step_stride signal with
  | stays setup phase mild =>
    exact ⟨phase ▸ alive, fun e member => Phase.isFinal_of_admits (mild e member)⟩
  | opens setup begun early isOpen told =>
    exact ⟨by simp [early], by simp [told, Event.isFinal, Event.isParting]⟩
  | ends setup reason last cause closed => exact absurd closed alive

theorem run_alive {signals : List Signal} (alive : (line.run signals).1.phase ≠ .closed) :
    line.phase ≠ .closed ∧ ∀ e ∈ (line.run signals).2, e.isFinal = false := by
  induction signals generalizing line with
  | nil => exact ⟨alive, by simp [run]⟩
  | cons signal rest ih =>
    obtain ⟨between, later⟩ := ih alive
    obtain ⟨before, first⟩ := step_alive between
    exact ⟨before, fun e member => (List.mem_append.mp member).elim (first e) (later e)⟩

theorem exists_end {signals : List Signal} (alive : line.phase ≠ .closed)
    (closed : (line.run signals).1.phase = .closed) :
    ∃ before signal after, signals = before ++ signal :: after ∧
      (line.run before).1.phase ≠ .closed ∧
      ((line.run before).1.step signal).1.phase = .closed := by
  induction signals generalizing line with
  | nil => exact absurd closed alive
  | cons signal rest ih =>
    -- the first signal behind which the line is closed is the one
    by_cases now : (line.step signal).1.phase = .closed
    · exact ⟨[], signal, rest, rfl, alive, now⟩
    · obtain ⟨before, last, after, split, still, ended⟩ := ih now closed
      exact ⟨signal :: before, last, after, by rw [split]; rfl, still, ended⟩

end Line

end Switchboard
