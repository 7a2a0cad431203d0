import Switchboard.Proofs.Bus.Tame
import Switchboard.Proofs.Exchange.Twins
/-!
All that can be done to a bus, and its runs. Conversations are taken as they come: any call and any
stream may be polled or given up at any time, whether it belongs to the bus or not.
-/

set_option autoImplicit false
set_option relaxedAutoImplicit false

namespace Switchboard

inductive Act (ν : Type)
  /-- The line reads a message from its socket. -/
  | receive (message : Message)
  /-- A program runs outside of any callback. -/
  | run (program : Program ν)
  | publish (frame : Frame)
  /-- The line takes a step of its own, or one that a peer, a flush or an owner wants. -/
  | step (signal : Signal)
  | retain
  | release
  | pollCall (call : Call)
  | dropCall (call : Call)
  | openStream (topic : String) (message : Json)
  | readStream (stream : ReplyStream)
  | dropStream (stream : ReplyStream)
  | pollCollecting (collecting : Collecting)

variable {ν : Type}

namespace Act

def apply : Act ν → Bus ν → Bus ν
  | .receive message, b => b.receive message
  | .run program, b => (b.execute program).1
  | .publish frame, b => Exchange.publish frame b
  | .step signal, b => b.signal signal
  | .retain, b => Bus.retain b
  | .release, b => Bus.release b
  | .pollCall call, b => (call.poll b).1
  | .dropCall call, b => call.drop b
  | .openStream topic message, b => (ReplyStream.openOn topic message b).1
  | .readStream stream, b => (stream.next b).1
  | .dropStream stream, b => stream.drop b
  | .pollCollecting collecting, b => (collecting.poll b).1

def box? : Act ν → Option Nat
  | .readStream stream => some stream.box
  | .pollCollecting collecting => some collecting.stream.box
  | _ => none

/-- Programs leave dispatching to the line, and the line hands on what it reads. -/
def IsTame : Act ν → Prop
  | .run program => program.IsTame
  | .step signal => ∀ message, signal ≠ .received message
  | _ => True

end Act

def Bus.after (b : Bus ν) : List (Act ν) → Bus ν
  | [] => b
  | act :: rest => (act.apply b).after rest

theorem Bus.after_append (b : Bus ν) (acts more : List (Act ν)) :
    b.after (acts ++ more) = (b.after acts).after more := by
  induction acts generalizing b with
  | nil => rfl
  | cons act rest ih => exact ih _

open Exchange

namespace Bus

/-- Everything that reading a message can do. -/
inductive Received (b : Bus ν) (message : Message) : Bus ν → Prop
  /-- Nothing is read from a line that is not open, and what carries no text goes no further. -/
  | read : b.line.phase ≠ .open ∨ message.text? = none ∨ b.line.setup.onMessage = false →
    Received b message (b.signal (.received message))
  | malformed (text : String) (error : FrameError) : b.line.phase = .open →
    message.text? = some text → Frame.parse b.policy text = .error error →
    Received b message ((b.signal (.received message)).enter [.malformed error text])
  | routed (text : String) (frame : Frame) : b.line.phase = .open →
    message.text? = some text → Frame.parse b.policy text = .ok frame →
    Received b message (((b.signal (.received message)).dispatch frame).1.enter
      [.routed frame ((b.signal (.received message)).dispatch frame).2])

theorem receive_received (b : Bus ν) (message : Message) :
    b.Received message (b.receive message) := by
  unfold receive
  split
  · rename_i text isOpen carries
    split
    · cases parsed : Frame.parse b.policy text with
      | error e =>
        have parsed' : Frame.parse (b.signal (.received message)).policy text = .error e := parsed
        simp only [Exchange.route, routeWith, parsed']
        exact .malformed text e isOpen carries parsed
      | ok frame =>
        have parsed' : Frame.parse (b.signal (.received message)).policy text = .ok frame := parsed
        simp only [Exchange.route, routeWith, parsed']
        exact .routed text frame isOpen carries parsed
    · rename_i handler
      exact .read (.inr (.inr (Bool.eq_false_iff.mpr handler)))
  · rename_i others
    refine .read ?_
    by_cases isOpen : b.line.phase = .open
    · cases carries : message.text? with
      | none => exact .inr (.inl rfl)
      | some text => exact absurd carries (others text isOpen)
    · exact .inl isOpen

theorem hands_conversing : Conversing (Hands nothing : Bus ν → Bus ν → Prop) where
  refl := telling.refl
  trans := telling.before
  converse b topic delivery frame := by
    have boxed : Hands nothing b b.addBox := telling.aside rfl rfl rfl rfl rfl
    have made := subscribe_hands b.addBox topic delivery (.box b.nextBox) trivial
    exact telling.before (telling.before boxed made) (publishWith_hands _ _ frame)
  read _ _ := telling.aside rfl rfl rfl rfl rfl
  unsubscribe b id := unsubscribe_hands b id

theorem apply_hands {b : Bus ν} {act : Act ν} (tame : act.IsTame)
    (unread : ∀ message, act ≠ .receive message) (beside : ∀ signal, act ≠ .step signal) :
    Hands nothing b (act.apply b) := by
  have counted (handles : Nat) : Hands nothing b { b with outlet := { b.outlet with handles } } :=
    { policy := rfl
      nesting := rfl
      setup := rfl
      tame := id
      replies := fun _ => (List.append_nil _).symm
      phase := rfl }
  cases act with
  | receive message => exact absurd rfl (unread message)
  | run program => exact (permits_tame _).executeWith tame b
  | publish frame => exact publishWith_hands b (dispatchWithin b.nesting) frame
  | step signal => exact absurd rfl (beside signal)
  | retain =>
    change Hands nothing b b.retain
    unfold retain
    split
    · exact counted _
    · exact telling.refl b
  | release => exact telling.before (counted _) (telling.disownFree _)
  | pollCall call => exact hands_conversing.poll b call
  | dropCall call => exact hands_conversing.release b (.call call)
  | openStream topic message => exact hands_conversing.openOn b topic message
  | readStream stream => exact hands_conversing.next b stream
  | dropStream stream => exact b.unsubscribe_hands stream.id
  | pollCollecting collecting => exact hands_conversing.collect b collecting

theorem apply_tells {b : Bus ν} {act : Act ν} (tame : act.IsTame)
    (other : ∀ message, act ≠ .receive message) : Tells nothing b (act.apply b) := by
  by_cases beside : ∀ signal, act ≠ .step signal
  · exact (apply_hands tame other beside).toTells
  · simp only [not_forall, not_not] at beside
    obtain ⟨signal, rfl⟩ := beside
    exact b.signal_tells signal

theorem apply_closed {b : Bus ν} {act : Act ν} (tame : act.IsTame)
    (closed : b.line.phase = .closed) : (act.apply b).line.phase = .closed := by
  by_cases unread : ∀ message, act ≠ .receive message
  · by_cases beside : ∀ signal, act ≠ .step signal
    · rw [(apply_hands tame unread beside).phase, closed]
    · simp only [not_forall, not_not] at beside
      obtain ⟨signal, rfl⟩ := beside
      exact (Line.step_closed closed signal).1
  · simp only [not_forall, not_not] at unread
    obtain ⟨message, rfl⟩ := unread
    have received := b.receive_received message
    change (b.receive message).line.phase = .closed
    generalize b.receive message = c at received ⊢
    cases received with
    | read => exact (Line.step_closed closed (.received message)).1
    | malformed text error isOpen => simp [closed] at isOpen
    | routed text frame isOpen => simp [closed] at isOpen

private theorem counted_moves {reads : Nat → Prop} (b : Bus ν) (handles : Nat) :
    Moves reads b { b with outlet := { b.outlet with handles } } :=
  fun _ h => h.aside (x := b) rfl rfl rfl

theorem signal_moves {reads : Nat → Prop} (b : Bus ν) (signal : Signal) :
    Moves reads b (b.signal signal) :=
  .outside _ (b.line.step_outward signal)

theorem retain_moves {reads : Nat → Prop} (b : Bus ν) : Moves reads b (Bus.retain b) := by
  unfold Bus.retain
  split
  · exact b.counted_moves _
  · exact .refl b

theorem release_moves {reads : Nat → Prop} (b : Bus ν) : Moves reads b (Bus.release b) :=
  (b.counted_moves _).trans fun _ h => h.toInvariant.conduct.disownFree _

/-- Whatever is done to a bus is made of runs and of conversations, and reads one box at most. -/
theorem apply_moves_box (b : Bus ν) (act : Act ν) :
    Moves (fun box => act.box? = some box) b (act.apply b) := by
  cases act with
  | receive message =>
    have received := b.receive_received message
    have read : Moves (fun _ => False) b (b.signal (.received message)) := b.signal_moves _
    have unread : Moves (fun _ => False) b (b.receive message) := by
      generalize b.receive message = c at received ⊢
      cases received with
      | read => exact read
      | malformed text error =>
        exact read.trans fun _ h => h.tell _ (by simp [Event.isQuiet])
      | routed text frame =>
        refine (read.trans fun _ h => ?_).trans fun _ h =>
          h.tell _ (by simp [Event.isQuiet_routed])
        exact h.toInvariant.conduct.dispatchWithin _ frame _
    exact unread.mono fun _ => False.elim
  | run program => exact .execute program
  | publish frame => exact .publish b.nesting frame
  | step signal => exact b.signal_moves signal
  | retain => exact b.retain_moves
  | release => exact b.release_moves
  | pollCall call => exact call.poll_moves
  | dropCall call => exact call.drop_moves
  | openStream topic message => exact ReplyStream.openOn_moves topic message
  | readStream stream =>
    have own : (Act.readStream stream : Act ν).box? = some stream.box := rfl
    exact (stream.next_moves own).1
  | dropStream stream => exact .unsubscribe stream.id
  | pollCollecting collecting =>
    have own : (Act.pollCollecting collecting : Act ν).box? = some collecting.stream.box := rfl
    exact (collecting.poll_moves own).1

theorem apply_moves (b : Bus ν) (act : Act ν) : Moves (fun _ => True) b (act.apply b) :=
  (b.apply_moves_box act).mono fun _ _ => trivial

theorem after_moves (b : Bus ν) (acts : List (Act ν)) :
    Moves (fun _ => True) b (b.after acts) := by
  induction acts generalizing b with
  | nil => exact .refl b
  | cons act rest ih => exact (b.apply_moves act).trans (ih _)

section Twins

variable {p q : List Event} {b c : Bus ν}

private theorem signal_twin (h : Twin p q b c) (s : Signal) :
    Twin p q (b.signal s) (c.signal s) := by
  unfold signal
  rw [h.outlet]
  exact (h.withOutlet _).enter _

private theorem receive_twin (h : Twin p q b c) (message : Message) :
    Twin p q (b.receive message) (c.receive message) := by
  have read := signal_twin h (.received message)
  unfold receive line
  rw [h.outlet]
  split
  · split
    · exact (read.route _).1
    · exact read
  · exact read

theorem apply_twin (h : Twin p q b c) (act : Act ν) : Twin p q (act.apply b) (act.apply c) := by
  cases act with
  | receive message => exact receive_twin h message
  | run program => exact (h.execute program).1
  | publish frame => exact h.publish frame
  | step s => exact signal_twin h s
  | retain =>
    change Twin p q b.retain c.retain
    unfold retain
    rw [h.outlet]
    split
    · exact h.withOutlet _
    · exact h
  | release =>
    change Twin p q b.release c.release
    unfold release
    rw [h.outlet]
    exact (h.withOutlet _).disownFree
  | pollCall call => exact (Call.poll_alike h call).1
  | dropCall call => exact Call.drop_twin h call
  | openStream topic message => exact (ReplyStream.openOn_alike h topic message).1
  | readStream stream => exact (ReplyStream.next_alike h stream).1
  | dropStream stream => exact h.unsubscribe stream.id
  | pollCollecting collecting => exact (Collecting.poll_alike h collecting).1

theorem after_twin (h : Twin p q b c) (acts : List (Act ν)) :
    Twin p q (b.after acts) (c.after acts) := by
  induction acts generalizing b c with
  | nil => exact h
  | cons act rest ih => exact ih (apply_twin h act)

end Twins

end Bus

end Switchboard
