import Switchboard.Desk
import Switchboard.Proofs.Exchange.Calm
/-!
Conversations on a calm exchange. A call or a stream sees its box, its subscription and whether the
outlet has closed, and a failure changes none of these; so all errands at a desk come to the same.
-/

set_option autoImplicit false
set_option relaxedAutoImplicit false

namespace Switchboard

open Exchange

variable {ν σ : Type} [Outlet σ] {x : Exchange ν σ}

def Exchange.calmed {α : Type} (result : Exchange ν σ × α) : Exchange ν σ × α :=
  (result.1.calm, result.2)

theorem Exchange.converse_calm (topic : String) (delivery : Delivery) (frame : Frame) :
    (x.calm.addBox.subscribe ⟨topic, delivery, .box x.nextBox⟩).publish frame =
      ((x.addBox.subscribe ⟨topic, delivery, .box x.nextBox⟩).publish frame).calm := by
  have subscribed := calm_subscribe (x := x.addBox) ⟨topic, delivery, .box x.nextBox⟩
  have published := publishWith_calm (x := x.addBox.subscribe ⟨topic, delivery, .box x.nextBox⟩)
    x.nesting frame
  rw [subscribed] at published
  exact published

namespace Call

theorem await_calm (id : SubscriptionId) (box : Nat) :
    await id box x.calm = calmed (await id box x) := by
  have concluded : ∀ result, conclude id result x.calm = calmed (conclude id result x) := by
    intro result
    simp only [conclude, calmed, calm_unsubscribe]
  unfold await
  rw [show x.calm.box box = x.box box from rfl, contains_calm,
    show x.calm.isClosed = x.isClosed from rfl]
  split
  · exact concluded _
  · split
    · exact concluded _
    · split
      · exact concluded _
      · rfl

theorem poll_calm (call : Call) : call.poll x.calm = calmed (call.poll x) := by
  cases call with
  | fresh topic message =>
    have begun := converse_calm (x := x) topic .once (.payload topic message)
    change await x.registry.nextId x.nextBox
      ((x.calm.addBox.subscribe ⟨topic, .once, .box x.nextBox⟩).publish
        (.payload topic message)) = _
    rw [begun, await_calm]
    rfl
  | waiting id box => exact await_calm id box
  | finished => rfl

theorem drop_calm (call : Call) : call.drop x.calm = (call.drop x).calm := by
  cases call with
  | fresh topic message => rfl
  | waiting id box => exact (calm_unsubscribe id).symm
  | finished => rfl

end Call

namespace ReplyStream

theorem openOn_calm (topic : String) (message : Json) :
    openOn topic message x.calm = calmed (openOn topic message x) :=
  congrArg (·, (⟨x.registry.nextId, x.nextBox, false⟩ : ReplyStream))
    (converse_calm topic .persistent (.payload topic message))

theorem next_calm (s : ReplyStream) : s.next x.calm = calmed (s.next x) := by
  unfold next finish
  rw [show x.calm.box s.box = x.box s.box from rfl, contains_calm,
    show x.calm.isClosed = x.isClosed from rfl,
    show x.calm.unpost s.box = (x.unpost s.box).calm from rfl]
  split
  · rfl
  · split
    · split
      · simp only [calmed, calm_unsubscribe]
      · rfl
    · split
      · simp only [calmed, calm_unsubscribe]
      · rfl

theorem drain_calm (n : Nat) (s : ReplyStream) : drain n s x.calm = calmed (drain n s x) := by
  induction n generalizing s x with
  | zero => rfl
  | succ n ih =>
    have polled := s.next_calm (x := x)
    unfold drain
    rw [polled]
    rcases s.next x with ⟨y, t, result⟩
    cases result with
    | pending => rfl
    | ready found =>
      cases found with
      | none => rfl
      | some reply =>
        simp only [calmed, ih]

end ReplyStream

theorem Collecting.poll_calm (c : Collecting) : c.poll x.calm = calmed (c.poll x) := by
  have drained := c.stream.drain_calm (x := x) ((x.box c.stream.box).length + 1)
  unfold poll
  rw [show x.calm.box c.stream.box = x.box c.stream.box from rfl, drained]
  rfl

namespace Desk

def calm (desk : Desk ν σ) : Desk ν σ := ⟨desk.exchange.calm, desk.held⟩

theorem release_calm (conversation : Conversation) :
    release conversation x.calm = (release conversation x).calm := by
  cases conversation with
  | call call => exact call.drop_calm
  | stream stream => exact (calm_unsubscribe stream.id).symm
  | collecting collecting => exact (calm_unsubscribe collecting.stream.id).symm
  | collected => rfl

theorem drop_calm (desk : Desk ν σ) (name : String) :
    desk.calm.drop name = (desk.drop name).calm := by
  unfold drop
  rw [show desk.calm.find? name = desk.find? name from rfl]
  cases desk.find? name with
  | none => rfl
  | some conversation => exact congrArg (Desk.mk · (without name desk.held)) (release_calm _)

theorem replace_calm (desk : Desk ν σ) (name : String) (conversation : Conversation) :
    desk.calm.replace name conversation x.calm = (desk.replace name conversation x).calm :=
  congrArg (hold · name conversation) (drop_calm ⟨x, desk.held⟩ name)

theorem poll_calm (desk : Desk ν σ) (name : String) :
    desk.calm.poll name = ((desk.poll name).1.calm, (desk.poll name).2) := by
  unfold poll
  rw [show desk.calm.find? name = desk.find? name from rfl]
  split
  · rfl
  · rfl
  · rfl
  · rename_i call _ _
    have polled := call.poll_calm (x := desk.exchange)
    simp only [calm, polled]
    rfl
  · rename_i stream _
    have polled := stream.next_calm (x := desk.exchange)
    simp only [calm, polled]
    rfl
  · rename_i collecting _
    have polled := collecting.poll_calm (x := desk.exchange)
    rw [show desk.calm.exchange = desk.exchange.calm from rfl, polled]
    rcases collecting.poll desk.exchange with ⟨y, rest, result⟩
    cases result with
    | pending => rfl
    | ready replies =>
      simp only [calmed, ReplyStream.drop, ← calm_unsubscribe]
      rfl

end Desk

def Errand.calm : Errand ν → Errand ν
  | .run program => .run program.calm
  | errand => errand

theorem Desk.perform_calm (desk : Desk ν σ) (errand : Errand ν) :
    desk.calm.perform errand.calm = ((desk.perform errand).1.calm, (desk.perform errand).2) := by
  cases errand with
  | run program =>
    have executed : desk.calm.exchange.execute program.calm =
        ((desk.exchange.execute program).1.calm,
          some ((desk.exchange.execute program).2.getD .nothing)) := executeWith_calm _ program
    simp only [Errand.calm, perform, executed]
    rfl
  | call name topic message =>
    exact congrArg (·, Report.answer .nothing) (desk.replace_calm name _)
  | openStream name topic message =>
    have opened : ReplyStream.openOn topic message desk.calm.exchange =
        calmed (ReplyStream.openOn topic message desk.exchange) :=
      ReplyStream.openOn_calm topic message
    simp only [Errand.calm, perform, opened, calmed]
    exact congrArg (·, Report.answer (.issued desk.exchange.registry.nextId))
      (desk.replace_calm name _)
  | poll name => exact desk.poll_calm name
  | collect name =>
    simp only [Errand.calm, perform]
    rw [show desk.calm.find? name = desk.find? name from rfl]
    split
    · rfl
    · rfl
  | describe name =>
    simp only [Errand.calm, perform]
    rw [show desk.calm.find? name = desk.find? name from rfl]
    split
    · rfl
    · rfl
  | drop name =>
    exact congrArg (·, Report.answer (.flag (desk.find? name).isSome)) (desk.drop_calm name)

end Switchboard
