import Switchboard.Proofs.Bus.Delivery
/-!
Arrivals. As long as nobody removes a subscription, the frames on its topic that arrive while it is
live are those that its callback is started with.
-/

set_option autoImplicit false
set_option relaxedAutoImplicit false

namespace Switchboard

variable {ν : Type}

namespace Exchange

variable {σ : Type} [Outlet σ] {x : Exchange ν σ} {id : SubscriptionId}

/-- A live subscription that a dispatch neither serves nor lets be removed stays for its turn. -/
theorem staysFor_of_unserved (accounted : x.IsAccounted) {depth : Nat}
    (deep : x.nesting = depth + 1) (frame : Frame) (live : x.registry.contains id = true)
    (unserved : repliesTo id (x.dispatch frame).1.journal = repliesTo id x.journal)
    (spared : .unsubscribed id ∉ (x.dispatch frame).1.journal) : x.staysFor frame id = true := by
  have each : ∀ P : Exchange ν σ → Prop, Invariant.Lasting P → ∀ ids (z : Exchange ν σ), P z →
      P (passWith (dispatchWithin depth) frame ids z).1 := fun P lasting ids z =>
    lasting.toInvariant.conduct.passWith (lasting.toInvariant.conduct.dispatchWithin depth) frame
      ids z
  have split : ∀ place, (x.dispatch frame).1 = (passWith (dispatchWithin depth) frame
      ((x.registry.onTopic frame.topic).drop place) (atTurn depth frame x place)).1 := by
    intro place
    have parts := passWith_append (dispatchWithin depth) frame
      ((x.registry.onTopic frame.topic).take place)
      ((x.registry.onTopic frame.topic).drop place) x
    rw [List.take_append_drop] at parts
    rw [dispatch, deep, dispatchWithin, parts]
    rfl
  generalize isPlace : (x.registry.onTopic frame.topic).idxOf id = place
  have before : x.journal <+: (atTurn depth frame x place).journal :=
    each _ (journal_lasting x.journal) _ x List.prefix_rfl
  have behind : (atTurn depth frame x place).journal <+: (x.dispatch frame).1.journal := by
    rw [split place]
    exact each _ (journal_lasting _) _ _ List.prefix_rfl
  -- what is between two journals that tell the same replies tells them too
  have unservedYet : repliesTo id (atTurn depth frame x place).journal =
      repliesTo id x.journal := by
    have first : repliesTo id x.journal <+: repliesTo id (atTurn depth frame x place).journal :=
      before.filterMap _
    have later : repliesTo id (atTurn depth frame x place).journal <+:
        repliesTo id (x.dispatch frame).1.journal := behind.filterMap _
    rw [unserved] at later
    exact (first.eq_of_length_le later.length_le).symm
  have atItsTurn := contains_of_unremoved accounted (each _ isAccounted_lasting _ x accounted)
    before unservedYet live fun removed => spared (behind.subset removed)
  rw [staysFor, deep, Nat.add_sub_cancel, isPlace, live]
  exact atItsTurn

end Exchange

namespace Bus

open Exchange

/-- The reply in the frame on a topic that arrives: the line is open and reads a text that is such a
frame. -/
def arriving (policy : Policy) (topic : String) (b : Bus ν) : Act ν → List Reply
  | .receive message =>
    match b.line.phase, message.text? with
    | .open, some text =>
      match Frame.parse policy text with
      | .ok frame => if frame.topic = topic then [frame.reply] else []
      | .error _ => []
    | _, _ => []
  | _ => []

section Arrivals

variable {policy : Policy} {b : Bus ν} {act : Act ν} {id : SubscriptionId} {topic : String}
  {delivery : Delivery}

theorem arriving_cases (policy : Policy) (topic : String) (b : Bus ν) (act : Act ν) :
    b.arriving policy topic act = [] ∨ ∃ message text frame, act = .receive message ∧
      b.line.phase = .open ∧ message.text? = some text ∧ Frame.parse policy text = .ok frame ∧
      frame.topic = topic ∧ b.arriving policy topic act = [frame.reply] := by
  cases act with
  | receive message =>
    simp only [arriving]
    split
    · rename_i text isOpen carries
      cases parsed : Frame.parse policy text with
      | error e => exact .inl rfl
      | ok frame =>
        by_cases same : frame.topic = topic
        · exact .inr ⟨message, text, frame, rfl, isOpen, carries, parsed, same, if_pos same⟩
        · exact .inl (if_neg same)
    · exact .inl rfl
  | _ => exact .inl rfl

private theorem brings_of_nothing {message : Message}
    (nothing : b.arriving policy topic (.receive message) = []) :
    b.brings policy topic id message = [] := by
  simp only [arriving, brings] at nothing ⊢
  split
  · rename_i text isOpen carries
    simp only [isOpen, carries] at nothing
    cases parsed : Frame.parse policy text with
    | error e => rfl
    | ok frame =>
      have foreign : frame.topic ≠ topic := by
        rintro same
        simp [parsed, same] at nothing
      exact if_neg fun stays => foreign stays.1
  · rfl

private theorem staysFor_of_spared (setUp : b.IsSetUp policy) (accounted : b.IsAccounted)
    {message : Message} {text : String} {frame : Frame} (isOpen : b.line.phase = .open)
    (carries : message.text? = some text) (parsed : Frame.parse policy text = .ok frame)
    (live : b.registry.contains id = true)
    (spared : .unsubscribed id ∉ (b.receive message).journal)
    (unserved : repliesTo id (b.receive message).journal = repliesTo id b.journal) :
    (b.signal (.received message)).staysFor frame id = true := by
  have read := b.signal_tells (.received message)
  have readAccounted : (b.signal (.received message)).IsAccounted :=
    b.signal_moves (.received message) _ isAccounted_lasting accounted
  have readUnserved : repliesTo id (b.signal (.received message)).journal =
      repliesTo id b.journal := (read.replies id).trans (List.append_nil _)
  have deep : (b.signal (.received message)).nesting = 9999 + 1 := read.nesting.trans setUp.nesting
  have handled : b.receive message = ((b.signal (.received message)).dispatch frame).1.enter
      [.routed frame ((b.signal (.received message)).dispatch frame).2] := by
    have received := b.receive_received message
    generalize b.receive message = c at received ⊢
    cases received with
    | read unheard =>
      rcases unheard with unopened | untold | handler
      · exact absurd isOpen unopened
      · rw [carries] at untold
        cases untold
      · rw [setUp.handler] at handler
        cases handler
    | malformed text' error _ carries' parsed' =>
      cases carries.symm.trans carries'
      rw [setUp.policy, parsed] at parsed'
      cases parsed'
    | routed text' frame' _ carries' parsed' =>
      cases carries.symm.trans carries'
      rw [setUp.policy, parsed] at parsed'
      cases parsed'
      rfl
  rw [handled] at spared unserved
  refine staysFor_of_unserved readAccounted deep frame live ?_ fun removed =>
    spared (List.mem_append_left _ removed)
  have told : repliesTo id [Event.routed frame ((b.signal (.received message)).dispatch frame).2] =
      [] := repliesTo_quiet (by simp [Event.isQuiet_routed])
  rw [readUnserved, ← unserved, enter, repliesTo_append, told, List.append_nil]

theorem apply_arriving (setUp : b.IsSetUp policy) (accounted : b.IsAccounted) (tame : act.IsTame)
    (made : .subscribed id topic delivery ∈ b.journal)
    (spared : .unsubscribed id ∉ (act.apply b).journal) :
    repliesTo id (act.apply b).journal = repliesTo id b.journal ++
      if b.registry.contains id then b.arriving policy topic act else [] := by
  obtain ⟨told, tells, brings⟩ := apply_brings setUp accounted tame
  have replies := tells.replies id
  rw [brings id topic fun _ _ made' => (accounted.unique made' made).1] at replies
  rcases arriving_cases policy topic b act with
    nothing | ⟨message, text, frame, rfl, isOpen, carries, parsed, onTopic, arrives⟩
  · have unbrought : b.bringsBy policy topic id act = [] := by
      cases act with
      | receive message => exact brings_of_nothing nothing
      | _ => rfl
    rw [replies, unbrought, nothing, ite_self]
  · have brought : b.bringsBy policy topic id (.receive message) =
        if (b.signal (.received message)).staysFor frame id = true then [frame.reply] else [] := by
      simp [bringsBy, Bus.brings, isOpen, carries, parsed, onTopic]
    rw [brought] at replies
    rw [replies, arrives]
    congr 1
    by_cases live : b.registry.contains id = true
    · rw [if_pos live]
      split
      · rfl
      · rename_i leaves
        rw [if_neg leaves, List.append_nil] at replies
        exact absurd (staysFor_of_spared setUp accounted isOpen carries parsed live spared replies)
          leaves
    · have leaves : (b.signal (.received message)).staysFor frame id = false := by
        have dead : (b.signal (.received message)).registry.contains id = false :=
          Bool.eq_false_iff.mpr live
        rw [staysFor, dead, Bool.false_and]
      simp [live, leaves]

theorem apply_heard (setUp : b.IsSetUp policy) (accounted : b.IsAccounted) (tame : act.IsTame)
    (made : .subscribed id topic delivery ∈ b.journal)
    (spared : .unsubscribed id ∉ (act.apply b).journal)
    (waits : delivery = .once → repliesTo id b.journal = []) :
    repliesTo id (act.apply b).journal =
      repliesTo id b.journal ++ b.arriving policy topic act := by
  have grown : b.journal <+: (act.apply b).journal :=
    b.apply_moves act _ (journal_lasting b.journal) List.prefix_rfl
  have live : b.registry.contains id = true :=
    (accounted.contains_iff made).mpr ⟨fun removed => spared (grown.subset removed), waits⟩
  rw [apply_arriving setUp accounted tame made spared, if_pos live]

end Arrivals

end Bus

end Switchboard
