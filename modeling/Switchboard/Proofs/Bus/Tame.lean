import Switchboard.Bus.Basic
import Switchboard.Proofs.Connection.Stride
import Switchboard.Proofs.Conversation.Moves
import Switchboard.Proofs.Exchange.Offers
import Switchboard.Proofs.Exchange.Pass
/-!
Buses on which dispatching is left to the line. Publishing on a bus brings nothing back, so where no
program dispatches by itself a running callback starts no other one: a pass starts the callbacks of
those it serves, once each, and nothing else ever starts any.
-/

set_option autoImplicit false
set_option relaxedAutoImplicit false

namespace Switchboard

variable {ν : Type}

/-- A program that leaves dispatching to others, as do the callbacks that it subscribes. -/
def Program.IsTame : Program ν → Prop
  | .done _ | .panic => True
  | .note _ next | .print _ next | .send _ _ next | .close next => next.IsTame
  | .reread next => ∀ notes, (next notes).IsTame
  | .subscribe _ _ _ run next => (∀ id reply, (run id reply).IsTame) ∧ ∀ id, (next id).IsTame
  | .unsubscribe _ next | .contains _ next => ∀ live, (next live).IsTame
  | .delivery _ next => ∀ delivery, (next delivery).IsTame
  | .census next => ∀ size lastNumber, (next size lastNumber).IsTame
  | .topicCount _ next => ∀ count, (next count).IsTame
  | .dispatch .. | .route .. => False
  | .request _ _ run next => (∀ id reply, (run id reply).IsTame) ∧ ∀ id, (next id).IsTame

/-- A tame callback; that of a conversation only fills its box. -/
def Callback.IsTame : Callback ν → Prop
  | .program _ run => ∀ id reply, (run id reply).IsTame
  | .box _ => True

namespace Bus

open Exchange

def IsTame (b : Bus ν) : Prop := ∀ id s, b.registry.get? id = some s → s.callback.IsTame

/-- What a stretch of a run leaves as it is, and the replies with which it starts the callback of
each subscription. -/
structure Tells (told : SubscriptionId → List Reply) (b c : Bus ν) : Prop where
  policy : c.policy = b.policy
  nesting : c.nesting = b.nesting
  setup : c.line.setup = b.line.setup
  tame : b.IsTame → c.IsTame
  replies : ∀ id, repliesTo id c.journal = repliesTo id b.journal ++ told id

structure Hands (told : SubscriptionId → List Reply) (b c : Bus ν) : Prop extends
    Tells told b c where
  phase : c.line.phase = b.line.phase

section Stretches

variable {told told' : SubscriptionId → List Reply} {b c d : Bus ν}

theorem Tells.trans (first : Tells told b c) (later : Tells told' c d) :
    Tells (fun id => told id ++ told' id) b d where
  policy := later.policy.trans first.policy
  nesting := later.nesting.trans first.nesting
  setup := later.setup.trans first.setup
  tame := later.tame ∘ first.tame
  replies id := by rw [later.replies, first.replies, List.append_assoc]

theorem Tells.before (first : Tells nothing b c) (later : Tells told c d) : Tells told b d :=
  first.trans later

theorem Tells.line (b : Bus ν) (outlet : Trunk) {events : List Event}
    (setup : outlet.line.setup = b.line.setup) (outward : ∀ e ∈ events, e.isOutward = true) :
    Tells nothing b ({ b with outlet }.enter events) where
  policy := rfl
  nesting := rfl
  setup := setup
  tame := id
  replies id := by
    have none : repliesTo id events = [] :=
      repliesTo_quiet fun e member => Event.isQuiet_of_isOutward (outward e member)
    change repliesTo id (b.journal ++ events) = _
    rw [repliesTo_append, none]
    rfl

theorem signal_tells (b : Bus ν) (s : Signal) : Tells nothing b (b.signal s) :=
  .line b _ (b.line.step_setup s) (b.line.step_outward s)

theorem signal_hands (b : Bus ν) {s : Signal} (steady : s.isSteady = true) :
    Hands nothing b (b.signal s) :=
  ⟨b.signal_tells s, b.line.step_phase steady⟩

/-- What is done to a bus from within leaves its line in its phase, also where the bus is given up,
of which the line has yet to learn. -/
theorem used_keeps {s t : Trunk} (used : Outlet.Used s t) :
    t.line.setup = s.line.setup ∧ t.line.phase = s.line.phase := by
  cases used with
  | publish frame =>
    have steady : (Signal.defer 0 frame.toText).isSteady = true := rfl
    exact ⟨s.line.step_setup (.defer 0 frame.toText), s.line.step_phase steady⟩
  | close =>
    have steady : Signal.close.isSteady = true := rfl
    exact ⟨s.line.step_setup .close, s.line.step_phase steady⟩
  | disown =>
    change s.expire.1.line.setup = s.line.setup ∧ s.expire.1.line.phase = s.line.phase
    unfold Trunk.expire
    split
    · simp only [Line.run]
      constructor
      · rw [Line.step_setup, Line.step_setup, Line.step_setup]
      · rw [Line.step_phase _ rfl, Line.step_phase _ rfl, Line.step_phase _ rfl]
    · exact ⟨rfl, rfl⟩

theorem allUsed_keeps {s t : Trunk} (used : Relation.ReflTransGen Outlet.Used s t) :
    t.line.setup = s.line.setup ∧ t.line.phase = s.line.phase := by
  induction used with
  | refl => exact ⟨rfl, rfl⟩
  | tail _ last ih =>
    obtain ⟨setup, phase⟩ := used_keeps last
    exact ⟨setup.trans ih.1, phase.trans ih.2⟩

theorem isSteady : Outlet.IsSteady Trunk := by
  intro s t used
  change decide (t.line.phase = .closed) = decide (s.line.phase = .closed)
  rw [(used_keeps used).2]

theorem telling : Telling (Hands : _ → Bus ν → Bus ν → Prop) where
  trans first later := ⟨first.toTells.trans later.toTells, later.phase.trans first.phase⟩
  spared policy nesting used registry journal none :=
    { policy, nesting
      setup := (allUsed_keeps used).1
      tame := fun tame id s found => tame id s (registry ▸ found)
      replies := fun id => by rw [journal, repliesTo_append, none]; rfl
      phase := (allUsed_keeps used).2 }
  begins {b id s rest} reply taken :=
    { policy := rfl
      nesting := rfl
      setup := rfl
      tame := fun tame other t found => tame other t (Registry.get?_of_take taken found)
      replies := fun other => by
        change repliesTo other (b.journal ++ [.started id reply]) = _
        rw [repliesTo_append, repliesTo_started]
        simp only [toEach, List.mem_singleton, eq_comm]
      phase := rfl }

end Stretches

section Operations

variable (b : Bus ν)

theorem unsubscribe_hands (id : SubscriptionId) : Hands nothing b (b.unsubscribe id) := by
  unfold unsubscribe
  split
  · have erased : Hands nothing b
        ({ b with registry := b.registry.erase id }.enter [.unsubscribed id]) :=
      { policy := rfl
        nesting := rfl
        setup := rfl
        tame := fun tame other s found => tame other s (Registry.get?_of_erase found).1
        replies := fun other => repliesTo_append
        phase := rfl }
    exact telling.before erased (telling.disownFree _)
  · exact telling.refl b

theorem subscribe_hands (topic : String) (delivery : Delivery) (callback : Callback ν)
    (tame : callback.IsTame) : Hands nothing b (b.subscribe ⟨topic, delivery, callback⟩) where
  policy := rfl
  nesting := rfl
  setup := rfl
  tame := by
    intro all id s found
    change (b.registry.insert _).get? id = some s at found
    rw [Registry.get?_insert] at found
    split at found
    · cases found
      exact tame
    · exact all id s found
  replies id := repliesTo_append
  phase := rfl

theorem publishWith_hands (dispatcher : Dispatcher ν Trunk) (frame : Frame) :
    Hands nothing b (publishWith dispatcher frame b) :=
  telling.publishWith dispatcher rfl

/-- A tame program starts no callback, however dispatches are made. -/
theorem permits_tame (dispatcher : Dispatcher ν Trunk) :
    Permits dispatcher Program.IsTame (Hands nothing : Bus ν → Bus ν → Prop) where
  next tame next := by
    cases next with
    | note | print | send | close => exact tame
    | reread | unsubscribe | contains | delivery | topicCount => exact tame _
    | census => exact tame _ _
    | subscribe | request => exact tame.2 _
    | dispatch | route => cases tame
  refl := telling.refl
  trans := telling.before
  note _ _ := telling.aside rfl rfl rfl rfl rfl
  print _ _ := telling.aside rfl rfl rfl rfl rfl
  close := telling.close
  subscribe {topic delivery owner run _} tame b :=
    subscribe_hands b topic delivery (.program owner run) tame.1
  unsubscribe _ b := unsubscribe_hands b _
  dispatch tame := by cases tame
  route tame := by cases tame
  send _ b := publishWith_hands b dispatcher _
  request {topic _ run _} tame b :=
    telling.before (subscribe_hands b topic .once (.program false run) tame.1)
      (publishWith_hands _ dispatcher _)

theorem unnested_tame (dispatcher : Dispatcher ν Trunk) :
    Unnested dispatcher IsTame (Hands : _ → Bus ν → Bus ν → Prop) where
  toTelling := telling
  keeps tame hands := hands.tame tame
  calls {b c id s} reply tame found _ := by
    have own := tame id s found
    cases kind : s.callback with
    | program owner run =>
      rw [kind] at own
      exact (permits_tame dispatcher).executeWith (own id reply) c
    | box number => exact telling.aside rfl rfl rfl rfl rfl

variable {b}

/-- A dispatch starts the callbacks of those that it serves, once each. -/
theorem dispatchWithin_hands (tame : b.IsTame) {depth : Nat} {frame : Frame} {events : List Event}
    {served : List SubscriptionId} (serves : ServesLive depth frame b events served) :
    Hands (toEach served frame.reply) b (dispatchWithin (depth + 1) frame b).1 := by
  rw [serves.served_eq]
  exact (unnested_tame (dispatchWithin depth)).passWith tame frame
    (b.registry.onTopic_nodup frame.topic)

end Operations

end Bus

end Switchboard
