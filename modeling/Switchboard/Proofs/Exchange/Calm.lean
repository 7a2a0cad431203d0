import Switchboard.Proofs.Exchange.Account
import Switchboard.Proofs.Exchange.Pass
import Switchboard.Proofs.Registry.Map
/-!
Failures of callbacks. To calm a program is to let it return wherever it would fail; to calm an
exchange is to calm its callbacks and to keep no word of their failures. A calm exchange goes step
for step through the run of the other one.
-/

set_option autoImplicit false
set_option relaxedAutoImplicit false

namespace Switchboard

variable {ν σ : Type}

/-- The program that returns where this one fails, and so do the callbacks that it subscribes. -/
def Program.calm : Program ν → Program ν
  | .done answer => .done answer
  | .panic => .done .nothing
  | .note entry next => .note entry next.calm
  | .reread next => .reread fun notes => (next notes).calm
  | .print text next => .print text next.calm
  | .subscribe topic served owner run next =>
    .subscribe topic served owner (fun id reply => (run id reply).calm) fun id => (next id).calm
  | .unsubscribe id next => .unsubscribe id fun live => (next live).calm
  | .contains id next => .contains id fun live => (next live).calm
  | .delivery id next => .delivery id fun delivery => (next delivery).calm
  | .census next => .census fun size lastNumber => (next size lastNumber).calm
  | .topicCount topic next => .topicCount topic fun count => (next count).calm
  | .dispatch frame next => .dispatch frame fun count => (next count).calm
  | .route text next => .route text fun outcome => (next outcome).calm
  | .send topic message next => .send topic message next.calm
  | .request topic message run next =>
    .request topic message (fun id reply => (run id reply).calm) fun id => (next id).calm
  | .close next => .close next.calm

def Callback.calm : Callback ν → Callback ν
  | .program owner run => .program owner fun id reply => (run id reply).calm
  | .box number => .box number

@[simp] theorem Callback.isOwner_calm (callback : Callback ν) :
    callback.calm.isOwner = callback.isOwner := by
  cases callback <;> rfl

@[simp] theorem Callback.weight_calm (callback : Callback ν) :
    callback.calm.weight = callback.weight := by
  simp [weight]

def withoutPanics (journal : List Event) : List Event :=
  journal.filter fun
    | .panicked .. => false
    | _ => true

section Journal

variable {a b events : List Event}

@[simp] theorem withoutPanics_append :
    withoutPanics (a ++ b) = withoutPanics a ++ withoutPanics b := List.filter_append ..

theorem withoutPanics_eq_self (none : ∀ e ∈ events, ∀ id topic, e ≠ .panicked id topic) :
    withoutPanics events = events := by
  refine List.filter_eq_self.mpr fun e member => ?_
  cases e with
  | panicked id topic => exact absurd rfl (none _ member id topic)
  | _ => rfl

theorem withoutPanics_of_outward (outward : ∀ e ∈ events, e.isOutward = true) :
    withoutPanics events = events := by
  refine withoutPanics_eq_self fun e member id topic same => ?_
  have isOutward := outward e member
  rw [same] at isOutward
  cases isOutward

theorem outermostStarts_withoutPanics (events : List Event) :
    outermostStarts (withoutPanics events) = outermostStarts events := by
  have under : ∀ running, startsUnder running (withoutPanics events) =
      startsUnder running events := by
    induction events with
    | nil => exact fun _ => rfl
    | cons e rest ih =>
      intro running
      cases e with
      | started id reply =>
        rw [withoutPanics, List.filter_cons_of_pos rfl, startsUnder, startsUnder, ← withoutPanics,
          ih, ih]
      | finished id => exact ih (running - 1)
      | _ => exact ih running
  exact under 0

end Journal

namespace Exchange

/-- The exchange with calm callbacks and no word of failures. -/
def calm (x : Exchange ν σ) : Exchange ν σ :=
  { x with registry := x.registry.map Callback.calm, journal := withoutPanics x.journal }

variable {x : Exchange ν σ}

theorem calm_enter {events : List Event} (none : withoutPanics events = events) :
    (x.enter events).calm = x.calm.enter events := by
  simp only [enter, calm, withoutPanics_append, none]

theorem calm_subscribe (s : Subscription (Callback ν)) :
    (x.subscribe s).calm = x.calm.subscribe (s.map Callback.calm) := by
  simp only [subscribe, enter, calm, withoutPanics_append, Registry.map_insert]
  rfl

@[simp] theorem owners_calm : x.calm.owners = x.owners := by
  simp only [owners, calm, Registry.countP_map, Callback.isOwner_calm]

theorem calm_commence (callback : Callback ν) (id : SubscriptionId) (reply : Reply) :
    (x.commence callback id reply).calm = x.calm.commence callback.calm id reply := by
  simp only [commence, enter, calm, withoutPanics_append, Callback.weight_calm]
  rfl

theorem contains_calm (id : SubscriptionId) :
    x.calm.registry.contains id = x.registry.contains id := Registry.contains_map _

variable [Outlet σ]

theorem calm_disownFree : x.disownFree.calm = x.calm.disownFree := by
  unfold disownFree
  rw [owners_calm]
  split
  · exact calm_enter (withoutPanics_of_outward (Outlet.disown_outward x.outlet))
  · rfl

theorem calm_unsubscribe (id : SubscriptionId) :
    (x.unsubscribe id).calm = x.calm.unsubscribe id := by
  unfold unsubscribe
  rw [contains_calm]
  split
  · rw [calm_disownFree, calm_enter rfl]
    simp only [calm, Registry.map_erase]
  · rfl

/-- Nobody can tell by the end of a callback whether it failed, but for the word of it. -/
theorem calm_dismiss (callback : Callback ν) (id : SubscriptionId) (topic : String)
    (failed : Bool) :
    (x.dismiss callback id topic failed).calm = x.calm.dismiss callback.calm id topic false := by
  have ended : (if failed then (x.enter [.finished id]).enter [.panicked id topic]
      else x.enter [.finished id]).calm = x.calm.enter [.finished id] := by
    cases failed with
    | false => exact calm_enter rfl
    | true =>
      simp only [if_true, enter, calm, withoutPanics_append]
      simp [withoutPanics]
  have lighter : ∀ {y z : Exchange ν σ}, y.calm = z →
      ({ y with ownersRunning := y.ownersRunning - callback.weight } : Exchange ν σ).calm =
        { z with ownersRunning := z.ownersRunning - callback.calm.weight } := by
    rintro y _ rfl
    rw [Callback.weight_calm]
    rfl
  exact calm_disownFree.trans (congrArg disownFree (lighter ended))

theorem calm_emit (frame : Frame) :
    (x.emit frame).1.calm = (x.calm.emit frame).1 ∧ (x.emit frame).2 = (x.calm.emit frame).2 := by
  refine ⟨calm_enter ?_, rfl⟩
  refine withoutPanics_eq_self fun e member id topic same => ?_
  rcases List.mem_cons.mp member with published | told
  · cases same.symm.trans published
  · have outward := Outlet.publish_outward frame x.outlet e told
    rw [same] at outward
    cases outward

end Exchange

def Activity.calm : Activity ν → Activity ν
  | .running program => .running program.calm
  | .ended answer => .ended (some (answer.getD .nothing))
  | .serving frame rest invoked => .serving frame rest invoked
  | .served invoked => .served invoked
  | .returning frames => .returning frames

def Waiting.calm : Waiting ν → Waiting ν
  | .callback id invokes frame rest invoked => .callback id invokes.calm frame rest invoked
  | .dispatched next => .dispatched fun count => (next count).calm
  | .routed frame next => .routed frame fun outcome => (next outcome).calm
  | .returned rest => .returned rest
  | .published next => .published next.calm

namespace Machine

def calm (m : Machine ν σ) : Machine ν σ :=
  ⟨m.exchange.calm, m.depth, m.activity.calm, m.waiting.map Waiting.calm⟩

variable {x : Exchange ν σ} {depth : Nat} {waiting : List (Waiting ν)}

private theorem calm_beginPass (frame : Frame) :
    (beginPass x depth frame waiting).calm =
      beginPass x.calm depth frame (waiting.map Waiting.calm) := by
  cases depth with
  | zero => rfl
  | succ depth =>
    simp only [beginPass, calm, Exchange.calm, Registry.onTopic_map]
    rfl

private theorem calm_invoke (id : SubscriptionId) (reply : Reply) (callback : Callback ν) :
    (invoke x depth waiting id reply callback).calm =
      invoke x.calm depth (waiting.map Waiting.calm) id reply callback.calm := by
  cases callback <;> rfl

private theorem calm_serve (frame : Frame) (id : SubscriptionId) (rest : List SubscriptionId)
    (invoked : Nat) :
    (serve x depth waiting frame id rest invoked).calm =
      serve x.calm depth (waiting.map Waiting.calm) frame id rest invoked := by
  have taken : x.calm.registry.take id = (x.registry.take id).map fun handed =>
      (handed.1.map Callback.calm, handed.2.map Callback.calm) := Registry.take_map _
  unfold serve
  rw [taken]
  cases x.registry.take id with
  | none => rfl
  | some handed =>
    simp only [Option.map_some, calm_invoke, Exchange.calm_commence, List.map_cons]
    rfl

variable [Outlet σ]

private theorem calm_emit (frame : Frame) :
    (emit x depth frame waiting).calm = emit x.calm depth frame (waiting.map Waiting.calm) := by
  obtain ⟨same, returned⟩ := Exchange.calm_emit (x := x) frame
  simp only [emit, calm, same, returned]
  rfl

theorem calm_ask (program : Program ν) :
    (ask x depth waiting program).calm =
      ask x.calm depth (waiting.map Waiting.calm) program.calm := by
  have aside {y z : Exchange ν σ} (activity : Activity ν) (same : y.calm = z) :
      (Machine.mk y depth activity waiting).calm =
        ⟨z, depth, activity.calm, waiting.map Waiting.calm⟩ := by
    rw [← same]
    rfl
  cases program with
  | subscribe topic delivery owner run next => exact aside _ (Exchange.calm_subscribe _)
  | unsubscribe id next =>
    simp only [ask, Program.calm]
    rw [Exchange.contains_calm]
    exact aside _ (Exchange.calm_unsubscribe id)
  | contains id next =>
    simp only [ask, Program.calm, Exchange.calm, Registry.contains_map]
    rfl
  | delivery id next =>
    simp only [ask, Program.calm, Exchange.calm, Registry.delivery?_map]
    rfl
  | census next =>
    simp only [ask, Program.calm, Exchange.calm, Registry.size_map]
    rfl
  | topicCount topic next =>
    simp only [ask, Program.calm, Exchange.calm, Registry.topicCount_map]
    rfl
  | dispatch frame next => exact calm_beginPass frame
  | route text next =>
    simp only [ask, Program.calm]
    rw [show x.calm.policy = x.policy from rfl]
    cases Frame.parse x.policy text with
    | error e => exact aside _ (Exchange.calm_enter rfl)
    | ok frame => exact calm_beginPass frame
  | send topic message next =>
    simp only [ask, Program.calm]
    rw [show x.calm.outlet = x.outlet from rfl]
    split
    · exact calm_emit _
    · rfl
  | request topic message run next =>
    simp only [ask, Program.calm]
    rw [show x.calm.outlet = x.outlet from rfl]
    split
    · rw [calm_emit, Exchange.calm_subscribe]
      rfl
    · rfl
  | done | panic | note | reread | print | close => rfl

/-- A calm machine takes the same step. -/
theorem calm_advance (m : Machine ν σ) : m.advance.calm = m.calm.advance := by
  obtain ⟨x, depth, activity, waiting⟩ := m
  cases activity with
  | running program => exact calm_ask program
  | serving frame rest invoked =>
    cases rest with
    | nil => rfl
    | cons id rest => exact calm_serve frame id rest invoked
  | returning frames =>
    cases frames with
    | cons frame rest => exact calm_beginPass frame
    | nil =>
      cases waiting with
      | nil => rfl
      | cons w waiting => cases w <;> rfl
  | ended answer =>
    cases waiting with
    | nil => rfl
    | cons w waiting =>
      cases w with
      | callback id callback frame rest invoked =>
        have dismissed := Exchange.calm_dismiss (x := x) callback id frame.topic answer.isNone
        simp only [advance, calm, dismissed]
        rfl
      | _ => rfl
  | served invoked =>
    cases waiting with
    | nil => rfl
    | cons w waiting =>
      cases w with
      | routed frame next =>
        have told : withoutPanics [.routed frame invoked] = [.routed frame invoked] := by
          unfold Event.routed
          split <;> rfl
        simp only [advance, calm, Exchange.calm_enter told]
        rfl
      | _ => rfl

theorem Runs.calm {m n : Machine ν σ} (runs : Runs m n) : Runs m.calm n.calm := by
  induction runs with
  | refl => exact Relation.ReflTransGen.refl
  | @tail k l _ stepped ih =>
    subst stepped
    have calmly : k.advance.calm = k.calm.advance := calm_advance k
    exact ih.tail calmly

private theorem Runs.rest_unique {m n k : Machine ν σ} (first : Runs m n) (second : Runs m k)
    (rests : n.advance = n) (rests' : k.advance = k) : n = k := by
  have stays : ∀ {l l' : Machine ν σ}, Runs l l' → l.advance = l → l' = l := by
    intro l l' runs rest
    induction runs with
    | refl => rfl
    | tail _ stepped ih => rw [stepped, ih, rest]
  have unique : Relator.RightUnique fun l l' : Machine ν σ => l' = l.advance :=
    fun _ _ _ same same' => same.trans same'.symm
  rcases Relation.ReflTransGen.total_of_right_unique unique first second with later | later
  · exact (stays later rests).symm
  · exact stays later rests'

end Machine

namespace Exchange

variable [Outlet σ] {x : Exchange ν σ}

theorem executeWith_calm (depth : Nat) (program : Program ν) :
    executeWith (dispatchWithin depth) program.calm x.calm =
      ((executeWith (dispatchWithin depth) program x).1.calm,
        some ((executeWith (dispatchWithin depth) program x).2.getD .nothing)) := by
  have calmly := (Machine.Runs.execute depth program x []).calm
  have same := calmly.rest_unique (Machine.Runs.execute depth program.calm x.calm []) rfl rfl
  simp only [Machine.calm, Machine.mk.injEq, Activity.calm, Activity.ended.injEq] at same
  exact Prod.ext same.1.symm same.2.2.1.symm

theorem dispatchWithin_calm (depth : Nat) (frame : Frame) :
    dispatchWithin depth frame x.calm =
      ((dispatchWithin depth frame x).1.calm, (dispatchWithin depth frame x).2) := by
  have asked := executeWith_calm (x := x) depth (.dispatch frame fun count => .done (.count count))
  simp only [Program.calm, executeWith, Prod.mk.injEq, Option.getD_some, Option.some.injEq,
    Answer.count.injEq] at asked
  exact Prod.ext asked.1 asked.2

theorem publishWith_calm (depth : Nat) (frame : Frame) :
    publishWith (dispatchWithin depth) frame x.calm =
      (publishWith (dispatchWithin depth) frame x).calm := by
  have returned : ∀ (frames : List Frame) (x : Exchange ν σ),
      frames.foldl (fun x back => (dispatchWithin depth back x).1) x.calm =
        (frames.foldl (fun x back => (dispatchWithin depth back x).1) x).calm := by
    intro frames
    induction frames with
    | nil => exact fun _ => rfl
    | cons back rest ih =>
      intro x
      rw [List.foldl_cons, List.foldl_cons, dispatchWithin_calm, ih]
  obtain ⟨same, back⟩ := calm_emit (x := x) frame
  simp only [publishWith, ← same, ← back]
  exact returned _ _

end Exchange

end Switchboard
