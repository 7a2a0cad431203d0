import Mathlib.Logic.Relation
import Switchboard.Proofs.Exchange.Conduct
/-!
Runs of an exchange step by step. A machine keeps what waits for the present activity on a stack, so
every point of a run can be looked at, those in the middle of callbacks included. Run to its end,
each activity leaves the exchange that the functions of the exchange yield.
-/

set_option autoImplicit false
set_option relaxedAutoImplicit false

namespace Switchboard

inductive Activity (ν : Type)
  | running (program : Program ν)
  /-- A program has come to its end; it has no answer when it failed. -/
  | ended (answer : Option Answer)
  /-- A pass: who is still to be served, and how many have been. -/
  | serving (frame : Frame) (rest : List SubscriptionId) (invoked : Nat)
  | served (invoked : Nat)
  | returning (frames : List Frame)

inductive Waiting (ν : Type)
  /-- A pass, for the callback that it invoked. -/
  | callback (id : SubscriptionId) (callback : Callback ν) (frame : Frame)
      (rest : List SubscriptionId) (invoked : Nat)
  | dispatched (next : Nat → Program ν)
  | routed (frame : Frame) (next : RouteOutcome → Program ν)
  | returned (rest : List Frame)
  /-- A program, for a publication. -/
  | published (next : Program ν)

structure Machine (ν σ : Type) where
  exchange : Exchange ν σ
  /-- How much deeper dispatches may nest. -/
  depth : Nat
  activity : Activity ν
  waiting : List (Waiting ν)

namespace Machine

variable {ν σ : Type}

def beginPass (x : Exchange ν σ) (depth : Nat) (frame : Frame) (waiting : List (Waiting ν)) :
    Machine ν σ :=
  match depth with
  | 0 => ⟨{ x with overrun := true }, 0, .served 0, waiting⟩
  | depth + 1 => ⟨x, depth, .serving frame (x.registry.onTopic frame.topic) 0, waiting⟩

variable [Outlet σ]

def emit (x : Exchange ν σ) (depth : Nat) (frame : Frame) (waiting : List (Waiting ν)) :
    Machine ν σ :=
  ⟨(x.emit frame).1, depth, .returning (x.emit frame).2, waiting⟩

def ask (x : Exchange ν σ) (depth : Nat) (waiting : List (Waiting ν)) : Program ν → Machine ν σ
  | .done answer => ⟨x, depth, .ended (some answer), waiting⟩
  | .panic => ⟨x, depth, .ended none, waiting⟩
  | .note entry next => ⟨x.note entry, depth, .running next, waiting⟩
  | .reread next => ⟨x, depth, .running (next x.notes), waiting⟩
  | .print text next => ⟨x.print text, depth, .running next, waiting⟩
  | .subscribe topic delivery owner run next =>
    ⟨x.subscribe ⟨topic, delivery, .program owner run⟩, depth, .running (next x.registry.nextId),
      waiting⟩
  | .unsubscribe id next =>
    ⟨x.unsubscribe id, depth, .running (next (x.registry.contains id)), waiting⟩
  | .contains id next => ⟨x, depth, .running (next (x.registry.contains id)), waiting⟩
  | .delivery id next => ⟨x, depth, .running (next (x.registry.delivery? id)), waiting⟩
  | .census next => ⟨x, depth, .running (next x.registry.size x.registry.lastNumber), waiting⟩
  | .topicCount topic next => ⟨x, depth, .running (next (x.registry.topicCount topic)), waiting⟩
  | .dispatch frame next => beginPass x depth frame (.dispatched next :: waiting)
  | .route text next =>
    match Frame.parse x.policy text with
    | .error e => ⟨x.enter [.malformed e text], depth, .running (next .malformed), waiting⟩
    | .ok frame => beginPass x depth frame (.routed frame next :: waiting)
  | .send topic message next =>
    if Outlet.isReachable x.outlet then
      emit x depth (.payload topic message) (.published next :: waiting)
    else ⟨x, depth, .running next, waiting⟩
  | .request topic message run next =>
    if Outlet.isReachable x.outlet then
      emit (x.subscribe ⟨topic, .once, .program false run⟩) depth (.payload topic message)
        (.published (next (some x.registry.nextId)) :: waiting)
    else ⟨x, depth, .running (next none), waiting⟩
  | .close next => ⟨x.close, depth, .running next, waiting⟩

def invoke (x : Exchange ν σ) (depth : Nat) (waiting : List (Waiting ν)) (id : SubscriptionId)
    (reply : Reply) : Callback ν → Machine ν σ
  | .program _ run => ⟨x, depth, .running (run id reply), waiting⟩
  | .box number => ⟨x.post number reply, depth, .ended (some .nothing), waiting⟩

def serve (x : Exchange ν σ) (depth : Nat) (waiting : List (Waiting ν)) (frame : Frame)
    (id : SubscriptionId) (rest : List SubscriptionId) (invoked : Nat) : Machine ν σ :=
  match x.registry.take id with
  | none => ⟨x, depth, .serving frame rest invoked, waiting⟩
  | some (s, registry) =>
    invoke ({ x with registry }.commence s.callback id frame.reply) depth
      (.callback id s.callback frame rest invoked :: waiting) id frame.reply s.callback

/-- One step. A machine that is at rest stays as it is. -/
def advance : Machine ν σ → Machine ν σ
  | ⟨x, depth, .running program, waiting⟩ => ask x depth waiting program
  | ⟨x, depth, .serving frame (id :: rest) invoked, waiting⟩ =>
    serve x depth waiting frame id rest invoked
  | ⟨x, depth, .serving _ [] invoked, waiting⟩ => ⟨x, depth + 1, .served invoked, waiting⟩
  | ⟨x, depth, .returning (frame :: rest), waiting⟩ =>
    beginPass x depth frame (.returned rest :: waiting)
  | ⟨x, depth, .ended answer, .callback id callback frame rest invoked :: waiting⟩ =>
    ⟨x.dismiss callback id frame.topic answer.isNone, depth, .serving frame rest (invoked + 1),
      waiting⟩
  | ⟨x, depth, .served invoked, .dispatched next :: waiting⟩ =>
    ⟨x, depth, .running (next invoked), waiting⟩
  | ⟨x, depth, .served invoked, .routed frame next :: waiting⟩ =>
    ⟨x.enter [.routed frame invoked], depth, .running (next (.ofCount invoked)), waiting⟩
  | ⟨x, depth, .served _, .returned rest :: waiting⟩ => ⟨x, depth, .returning rest, waiting⟩
  | ⟨x, depth, .returning [], .published next :: waiting⟩ => ⟨x, depth, .running next, waiting⟩
  | m => m

/-- A machine comes to a point by itself. -/
def Runs : Machine ν σ → Machine ν σ → Prop :=
  Relation.ReflTransGen fun m n => n = m.advance

namespace Runs

variable {depth : Nat}

private theorem refl (m : Machine ν σ) : Runs m m := Relation.ReflTransGen.refl

private theorem step {m n : Machine ν σ} (later : Runs m.advance n) : Runs m n :=
  Relation.ReflTransGen.head rfl later

private theorem trans {l m n : Machine ν σ} (first : Runs l m) (later : Runs m n) : Runs l n :=
  Relation.ReflTransGen.trans first later

/-- Dispatches at a depth run to their ends, whatever waits for them. -/
private def Dispatches (ν σ : Type) [Outlet σ] (depth : Nat) : Prop :=
  ∀ (frame : Frame) (x : Exchange ν σ) (waiting : List (Waiting ν)),
    Runs (beginPass x depth frame waiting)
      ⟨(Exchange.dispatchWithin depth frame x).1, depth,
        .served (Exchange.dispatchWithin depth frame x).2, waiting⟩

private theorem returning (each : Dispatches ν σ depth) (frames : List Frame) (x : Exchange ν σ)
    (waiting : List (Waiting ν)) :
    Runs ⟨x, depth, .returning frames, waiting⟩
      ⟨frames.foldl (fun x back => (Exchange.dispatchWithin depth back x).1) x, depth,
        .returning [], waiting⟩ := by
  induction frames generalizing x with
  | nil => exact refl _
  | cons frame rest ih =>
    refine step (trans (each frame x (.returned rest :: waiting)) (step ?_))
    exact ih _

private theorem publishing (each : Dispatches ν σ depth) (frame : Frame) (x : Exchange ν σ)
    (next : Program ν) (waiting : List (Waiting ν)) :
    Runs (emit x depth frame (.published next :: waiting))
      ⟨Exchange.publishWith (Exchange.dispatchWithin depth) frame x, depth, .running next,
        waiting⟩ := by
  refine trans (returning each _ _ _) (step ?_)
  exact refl _

private theorem executing (each : Dispatches ν σ depth) (program : Program ν) (x : Exchange ν σ)
    (waiting : List (Waiting ν)) :
    Runs ⟨x, depth, .running program, waiting⟩
      ⟨(Exchange.executeWith (Exchange.dispatchWithin depth) program x).1, depth,
        .ended (Exchange.executeWith (Exchange.dispatchWithin depth) program x).2, waiting⟩ := by
  induction program generalizing x with
  | done answer => exact step (refl _)
  | panic => exact step (refl _)
  | note entry next ih => exact step (ih _)
  | reread next ih => exact step (ih _ _)
  | print text next ih => exact step (ih _)
  | subscribe topic delivery owner run next _ ih => exact step (ih _ _)
  | unsubscribe id next ih => exact step (ih _ _)
  | contains id next ih => exact step (ih _ _)
  | delivery id next ih => exact step (ih _ _)
  | census next ih => exact step (ih _ _ _)
  | topicCount topic next ih => exact step (ih _ _)
  | dispatch frame next ih =>
    refine step (trans (each frame x (.dispatched next :: waiting)) (step ?_))
    exact ih _ _
  | route text next ih =>
    apply step
    cases parsed : Frame.parse x.policy text with
    | error e =>
      simp only [advance, ask, Exchange.executeWith, Exchange.routeWith, parsed]
      exact ih _ _
    | ok frame =>
      simp only [advance, ask, Exchange.executeWith, Exchange.routeWith, parsed]
      refine trans (each frame x (.routed frame next :: waiting)) (step ?_)
      exact ih _ _
  | send topic message next ih =>
    apply step
    simp only [advance, ask, Exchange.executeWith]
    split
    · exact trans (publishing each _ x next waiting) (ih _)
    · exact ih x
  | request topic message run next _ ih =>
    apply step
    simp only [advance, ask, Exchange.executeWith]
    split
    · exact trans (publishing each _ _ _ waiting) (ih _ _)
    · exact ih _ x
  | close next ih => exact step (ih _)

private theorem calling (each : Dispatches ν σ depth) (frame : Frame) (id : SubscriptionId)
    (callback : Callback ν) (x : Exchange ν σ) (rest : List SubscriptionId) (invoked : Nat)
    (waiting : List (Waiting ν)) :
    Runs (invoke (x.commence callback id frame.reply) depth
        (.callback id callback frame rest invoked :: waiting) id frame.reply callback)
      ⟨Exchange.serveWith (Exchange.dispatchWithin depth) frame id callback x, depth,
        .serving frame rest (invoked + 1), waiting⟩ := by
  cases callback with
  | program owner run => exact trans (executing each _ _ _) (step (refl _))
  | box number => exact step (refl _)

private theorem serving (each : Dispatches ν σ depth) (frame : Frame) (ids : List SubscriptionId)
    (invoked : Nat) (x : Exchange ν σ) (waiting : List (Waiting ν)) :
    Runs ⟨x, depth, .serving frame ids invoked, waiting⟩
      ⟨(Exchange.passWith (Exchange.dispatchWithin depth) frame ids x).1, depth, .serving frame []
        (invoked + (Exchange.passWith (Exchange.dispatchWithin depth) frame ids x).2.length),
        waiting⟩ := by
  induction ids generalizing x invoked with
  | nil => exact refl _
  | cons id rest ih =>
    apply step
    cases taken : x.registry.take id with
    | none =>
      simp only [advance, serve, Exchange.passWith, taken]
      exact ih _ _
    | some handed =>
      obtain ⟨s, registry⟩ := handed
      simp only [advance, serve, Exchange.passWith, taken, List.length_cons]
      refine trans (calling each frame id s.callback { x with registry } rest invoked waiting) ?_
      have later := ih (invoked + 1)
        (Exchange.serveWith (Exchange.dispatchWithin depth) frame id s.callback { x with registry })
      rwa [Nat.add_assoc, Nat.add_comm 1] at later

private theorem dispatches (depth : Nat) : Dispatches ν σ depth := by
  induction depth with
  | zero =>
    intro frame x waiting
    exact refl _
  | succ depth ih =>
    intro frame x waiting
    have pass := serving ih frame (x.registry.onTopic frame.topic) 0 x waiting
    rw [Nat.zero_add] at pass
    exact trans pass (step (refl _))

/-- A machine that serves a list comes to the end of the pass, and whatever waits goes on. -/
theorem pass (depth : Nat) (frame : Frame) (ids : List SubscriptionId) (invoked : Nat)
    (x : Exchange ν σ) (waiting : List (Waiting ν)) :
    Runs ⟨x, depth, .serving frame ids invoked, waiting⟩
      ⟨(Exchange.passWith (Exchange.dispatchWithin depth) frame ids x).1, depth + 1,
        .served (invoked +
          (Exchange.passWith (Exchange.dispatchWithin depth) frame ids x).2.length), waiting⟩ :=
  trans (serving (dispatches depth) frame ids invoked x waiting) (step (refl _))

/-- A machine that runs a program comes to the end that the exchange tells. -/
theorem execute (depth : Nat) (program : Program ν) (x : Exchange ν σ)
    (waiting : List (Waiting ν)) :
    Runs ⟨x, depth, .running program, waiting⟩
      ⟨(Exchange.executeWith (Exchange.dispatchWithin depth) program x).1, depth,
        .ended (Exchange.executeWith (Exchange.dispatchWithin depth) program x).2, waiting⟩ :=
  executing (dispatches depth) program x waiting

theorem publish (depth : Nat) (frame : Frame) (x : Exchange ν σ) (next : Program ν)
    (waiting : List (Waiting ν)) :
    Runs (emit x depth frame (.published next :: waiting))
      ⟨Exchange.publishWith (Exchange.dispatchWithin depth) frame x, depth, .running next,
        waiting⟩ :=
  publishing (dispatches depth) frame x next waiting

end Runs

theorem advance_keeps {α : Type} {f : σ → α}
    (publish : ∀ frame s, f (Outlet.publish frame s).1 = f s)
    (close : ∀ s : σ, f (Outlet.close s) = f s) (disown : ∀ s : σ, f (Outlet.disown s).1 = f s)
    (m : Machine ν σ) : f m.advance.exchange.outlet = f m.exchange.outlet := by
  have disowned (x : Exchange ν σ) : f x.disownFree.outlet = f x.outlet := by
    unfold Exchange.disownFree
    split
    · exact disown x.outlet
    · rfl
  have begun (x : Exchange ν σ) (depth : Nat) (frame : Frame) (waiting : List (Waiting ν)) :
      f (beginPass x depth frame waiting).exchange.outlet = f x.outlet := by
    cases depth <;> rfl
  have asked (x : Exchange ν σ) (depth : Nat) (waiting : List (Waiting ν)) (program : Program ν) :
      f (ask x depth waiting program).exchange.outlet = f x.outlet := by
    cases program with
    | unsubscribe id next =>
      simp only [ask, Exchange.unsubscribe]
      split
      · exact disowned _
      · rfl
    | dispatch frame next => exact begun x depth frame _
    | route text next =>
      simp only [ask]
      split
      · rfl
      · exact begun x depth _ _
    | send topic message next =>
      simp only [ask]
      split
      · exact publish _ x.outlet
      · rfl
    | request topic message run next =>
      simp only [ask]
      split
      · exact publish _ x.outlet
      · rfl
    | close next => exact close x.outlet
    | _ => rfl
  have served (x : Exchange ν σ) (depth : Nat) (waiting : List (Waiting ν)) (frame : Frame)
      (id : SubscriptionId) (rest : List SubscriptionId) (invoked : Nat) :
      f (serve x depth waiting frame id rest invoked).exchange.outlet = f x.outlet := by
    unfold serve
    split
    · rfl
    · rename_i s registry _
      cases s.callback <;> rfl
  unfold advance
  split
  · exact asked _ _ _ _
  · exact served _ _ _ _ _ _ _
  · rfl
  · exact begun _ _ _ _
  · rename_i x _ answer _ _ _ _ _ _
    cases answer <;> exact disowned _
  · rfl
  · rfl
  · rfl
  · rfl
  · rfl

/-- What can happen at a point of a run over one exchange. A machine at rest may be given a program
or a frame to publish, and conversations may begin and read; the outlet changes at any moment. -/
inductive Step : Machine ν σ → Machine ν σ → Prop
  | advance (m : Machine ν σ) : Step m m.advance
  | undertake (x : Exchange ν σ) (depth : Nat) (answer : Option Answer) (program : Program ν) :
    Step ⟨x, depth, .ended answer, []⟩ ⟨x, x.nesting, .running program, []⟩
  | publish (x : Exchange ν σ) (depth : Nat) (answer : Option Answer) (frame : Frame) :
    Step ⟨x, depth, .ended answer, []⟩ (emit x x.nesting frame [.published (.done .nothing)])
  | converse (x : Exchange ν σ) (depth : Nat) (answer : Option Answer) (topic : String)
    (delivery : Delivery) :
    Step ⟨x, depth, .ended answer, []⟩
      ⟨x.addBox.subscribe ⟨topic, delivery, .box x.nextBox⟩, depth, .ended answer, []⟩
  | read (x : Exchange ν σ) (depth : Nat) (answer : Option Answer) (box : Nat) :
    Step ⟨x, depth, .ended answer, []⟩ ⟨x.unpost box, depth, .ended answer, []⟩
  | outside (m : Machine ν σ) (outlet : σ) (events : List Event) :
    (∀ e ∈ events, e.isOutward = true) →
    Step m { m with exchange := { m.exchange with outlet }.enter events }

def Reaches : Machine ν σ → Machine ν σ → Prop := Relation.ReflTransGen Step

theorem Runs.reaches {m n : Machine ν σ} (runs : Runs m n) : Reaches m n := by
  induction runs with
  | refl => exact .refl
  | @tail k l _ stepped ih =>
    subst stepped
    exact ih.tail (.advance k)

/-- What the exchange yields for a program is where a machine at rest can come to. -/
theorem reaches_execute (x : Exchange ν σ) (depth : Nat) (answer : Option Answer)
    (program : Program ν) :
    Reaches ⟨x, depth, .ended answer, []⟩
      ⟨(x.execute program).1, x.nesting, .ended (x.execute program).2, []⟩ :=
  .head (.undertake x depth answer program) (Runs.execute x.nesting program x []).reaches

end Machine

namespace Exchange.Invariant

variable {ν σ : Type} {P : Exchange ν σ → Prop} {m n : Machine ν σ}

private theorem beginPass (h : Invariant P) {x : Exchange ν σ} (hx : P x) (depth : Nat)
    (frame : Frame) (waiting : List (Waiting ν)) :
    P (Machine.beginPass x depth frame waiting).exchange := by
  cases depth with
  | zero => exact h.aside (x := x) rfl rfl rfl hx
  | succ depth => exact hx

private theorem serve (h : Invariant P) {x : Exchange ν σ} (hx : P x) (depth : Nat)
    (waiting : List (Waiting ν)) (frame : Frame) (id : SubscriptionId)
    (rest : List SubscriptionId) (invoked : Nat) :
    P (Machine.serve x depth waiting frame id rest invoked).exchange := by
  unfold Machine.serve
  split
  · exact hx
  · rename_i s registry taken
    cases kind : s.callback with
    | program owner run =>
      have started := h.start owner run frame.reply taken kind hx
      rwa [kind] at started
    | box number =>
      have posted := h.post number frame.reply taken kind hx
      rwa [kind] at posted

variable [Outlet σ]

private theorem ask (h : Invariant P) {x : Exchange ν σ} (hx : P x) (depth : Nat)
    (waiting : List (Waiting ν)) (program : Program ν) :
    P (Machine.ask x depth waiting program).exchange := by
  cases program with
  | done answer => exact hx
  | panic => exact hx
  | note entry next => exact h.aside (x := x) rfl rfl rfl hx
  | reread next => exact hx
  | print text next => exact h.aside (x := x) rfl rfl rfl hx
  | subscribe topic delivery owner run next => exact h.subscribe topic delivery owner run hx
  | unsubscribe id next => exact h.conduct.unsubscribe' x id hx
  | contains id next => exact hx
  | delivery id next => exact hx
  | census next => exact hx
  | topicCount topic next => exact hx
  | dispatch frame next => exact h.beginPass hx depth frame _
  | route text next =>
    simp only [Machine.ask]
    split
    · exact h.tell _ (by simp [Event.isQuiet]) hx
    · exact h.beginPass hx depth _ _
  | send topic message next =>
    simp only [Machine.ask]
    split
    · exact h.conduct.emit x _ hx
    · exact hx
  | request topic message run next =>
    simp only [Machine.ask]
    split
    · exact h.conduct.emit _ _ (h.subscribe topic .once false run hx)
    · exact hx
  | close next => exact h.aside (x := x) rfl rfl rfl hx

theorem advance (h : Invariant P) (hm : P m.exchange) : P m.advance.exchange := by
  unfold Machine.advance
  split
  · exact h.ask hm _ _ _
  · exact h.serve hm _ _ _ _ _ _
  · exact hm
  · exact h.beginPass hm _ _ _
  · exact h.conduct.dismiss _ _ _ _ _ (h.finish _ hm)
  · exact hm
  · exact h.tell _ (by simp [Event.isQuiet_routed]) hm
  · exact hm
  · exact hm
  · exact hm

theorem Lasting.step (h : Lasting P) (step : Machine.Step m n) (hm : P m.exchange) :
    P n.exchange := by
  cases step with
  | advance => exact h.toInvariant.advance hm
  | undertake x depth answer program => exact hm
  | publish x depth answer frame => exact h.toInvariant.conduct.emit x frame hm
  | converse x depth answer topic delivery => exact h.converse topic delivery hm
  | read x depth answer box => exact h.read box trivial hm
  | outside _ outlet events outward => exact h.toInvariant.outside outlet outward hm

theorem Lasting.reaches (h : Lasting P) (reached : Machine.Reaches m n) (hm : P m.exchange) :
    P n.exchange := by
  induction reached with
  | refl => exact hm
  | tail _ step ih => exact h.step step ih

end Exchange.Invariant

end Switchboard
