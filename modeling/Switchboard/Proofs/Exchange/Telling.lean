import Mathlib.Logic.Relation
import Switchboard.Proofs.Conversation.Boxes
import Switchboard.Proofs.Exchange.Pass
/-!
Stretches of runs, told by the replies with which the callbacks of each subscription are started.
Where running callbacks start no other ones a pass starts those that it serves, once each, and
nothing else starts any.
-/

set_option autoImplicit false
set_option relaxedAutoImplicit false

namespace Switchboard

variable {ν σ : Type} [Outlet σ]

inductive Outlet.Used : σ → σ → Prop
  | publish (frame : Frame) (s : σ) : Used s (publish frame s).1
  | close (s : σ) : Used s (close s)
  | disown (s : σ) : Used s (disown s).1

namespace Exchange

def nothing : SubscriptionId → List Reply := fun _ => []

/-- Some are told one and the same reply. -/
def toEach (ids : List SubscriptionId) (reply : Reply) : SubscriptionId → List Reply :=
  fun id => if id ∈ ids then [reply] else []

theorem toEach_cons {id : SubscriptionId} {ids : List SubscriptionId} (new : id ∉ ids)
    (reply : Reply) : toEach (id :: ids) reply =
      fun other => toEach [id] reply other ++ toEach ids reply other := by
  ext1 other
  by_cases isOwn : other = id
  · subst isOwn
    simp [toEach, new]
  · simp [toEach, isOwn]

/-- A relation of stretches that is told by replies: one after another they tell what they tell, and
a callback that begins is told its reply. -/
structure Telling (R : (SubscriptionId → List Reply) → Exchange ν σ → Exchange ν σ → Prop) :
    Prop where
  trans : ∀ {told more x y z}, R told x y → R more y z → R (fun id => told id ++ more id) x z
  spared : ∀ {x y} {events : List Event}, y.policy = x.policy → y.nesting = x.nesting →
    Relation.ReflTransGen Outlet.Used x.outlet y.outlet → y.registry = x.registry →
    y.journal = x.journal ++ events → (∀ id, repliesTo id events = []) → R nothing x y
  begins : ∀ {x id s rest} reply, x.registry.take id = some (s, rest) →
    R (toEach [id] reply) x
      (({ x with registry := rest } : Exchange ν σ).commence s.callback id reply)

namespace Telling

variable {R : (SubscriptionId → List Reply) → Exchange ν σ → Exchange ν σ → Prop}
  {told : SubscriptionId → List Reply} {x y z : Exchange ν σ}

theorem before (h : Telling R) (first : R nothing x y) (later : R told y z) : R told x z :=
  h.trans first later

theorem behind (h : Telling R) (first : R told x y) (later : R nothing y z) : R told x z := by
  have both := h.trans first later
  simp only [nothing, List.append_nil] at both
  exact both

theorem aside (h : Telling R) (policy : y.policy = x.policy) (nesting : y.nesting = x.nesting)
    (outlet : y.outlet = x.outlet) (registry : y.registry = x.registry)
    (journal : y.journal = x.journal) : R nothing x y :=
  h.spared policy nesting (by rw [outlet]) registry (by rw [journal, List.append_nil]) fun _ => rfl

theorem refl (h : Telling R) (x : Exchange ν σ) : R nothing x x := h.aside rfl rfl rfl rfl rfl

theorem quiet (h : Telling R) (x : Exchange ν σ) (events : List Event)
    (quiet : ∀ e ∈ events, e.isQuiet = true) : R nothing x (x.enter events) :=
  h.spared rfl rfl .refl rfl rfl fun _ => repliesTo_quiet quiet

theorem close (h : Telling R) (x : Exchange ν σ) : R nothing x x.close :=
  h.spared rfl rfl (.single (.close x.outlet)) rfl (List.append_nil _).symm fun _ => rfl

theorem disownFree (h : Telling R) (x : Exchange ν σ) : R nothing x x.disownFree := by
  unfold Exchange.disownFree
  split
  · refine h.spared rfl rfl (.single (.disown x.outlet)) rfl rfl fun id => repliesTo_quiet ?_
    exact fun e member => Event.isQuiet_of_isOutward (Outlet.disown_outward x.outlet e member)
  · exact h.refl x

theorem emit (h : Telling R) (x : Exchange ν σ) (frame : Frame) : R nothing x (x.emit frame).1 := by
  refine h.spared rfl rfl (.single (.publish frame x.outlet)) rfl rfl fun id => repliesTo_quiet ?_
  intro e member
  rcases List.mem_cons.mp member with rfl | member
  · rfl
  · exact Event.isQuiet_of_isOutward (Outlet.publish_outward frame x.outlet e member)

theorem publishWith (h : Telling R) (dispatcher : Dispatcher ν σ) {frame : Frame}
    (oneWay : (Outlet.publish frame x.outlet).2.2 = []) :
    R nothing x (Exchange.publishWith dispatcher frame x) := by
  have returned : (x.emit frame).2 = [] := oneWay
  have same : Exchange.publishWith dispatcher frame x = (x.emit frame).1 := by
    simp only [Exchange.publishWith, returned, List.foldl_nil]
  rw [same]
  exact h.emit x frame

theorem dismiss (h : Telling R) (x : Exchange ν σ) (callback : Callback ν) (id : SubscriptionId)
    (topic : String) (failed : Bool) : R nothing x (x.dismiss callback id topic failed) := by
  have finished : R nothing x (x.enter [.finished id]) :=
    h.spared rfl rfl .refl rfl rfl fun _ => rfl
  have lighter (y : Exchange ν σ) :
      R nothing y { y with ownersRunning := y.ownersRunning - callback.weight } :=
    h.aside rfl rfl rfl rfl rfl
  unfold Exchange.dismiss
  cases failed with
  | false => exact h.before (h.before finished (lighter _)) (h.disownFree _)
  | true =>
    have panicked := h.before finished (h.quiet _ [.panicked id topic] (by simp [Event.isQuiet]))
    exact h.before (h.before panicked (lighter _)) (h.disownFree _)

end Telling

/-- A relation told by replies, on exchanges that fit and go on fitting, whose live callbacks start
no other ones when they are called. -/
structure Unnested (dispatcher : Dispatcher ν σ) (fits : Exchange ν σ → Prop)
    (R : (SubscriptionId → List Reply) → Exchange ν σ → Exchange ν σ → Prop) : Prop
    extends Telling R where
  keeps : ∀ {told x y}, fits x → R told x y → fits y
  calls : ∀ {x y id s} reply, fits x → x.registry.get? id = some s → fits y →
    R nothing y (invokeWith dispatcher s.callback id reply y).1

namespace Unnested

variable {dispatcher : Dispatcher ν σ} {fits : Exchange ν σ → Prop}
  {R : (SubscriptionId → List Reply) → Exchange ν σ → Exchange ν σ → Prop} {x : Exchange ν σ}

theorem serveWith (h : Unnested dispatcher fits R) (hx : fits x) (frame : Frame)
    {id : SubscriptionId} {s : Subscription (Callback ν)} {rest : Registry (Callback ν)}
    (taken : x.registry.take id = some (s, rest)) :
    R (toEach [id] frame.reply) x
      (Exchange.serveWith dispatcher frame id s.callback { x with registry := rest }) := by
  obtain ⟨found, -⟩ := Registry.take_eq_some.mp taken
  have begun := h.begins frame.reply taken
  have called := h.calls frame.reply hx found (h.keeps hx begun)
  exact h.behind (h.behind begun called) (h.dismiss _ _ _ _ _)

theorem passWith (h : Unnested dispatcher fits R) (hx : fits x) (frame : Frame)
    {ids : List SubscriptionId} (distinct : ids.Nodup) :
    R (toEach (Exchange.passWith dispatcher frame ids x).2 frame.reply) x
      (Exchange.passWith dispatcher frame ids x).1 := by
  induction ids generalizing x with
  | nil => exact h.refl x
  | cons id rest ih =>
    obtain ⟨new, distinct⟩ := List.nodup_cons.mp distinct
    cases taken : x.registry.take id with
    | none =>
      simp only [Exchange.passWith, taken]
      exact ih hx distinct
    | some handed =>
      obtain ⟨s, registry⟩ := handed
      simp only [Exchange.passWith, taken]
      have served := h.serveWith hx frame taken
      have once : id ∉ (Exchange.passWith dispatcher frame rest
          (Exchange.serveWith dispatcher frame id s.callback { x with registry })).2 :=
        fun again => new ((passWith_sublist dispatcher frame rest _).subset again)
      rw [toEach_cons once]
      exact h.trans served (ih (h.keeps hx served) distinct)

end Unnested

end Exchange

end Switchboard
