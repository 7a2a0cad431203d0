import Mathlib.Logic.Basic
import Switchboard.Exchange.Dispatch
/-!
What a run does to an exchange, said once. A relation between exchanges that is reflexive and
transitive, and that holds across each single thing that programs of a kind ask for, holds between
the beginning and the end of every such program. If it holds across all that can happen, it does so
for every program, publication, pass and dispatch, whatever the callbacks do.
-/

set_option autoImplicit false
set_option relaxedAutoImplicit false

namespace Switchboard

/-- Whether an entry leaves subscriptions and their callbacks as they are. -/
def Event.isQuiet : Event → Bool
  | .subscribed .. | .unsubscribed _ | .started .. | .finished _ => false
  | _ => true

theorem Event.isQuiet_of_isOutward {e : Event} (outward : e.isOutward = true) :
    e.isQuiet = true := by
  cases e <;> simp_all [isOutward, isQuiet]

theorem Event.isQuiet_routed (frame : Frame) (invoked : Nat) :
    (routed frame invoked).isQuiet = true := by
  unfold routed
  split <;> rfl

/-- What a program may go on with when what it asks for has been done. -/
inductive Program.Next {ν : Type} : Program ν → Program ν → Prop
  | note (entry : ν) (next : Program ν) : Next (.note entry next) next
  | reread (next : List ν → Program ν) (notes : List ν) : Next (.reread next) (next notes)
  | print (text : String) (next : Program ν) : Next (.print text next) next
  | subscribe (topic : String) (delivery : Delivery) (owner : Bool)
    (run : SubscriptionId → Reply → Program ν) (next : SubscriptionId → Program ν)
    (id : SubscriptionId) : Next (.subscribe topic delivery owner run next) (next id)
  | unsubscribe (id : SubscriptionId) (next : Bool → Program ν) (live : Bool) :
    Next (.unsubscribe id next) (next live)
  | contains (id : SubscriptionId) (next : Bool → Program ν) (live : Bool) :
    Next (.contains id next) (next live)
  | delivery (id : SubscriptionId) (next : Option Delivery → Program ν)
    (delivery : Option Delivery) : Next (.delivery id next) (next delivery)
  | census (next : Nat → Nat → Program ν) (size lastNumber : Nat) :
    Next (.census next) (next size lastNumber)
  | topicCount (topic : String) (next : Nat → Program ν) (count : Nat) :
    Next (.topicCount topic next) (next count)
  | dispatch (frame : Frame) (next : Nat → Program ν) (invoked : Nat) :
    Next (.dispatch frame next) (next invoked)
  | route (text : String) (next : RouteOutcome → Program ν) (outcome : RouteOutcome) :
    Next (.route text next) (next outcome)
  | send (topic : String) (message : Json) (next : Program ν) :
    Next (.send topic message next) next
  | request (topic : String) (message : Json) (run : SubscriptionId → Reply → Program ν)
    (next : Option SubscriptionId → Program ν) (id : Option SubscriptionId) :
    Next (.request topic message run next) (next id)
  | close (next : Program ν) : Next (.close next) next

namespace Exchange

variable {ν σ : Type}

/-- A relation to which programs of a kind conform: it holds across whatever one of them asks for,
and what it goes on with is of the kind again. -/
structure Permits [Outlet σ] (dispatcher : Dispatcher ν σ) (kind : Program ν → Prop)
    (R : Exchange ν σ → Exchange ν σ → Prop) : Prop where
  next : ∀ {p q}, kind p → p.Next q → kind q
  refl : ∀ x, R x x
  trans : ∀ {x y z}, R x y → R y z → R x z
  note : ∀ x entry, R x (x.note entry)
  print : ∀ x text, R x (x.print text)
  close : ∀ x, R x x.close
  subscribe : ∀ {topic delivery owner run next},
    kind (.subscribe topic delivery owner run next) →
    ∀ x, R x (x.subscribe ⟨topic, delivery, .program owner run⟩)
  unsubscribe : ∀ {id next}, kind (.unsubscribe id next) → ∀ x, R x (x.unsubscribe id)
  dispatch : ∀ {frame next}, kind (.dispatch frame next) → ∀ x, R x (dispatcher frame x).1
  route : ∀ {text next}, kind (.route text next) → ∀ x, R x (routeWith dispatcher text x).1
  send : ∀ {topic message next}, kind (.send topic message next) →
    ∀ x, R x (publishWith dispatcher (.payload topic message) x)
  request : ∀ {topic message run next}, kind (.request topic message run next) →
    ∀ x, R x (requestWith dispatcher topic message (.program false run) x).1

/-- Programs of a kind conform from beginning to end. -/
theorem Permits.executeWith [Outlet σ] {dispatcher : Dispatcher ν σ} {kind : Program ν → Prop}
    {R : Exchange ν σ → Exchange ν σ → Prop} (h : Permits dispatcher kind R) {program : Program ν}
    (fits : kind program) (x : Exchange ν σ) : R x (executeWith dispatcher program x).1 := by
  induction program generalizing x with
  | done answer => exact h.refl x
  | panic => exact h.refl x
  | note entry next ih => exact h.trans (h.note x entry) (ih (h.next fits (.note ..)) _)
  | reread next ih => exact ih _ (h.next fits (.reread ..)) x
  | print text next ih => exact h.trans (h.print x text) (ih (h.next fits (.print ..)) _)
  | subscribe topic delivery owner run next _ ih =>
    exact h.trans (h.subscribe fits x) (ih _ (h.next fits (.subscribe ..)) _)
  | unsubscribe id next ih =>
    exact h.trans (h.unsubscribe fits x) (ih _ (h.next fits (.unsubscribe ..)) _)
  | contains id next ih => exact ih _ (h.next fits (.contains ..)) x
  | delivery id next ih => exact ih _ (h.next fits (.delivery ..)) x
  | census next ih => exact ih _ _ (h.next fits (.census ..)) x
  | topicCount topic next ih => exact ih _ (h.next fits (.topicCount ..)) x
  | dispatch frame next ih =>
    exact h.trans (h.dispatch fits x) (ih _ (h.next fits (.dispatch ..)) _)
  | route text next ih => exact h.trans (h.route fits x) (ih _ (h.next fits (.route ..)) _)
  | send topic message next ih =>
    have later := fun y => ih (h.next fits (.send ..)) y
    simp only [Exchange.executeWith]
    split
    · exact h.trans (h.send fits x) (later _)
    · exact later x
  | request topic message run next _ ih =>
    have later := fun id y => ih id (h.next fits (.request ..)) y
    simp only [Exchange.executeWith]
    split
    · exact h.trans (h.request fits x) (later _ _)
    · exact later _ x
  | close next ih => exact h.trans (h.close x) (ih (h.next fits (.close ..)) _)

/-- A relation to which everything that happens on an exchange conforms. Beside the registry, the
boxes and the journal it may look at the mark of an overrun only. -/
structure Conduct (R : Exchange ν σ → Exchange ν σ → Prop) : Prop where
  refl : ∀ x, R x x
  trans : ∀ {x y z}, R x y → R y z → R x z
  aside : ∀ {x y}, y.registry = x.registry → y.boxes = x.boxes → y.journal = x.journal →
    (x.overrun = true → y.overrun = true) → R x y
  tell : ∀ x events, (∀ e ∈ events, e.isQuiet = true) → R x (x.enter events)
  subscribe : ∀ x topic delivery owner run,
    R x (x.subscribe ⟨topic, delivery, .program owner run⟩)
  unsubscribe : ∀ x id, x.registry.contains id = true →
    R x ({ x with registry := x.registry.erase id }.enter [.unsubscribed id])
  /-- A callback that is a program does what it does between its start and its end. -/
  run : ∀ {x z id s rest} owner program reply, x.registry.take id = some (s, rest) →
    s.callback = .program owner program →
    R (({ x with registry := rest }).commence s.callback id reply) z → R x (z.enter [.finished id])
  post : ∀ {x id s rest} box reply, x.registry.take id = some (s, rest) → s.callback = .box box →
    R x (((({ x with registry := rest }).commence s.callback id reply).post box reply).enter
      [.finished id])

namespace Conduct

variable {R : Exchange ν σ → Exchange ν σ → Prop} {dispatcher : Dispatcher ν σ}

def Holds (R : Exchange ν σ → Exchange ν σ → Prop) (dispatcher : Dispatcher ν σ) : Prop :=
  ∀ frame x, R x (dispatcher frame x).1

theorem returned (h : Conduct R) (each : Holds R dispatcher) (frames : List Frame)
    (x : Exchange ν σ) : R x (frames.foldl (fun x back => (dispatcher back x).1) x) := by
  induction frames generalizing x with
  | nil => exact h.refl x
  | cons frame rest ih => exact h.trans (each frame x) (ih _)

theorem routeWith (h : Conduct R) (each : Holds R dispatcher) (text : String)
    (x : Exchange ν σ) : R x (Exchange.routeWith dispatcher text x).1 := by
  unfold Exchange.routeWith
  split
  · exact h.tell _ _ (by simp [Event.isQuiet])
  · exact h.trans (each _ x) (h.tell _ _ (by simp [Event.isQuiet_routed]))

variable [Outlet σ]

theorem disownFree (h : Conduct R) (x : Exchange ν σ) : R x x.disownFree := by
  unfold Exchange.disownFree
  split
  · refine h.trans (h.aside (y := { x with outlet := (Outlet.disown x.outlet).1 }) rfl rfl rfl id)
      (h.tell _ _ fun e member => ?_)
    exact Event.isQuiet_of_isOutward (Outlet.disown_outward x.outlet e member)
  · exact h.refl x

theorem unsubscribe' (h : Conduct R) (x : Exchange ν σ) (id : SubscriptionId) :
    R x (x.unsubscribe id) := by
  unfold Exchange.unsubscribe
  split
  · rename_i live
    exact h.trans (h.unsubscribe x id live) (h.disownFree _)
  · exact h.refl x

theorem emit (h : Conduct R) (x : Exchange ν σ) (frame : Frame) : R x (x.emit frame).1 := by
  refine h.trans (h.aside (y := { x with outlet := (Outlet.publish frame x.outlet).1 })
    rfl rfl rfl id) (h.tell _ _ fun e member => ?_)
  rcases List.mem_cons.mp member with rfl | member
  · rfl
  · exact Event.isQuiet_of_isOutward (Outlet.publish_outward frame x.outlet e member)

theorem dismiss (h : Conduct R) (x : Exchange ν σ) (callback : Callback ν) (id : SubscriptionId)
    (topic : String) (failed : Bool) :
    R (x.enter [.finished id]) (x.dismiss callback id topic failed) := by
  have told : R (x.enter [.finished id])
      (if failed then (x.enter [.finished id]).enter [.panicked id topic]
        else x.enter [.finished id]) := by
    split
    · exact h.tell _ _ (by simp [Event.isQuiet])
    · exact h.refl _
  refine h.trans told (h.trans (h.aside ?_ ?_ ?_ fun marked => ?_) (h.disownFree _))
  · rfl
  · rfl
  · rfl
  · exact marked

theorem publishWith (h : Conduct R) (each : Holds R dispatcher) (frame : Frame)
    (x : Exchange ν σ) : R x (Exchange.publishWith dispatcher frame x) :=
  h.trans (h.emit x frame) (h.returned each _ _)

theorem requestWith (h : Conduct R) (each : Holds R dispatcher) (topic : String) (message : Json)
    (owner : Bool) (program : SubscriptionId → Reply → Program ν) (x : Exchange ν σ) :
    R x (Exchange.requestWith dispatcher topic message (.program owner program) x).1 :=
  h.trans (h.subscribe x topic .once owner program) (h.publishWith each _ _)

theorem permits (h : Conduct R) (each : Holds R dispatcher) :
    Permits dispatcher (fun _ => True) R where
  next _ _ := trivial
  refl := h.refl
  trans := h.trans
  note _ _ := h.aside rfl rfl rfl id
  print _ _ := h.aside rfl rfl rfl id
  close _ := h.aside rfl rfl rfl id
  subscribe _ x := h.subscribe x _ _ _ _
  unsubscribe _ x := h.unsubscribe' x _
  dispatch _ x := each _ x
  route _ x := h.routeWith each _ x
  send _ x := h.publishWith each _ x
  request _ x := h.requestWith each _ _ false _ x

theorem executeWith (h : Conduct R) (each : Holds R dispatcher) (program : Program ν)
    (x : Exchange ν σ) : R x (Exchange.executeWith dispatcher program x).1 :=
  (h.permits each).executeWith trivial x

theorem serveWith (h : Conduct R) (each : Holds R dispatcher) (frame : Frame)
    {x : Exchange ν σ} {id : SubscriptionId} {s : Subscription (Callback ν)}
    {rest : Registry (Callback ν)} (taken : x.registry.take id = some (s, rest)) :
    R x (Exchange.serveWith dispatcher frame id s.callback { x with registry := rest }) := by
  unfold Exchange.serveWith
  refine h.trans ?_ (h.dismiss _ _ _ _ _)
  cases kind : s.callback with
  | program owner program =>
    rw [← kind]
    refine h.run owner program frame.reply taken kind ?_
    rw [kind]
    exact h.executeWith each _ _
  | box box =>
    have filled := h.post box frame.reply taken kind
    rwa [kind] at filled

theorem passWith (h : Conduct R) (each : Holds R dispatcher) (frame : Frame)
    (ids : List SubscriptionId) (x : Exchange ν σ) :
    R x (Exchange.passWith dispatcher frame ids x).1 := by
  induction ids generalizing x with
  | nil => exact h.refl x
  | cons id rest ih =>
    simp only [Exchange.passWith]
    split
    · exact ih x
    · rename_i s registry taken
      exact h.trans (h.serveWith each frame taken) (ih _)

theorem dispatchWithin (h : Conduct R) (depth : Nat) :
    Holds R (Exchange.dispatchWithin depth : Dispatcher ν σ) := by
  induction depth with
  | zero =>
    intro frame x
    exact h.aside rfl rfl rfl fun _ => rfl
  | succ depth ih =>
    intro frame x
    exact h.passWith ih frame _ x

theorem execute (h : Conduct R) (program : Program ν) (x : Exchange ν σ) :
    R x (x.execute program).1 :=
  h.executeWith (h.dispatchWithin _) program x

end Conduct

theorem disownFree_journal [Outlet σ] (x : Exchange ν σ) :
    ∃ more, x.disownFree.journal = x.journal ++ more ∧ ∀ e ∈ more, e.isQuiet = true := by
  unfold disownFree
  split
  · refine ⟨(Outlet.disown x.outlet).2, rfl, fun e member => ?_⟩
    exact Event.isQuiet_of_isOutward (Outlet.disown_outward x.outlet e member)
  · exact ⟨[], by simp, by simp⟩

/-- A property of exchanges that nothing of what can happen destroys. A callback has its start and
its end here, and what lies between is made of the same things again. -/
structure Invariant (P : Exchange ν σ → Prop) : Prop where
  aside : ∀ {x y}, y.registry = x.registry → y.boxes = x.boxes → y.journal = x.journal → P x → P y
  tell : ∀ {x} events, (∀ e ∈ events, e.isQuiet = true) → P x → P (x.enter events)
  subscribe : ∀ {x} topic delivery owner run, P x →
    P (x.subscribe ⟨topic, delivery, .program owner run⟩)
  unsubscribe : ∀ {x id}, x.registry.contains id = true → P x →
    P ({ x with registry := x.registry.erase id }.enter [.unsubscribed id])
  start : ∀ {x id s rest} owner program reply, x.registry.take id = some (s, rest) →
    s.callback = .program owner program → P x →
    P ({ x with registry := rest }.commence s.callback id reply)
  post : ∀ {x id s rest} box reply, x.registry.take id = some (s, rest) → s.callback = .box box →
    P x → P (({ x with registry := rest }.commence s.callback id reply).post box reply)
  finish : ∀ {x} id, P x → P (x.enter [.finished id])

/-- An invariant that conversations do not destroy either, when they begin and when they read, if
they read such boxes only. -/
structure Invariant.Survives (reads : Nat → Prop) (P : Exchange ν σ → Prop) : Prop
    extends Invariant P where
  converse : ∀ {x} topic delivery, P x →
    P (x.addBox.subscribe ⟨topic, delivery, .box x.nextBox⟩)
  read : ∀ {x} box, reads box → P x → P (x.unpost box)

abbrev Invariant.Lasting (P : Exchange ν σ → Prop) : Prop := Survives (fun _ => True) P

theorem Invariant.outside {P : Exchange ν σ → Prop} (h : Invariant P) {x : Exchange ν σ}
    (outlet : σ) {events : List Event} (outward : ∀ e ∈ events, e.isOutward = true) (hx : P x) :
    P ({ x with outlet }.enter events) :=
  h.tell events (fun e member => Event.isQuiet_of_isOutward (outward e member))
    (h.aside (x := x) rfl rfl rfl hx)

theorem Invariant.conduct {P : Exchange ν σ → Prop} (h : Invariant P) :
    Conduct fun x y => P x → P y where
  refl _ hx := hx
  trans first later hx := later (first hx)
  aside registry boxes journal _ := h.aside registry boxes journal
  tell _ := h.tell
  subscribe _ := h.subscribe
  unsubscribe _ _ := h.unsubscribe
  run owner program reply taken kind body hx :=
    h.finish _ (body (h.start owner program reply taken kind hx))
  post box reply taken kind hx := h.finish _ (h.post box reply taken kind hx)

end Exchange

end Switchboard
