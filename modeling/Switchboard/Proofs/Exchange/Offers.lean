import Mathlib.Data.List.Basic
import Switchboard.Proofs.Exchange.Telling
/-!
What inbound texts do to an exchange whose callbacks keep out of the registry. Every subscription is
offered the replies on its topic, whatever else comes in between; a persistent one takes them all
and stays, a single one takes the first and goes. So a run is told by what each one is offered.
-/

set_option autoImplicit false
set_option relaxedAutoImplicit false

namespace Switchboard

variable {ν σ : Type}

namespace Outlet

variable [Outlet σ]

def IsOneWay (s : σ) : Prop :=
  ∀ t, Relation.ReflTransGen Used s t → ∀ frame, (Outlet.publish frame t).2.2 = []

theorem IsOneWay.later {s t : σ} (h : IsOneWay s) (used : Relation.ReflTransGen Used s t) :
    IsOneWay t :=
  fun _ further => h _ (used.trans further)

/-- Outlets that close of their own accord only, not at once by what an exchange does to them. -/
def IsSteady (σ : Type) [Outlet σ] : Prop :=
  ∀ s t : σ, Used s t → Outlet.isClosed t = Outlet.isClosed s

theorem IsSteady.isClosed_eq (h : IsSteady σ) {s t : σ} (used : Relation.ReflTransGen Used s t) :
    Outlet.isClosed t = Outlet.isClosed s := by
  induction used with
  | refl => rfl
  | tail _ last ih => exact (h _ _ last).trans ih

end Outlet

/-- A program that does not call back into the registry. It may look at it, but it makes and removes
no subscription and dispatches nothing, and it publishes only if it `sends`. -/
def Program.IsAloof (sends : Prop) : Program ν → Prop
  | .done _ | .panic => True
  | .note _ next | .print _ next | .close next => next.IsAloof sends
  | .reread next => ∀ notes, (next notes).IsAloof sends
  | .contains _ next => ∀ live, (next live).IsAloof sends
  | .delivery _ next => ∀ delivery, (next delivery).IsAloof sends
  | .census next => ∀ size lastNumber, (next size lastNumber).IsAloof sends
  | .topicCount _ next => ∀ count, (next count).IsAloof sends
  | .send _ _ next => sends ∧ next.IsAloof sends
  | .subscribe .. | .unsubscribe .. | .dispatch .. | .route .. | .request .. => False

def Callback.IsAloof (sends : Prop) : Callback ν → Prop
  | .program _ run => ∀ id reply, (run id reply).IsAloof sends
  | .box _ => True

namespace Delivery

variable {a b : List Reply}

/-- The replies that reach the callback of a subscription to which these are offered. -/
def takes : Delivery → List Reply → List Reply
  | .persistent, offered => offered
  | .once, offered => offered.take 1

def outlasts : Delivery → List Reply → Bool
  | .persistent, _ => true
  | .once, offered => offered.isEmpty

@[simp] theorem takes_nil (delivery : Delivery) : delivery.takes [] = [] := by
  cases delivery <;> rfl

@[simp] theorem outlasts_nil (delivery : Delivery) : delivery.outlasts [] = true := by
  cases delivery <;> rfl

@[simp] theorem takes_single (delivery : Delivery) (reply : Reply) :
    delivery.takes [reply] = [reply] := by
  cases delivery <;> rfl

theorem outlasts_append (delivery : Delivery) :
    delivery.outlasts (a ++ b) = (delivery.outlasts a && delivery.outlasts b) := by
  cases delivery with
  | persistent => rfl
  | once => cases a <;> rfl

theorem takes_append (delivery : Delivery) : delivery.takes (a ++ b) =
    delivery.takes a ++ if delivery.outlasts a then delivery.takes b else [] := by
  cases delivery with
  | persistent => rfl
  | once => cases a <;> simp [takes, outlasts]

end Delivery

namespace Exchange

variable [Outlet σ] {x y z : Exchange ν σ}

/-- A stretch of a run in which each subscription is offered these replies, and nothing else happens
to the registry. -/
structure Offers (offered : SubscriptionId → List Reply) (x y : Exchange ν σ) : Prop where
  policy : y.policy = x.policy
  nesting : y.nesting = x.nesting
  outlet : Relation.ReflTransGen Outlet.Used x.outlet y.outlet
  lastNumber : y.registry.lastNumber = x.registry.lastNumber
  live : ∀ id, y.registry.get? id =
    (x.registry.get? id).filter fun s => s.delivery.outlasts (offered id)
  replies : ∀ id, repliesTo id y.journal = repliesTo id x.journal ++
    (x.registry.get? id).elim [] fun s => s.delivery.takes (offered id)

namespace Offers

variable {offered later : SubscriptionId → List Reply}

theorem get?_of_live (h : Offers offered x y) {id : SubscriptionId}
    {s : Subscription (Callback ν)} (live : y.registry.get? id = some s) :
    x.registry.get? id = some s := by
  rw [h.live, Option.filter_eq_some_iff] at live
  exact live.1

theorem trans (first : Offers offered x y) (next : Offers later y z) :
    Offers (fun id => offered id ++ later id) x z where
  policy := next.policy.trans first.policy
  nesting := next.nesting.trans first.nesting
  outlet := first.outlet.trans next.outlet
  lastNumber := next.lastNumber.trans first.lastNumber
  live id := by
    rw [next.live, first.live, Option.filter_filter]
    simp only [Delivery.outlasts_append]
  replies id := by
    rw [next.replies, first.replies, first.live, List.append_assoc]
    cases x.registry.get? id with
    | none => rfl
    | some s =>
      -- a single subscription that has taken its reply is gone, so the rest passes it by
      simp only [Option.elim_some, Delivery.takes_append, Option.filter_some]
      split <;> rfl

theorem congr (h : Offers offered x y)
    (same : ∀ id s, x.registry.get? id = some s → later id = offered id) : Offers later x y where
  policy := h.policy
  nesting := h.nesting
  outlet := h.outlet
  lastNumber := h.lastNumber
  live id := by
    rw [h.live]
    cases found : x.registry.get? id with
    | none => rfl
    | some s => rw [same id s found]
  replies id := by
    rw [h.replies]
    cases found : x.registry.get? id with
    | none => rfl
    | some s => rw [same id s found]

theorem telling : Telling (Offers : _ → Exchange ν σ → Exchange ν σ → Prop) where
  trans := trans
  spared {x y events} policy nesting outlet registry journal none :=
    { policy, nesting, outlet
      lastNumber := by rw [registry]
      live := fun id => by
        rw [registry]
        cases x.registry.get? id <;> simp [nothing, Option.filter_some]
      replies := fun id => by
        rw [journal, repliesTo_append, none]
        cases x.registry.get? id <;> simp [nothing] }
  begins {x id s rest} reply taken :=
    { policy := rfl
      nesting := rfl
      outlet := .refl
      lastNumber := Registry.lastNumber_take taken
      live := fun other => by
        change rest.get? other = _
        rw [Registry.get?_take taken]
        by_cases isOwn : other = id
        · subst isOwn
          have found := (Registry.take_eq_some.mp taken).1
          cases kind : s.delivery <;>
            simp [toEach, found, kind, Delivery.outlasts, Option.filter_some]
        · cases x.registry.get? other <;> simp [toEach, isOwn, Option.filter_some]
      replies := fun other => by
        change repliesTo other (x.journal ++ [.started id reply]) = _
        rw [repliesTo_append, repliesTo_started]
        by_cases isOwn : other = id
        · subst isOwn
          simp [toEach, (Registry.take_eq_some.mp taken).1]
        · cases x.registry.get? other <;> simp [toEach, isOwn, Ne.symm isOwn] }

end Offers

/-- The callbacks of an exchange do not call back into its registry, and those that publish on its
outlet have nothing handed back. -/
structure IsAloof (sends : Prop) (x : Exchange ν σ) : Prop where
  callbacks : ∀ id s, x.registry.get? id = some s → s.callback.IsAloof sends
  oneWay : sends → Outlet.IsOneWay x.outlet

theorem IsAloof.later {sends : Prop} {offered : SubscriptionId → List Reply} (h : x.IsAloof sends)
    (stretch : Offers offered x y) : y.IsAloof sends where
  callbacks id s live := h.callbacks id s (stretch.get?_of_live live)
  oneWay sending := (h.oneWay sending).later stretch.outlet

/-- An aloof program offers nobody anything, however dispatches are made. -/
theorem permits_aloof (sends : Prop) (dispatcher : Dispatcher ν σ) :
    Permits dispatcher (Program.IsAloof sends)
      fun x y => (sends → Outlet.IsOneWay x.outlet) → Offers nothing x y where
  next aloof next := by
    cases next with
    | note | print | close => exact aloof
    | reread | contains | delivery | topicCount => exact aloof _
    | census => exact aloof _ _
    | send => exact aloof.2
    | subscribe | unsubscribe | dispatch | route | request => cases aloof
  refl x _ := Offers.telling.refl x
  trans first later oneWay :=
    Offers.telling.before (first oneWay) (later fun sending => (oneWay sending).later
      (first oneWay).outlet)
  note _ _ _ := Offers.telling.aside rfl rfl rfl rfl rfl
  print _ _ _ := Offers.telling.aside rfl rfl rfl rfl rfl
  close x _ := Offers.telling.close x
  subscribe aloof := by cases aloof
  unsubscribe aloof := by cases aloof
  dispatch aloof := by cases aloof
  route aloof := by cases aloof
  send aloof x oneWay :=
    Offers.telling.publishWith dispatcher (oneWay aloof.1 x.outlet .refl _)
  request aloof := by cases aloof

theorem unnested_aloof (sends : Prop) (dispatcher : Dispatcher ν σ) :
    Unnested dispatcher (IsAloof sends) (Offers : _ → Exchange ν σ → Exchange ν σ → Prop) where
  toTelling := Offers.telling
  keeps := IsAloof.later
  calls {x y id s} reply aloof found aloof' := by
    have own := aloof.callbacks id s found
    cases kind : s.callback with
    | program owner run =>
      rw [kind] at own
      exact (permits_aloof sends dispatcher).executeWith (own id reply) y aloof'.oneWay
    | box number => exact Offers.telling.aside rfl rfl rfl rfl rfl

section Operations

variable {sends : Prop}

/-- A pass offers the frame to those of its list that are live, for nothing takes one away before
its turn comes. -/
theorem passWith_offers (aloof : x.IsAloof sends) (depth : Nat) (frame : Frame)
    {ids : List SubscriptionId} (distinct : ids.Nodup) :
    Offers (toEach ids frame.reply) x (passWith (dispatchWithin depth) frame ids x).1 := by
  have unnested := unnested_aloof (ν := ν) sends (dispatchWithin depth : Dispatcher ν σ)
  refine (unnested.passWith aloof frame distinct).congr fun id s live => ?_
  have each : Conduct.Holds Continues (dispatchWithin depth : Dispatcher ν σ) :=
    conduct_continues.dispatchWithin depth
  refine if_congr ⟨fun member => ?_, fun served => ?_⟩ rfl rfl
  · refine (mem_passWith each frame distinct x id).mpr ⟨member, ?_⟩
    have before := unnested.passWith aloof frame
      (distinct.sublist (List.take_sublist (ids.idxOf id) ids))
    have unserved : id ∉ (passWith (dispatchWithin depth) frame (ids.take (ids.idxOf id)) x).2 := by
      intro served
      have early := (passWith_sublist (dispatchWithin depth) frame _ x).subset served
      exact Nat.lt_irrefl _ ((List.mem_take_iff_idxOf_lt member).mp early)
    refine Registry.contains_eq_true.mpr ⟨s, ?_⟩
    rw [before.live, live]
    simp [toEach, unserved, Option.filter_some]
  · exact (mem_passWith each frame distinct x id).mp served |>.1

def framesOn (topic : String) (frames : List Frame) : List Frame :=
  frames.filter fun frame => frame.topic = topic

/-- What the subscription under an identifier is offered of some frames: the replies on its topic.
An exchange in which no dispatch may begin offers nothing. -/
def onOffer (x : Exchange ν σ) (frames : List Frame) (id : SubscriptionId) : List Reply :=
  if x.nesting = 0 then []
  else (x.registry.get? id).elim [] fun s => (framesOn s.topic frames).map Frame.reply

omit [Outlet σ] in
theorem onOffer_append (x : Exchange ν σ) (frames more : List Frame) (id : SubscriptionId) :
    x.onOffer (frames ++ more) id = x.onOffer frames id ++ x.onOffer more id := by
  unfold onOffer
  split
  · rfl
  · cases x.registry.get? id <;> simp [framesOn]

omit [Outlet σ] in
theorem onOffer_congr (x : Exchange ν σ) {frames others : List Frame}
    (same : ∀ topic, framesOn topic frames = framesOn topic others) :
    x.onOffer frames = x.onOffer others := by
  funext id
  simp only [onOffer, same]

theorem Offers.onOffer_eq {offered : SubscriptionId → List Reply} (h : Offers offered x y)
    {id : SubscriptionId} {s : Subscription (Callback ν)} (live : y.registry.get? id = some s)
    (frames : List Frame) : y.onOffer frames id = x.onOffer frames id := by
  simp only [onOffer, h.nesting, live, h.get?_of_live live]

theorem dispatch_offers (aloof : x.IsAloof sends) (frame : Frame) :
    Offers (x.onOffer [frame]) x (x.dispatch frame).1 := by
  unfold dispatch
  cases nesting : x.nesting with
  | zero =>
    have overrun : Offers nothing x { x with overrun := true } :=
      Offers.telling.aside rfl rfl rfl rfl rfl
    exact overrun.congr fun id s _ => by simp [onOffer, nesting, nothing]
  | succ depth =>
    have distinct := x.registry.onTopic_nodup frame.topic
    refine (passWith_offers aloof depth frame distinct).congr fun id s live => ?_
    have same : id ∈ x.registry.onTopic frame.topic ↔ frame.topic = s.topic := by
      rw [Registry.mem_onTopic, live]
      simp [eq_comm]
    simp only [toEach, onOffer, nesting, Nat.succ_ne_zero, if_false, live, Option.elim_some, same]
    by_cases onTopic : frame.topic = s.topic
    · simp [framesOn, onTopic]
    · simp [framesOn, onTopic]

def framesIn (policy : Policy) (texts : List String) : List Frame :=
  texts.filterMap fun text => (Frame.parse policy text).toOption

theorem framesIn_append (policy : Policy) (texts more : List String) :
    framesIn policy (texts ++ more) = framesIn policy texts ++ framesIn policy more :=
  List.filterMap_append

def routeAll (texts : List String) (x : Exchange ν σ) : Exchange ν σ :=
  texts.foldl (fun x text => (x.route text).1) x

theorem route_offers (aloof : x.IsAloof sends) (text : String) :
    Offers (x.onOffer (framesIn x.policy [text])) x (x.route text).1 := by
  cases read : Frame.parse x.policy text with
  | error e =>
    have told : Offers nothing x (x.enter [.malformed e text]) :=
      Offers.telling.quiet x _ (by simp [Event.isQuiet])
    have routed : (x.route text).1 = x.enter [.malformed e text] := by
      simp only [route, routeWith, read]
    rw [routed]
    refine told.congr fun id s live => ?_
    simp [onOffer, framesOn, framesIn, read, live, nothing, Except.toOption]
  | ok frame =>
    have routed : (x.route text).1 =
        (x.dispatch frame).1.enter [.routed frame (x.dispatch frame).2] := by
      simp only [route, routeWith, read]
      rfl
    have frames : framesIn x.policy [text] = [frame] := by simp [framesIn, read, Except.toOption]
    rw [routed, frames]
    exact Offers.telling.behind (dispatch_offers aloof frame)
      (Offers.telling.quiet _ _ (by simp [Event.isQuiet_routed]))

/-- Inbound texts offer every subscription the replies on its topic, and that is all. -/
theorem routeAll_offers (aloof : x.IsAloof sends) (texts : List String) :
    Offers (x.onOffer (framesIn x.policy texts)) x (x.routeAll texts) := by
  induction texts generalizing x with
  | nil =>
    refine (Offers.telling.refl x).congr fun id s live => ?_
    simp [onOffer, framesOn, framesIn, live, nothing]
  | cons text rest ih =>
    have first := route_offers aloof text
    have frames : framesIn x.policy (text :: rest) =
        framesIn x.policy [text] ++ framesIn (x.route text).1.policy rest := by
      rw [first.policy, ← framesIn_append]
      rfl
    -- whoever is still live afterwards is offered the rest as if it had been offered at once
    have others : Offers (x.onOffer (framesIn (x.route text).1.policy rest)) (x.route text).1
        (routeAll rest (x.route text).1) :=
      (ih (aloof.later first)).congr fun id s live => (first.onOffer_eq live _).symm
    rw [frames]
    exact (first.trans others).congr fun id _ _ => x.onOffer_append _ _ id

/-- Two stretches in which the same is offered end with the same registry, and with the same replies
to each subscription. -/
theorem Offers.unique {offered : SubscriptionId → List Reply} (first : Offers offered x y)
    (other : Offers offered x z) :
    y.registry = z.registry ∧ ∀ id, repliesTo id y.journal = repliesTo id z.journal := by
  refine ⟨Registry.ext_get? (first.lastNumber.trans other.lastNumber.symm) fun id => ?_,
    fun id => ?_⟩
  · rw [first.live, other.live]
  · rw [first.replies, other.replies]

end Operations

end Exchange

end Switchboard
