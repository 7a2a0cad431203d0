import Switchboard.Conversation.Stream
/-!
Exchanges that differ in how their journals begin. The journal is kept for the account: nothing that
happens on an exchange reads it, so whatever is done to twins has one result, leaves twins, and adds
the same entries to both journals.
-/

set_option autoImplicit false
set_option relaxedAutoImplicit false

namespace Switchboard

variable {ν σ : Type} {p q : List Event}

namespace Exchange

/-- Two exchanges differ in nothing but the entries with which their journals begin. -/
def Twin (p q : List Event) (x y : Exchange ν σ) : Prop :=
  ∃ since, x.journal = p ++ since ∧ y = { x with journal := q ++ since }

def Alike {α : Type} (p q : List Event) (a b : Exchange ν σ × α) : Prop :=
  Twin p q a.1 b.1 ∧ b.2 = a.2

def TreatsAlike (p q : List Event) (dispatcher : Dispatcher ν σ) : Prop :=
  ∀ {x y : Exchange ν σ} (frame : Frame), Twin p q x y →
    Alike p q (dispatcher frame x) (dispatcher frame y)

namespace Twin

variable {x y : Exchange ν σ} {dispatcher : Dispatcher ν σ}

theorem entered (x : Exchange ν σ) (events : List Event) :
    Twin x.journal (x.journal ++ events) x (x.enter events) :=
  ⟨[], by simp, by simp [Exchange.enter]⟩

theorem reads {α : Type} (h : Twin p q x y) (f : Exchange ν σ → α)
    (unread : ∀ x journal, f { x with journal } = f x) : f y = f x := by
  obtain ⟨since, -, rfl⟩ := h
  exact unread x _

theorem map (h : Twin p q x y) (f : Exchange ν σ → Exchange ν σ)
    (unread : ∀ x journal, f { x with journal } = { f x with journal }) :
    Twin p q (f x) (f y) := by
  obtain ⟨since, told, rfl⟩ := h
  have kept : (f { x with journal := x.journal }).journal = x.journal := by
    rw [unread x x.journal]
  exact ⟨since, kept.trans told, unread x _⟩

theorem enter (h : Twin p q x y) (events : List Event) :
    Twin p q (x.enter events) (y.enter events) := by
  obtain ⟨since, told, rfl⟩ := h
  exact ⟨since ++ events, by simp [Exchange.enter, told], by simp [Exchange.enter]⟩

theorem registry (h : Twin p q x y) : y.registry = x.registry := h.reads _ fun _ _ => rfl

theorem outlet (h : Twin p q x y) : y.outlet = x.outlet := h.reads _ fun _ _ => rfl

private theorem nesting (h : Twin p q x y) : y.nesting = x.nesting := h.reads _ fun _ _ => rfl

theorem withRegistry (h : Twin p q x y) (registry : Registry (Callback ν)) :
    Twin p q { x with registry } { y with registry } :=
  h.map (fun x => { x with registry }) fun _ _ => rfl

theorem withOutlet (h : Twin p q x y) (outlet : σ) :
    Twin p q { x with outlet } { y with outlet } :=
  h.map (fun x => { x with outlet }) fun _ _ => rfl

theorem subscribe (h : Twin p q x y) (subscription : Subscription (Callback ν)) :
    Twin p q (x.subscribe subscription) (y.subscribe subscription) := by
  unfold Exchange.subscribe
  rw [h.registry]
  exact (h.withRegistry _).enter _

theorem routeWith (h : Twin p q x y) (each : TreatsAlike p q dispatcher) (text : String) :
    Alike p q (Exchange.routeWith dispatcher text x) (Exchange.routeWith dispatcher text y) := by
  unfold Exchange.routeWith
  rw [h.reads policy fun _ _ => rfl]
  cases Frame.parse x.policy text with
  | error e => exact ⟨h.enter _, rfl⟩
  | ok frame =>
    obtain ⟨twin, same⟩ := each frame h
    simp only [same]
    exact ⟨twin.enter _, rfl⟩

theorem returned (h : Twin p q x y) (each : TreatsAlike p q dispatcher) (frames : List Frame) :
    Twin p q (frames.foldl (fun x back => (dispatcher back x).1) x)
      (frames.foldl (fun x back => (dispatcher back x).1) y) := by
  induction frames generalizing x y with
  | nil => exact h
  | cons frame rest ih => exact ih (each frame h).1

variable [Outlet σ]

theorem disownFree (h : Twin p q x y) : Twin p q x.disownFree y.disownFree := by
  unfold Exchange.disownFree
  rw [h.reads owners fun _ _ => rfl, h.outlet]
  split
  · exact (h.withOutlet _).enter _
  · exact h

theorem unsubscribe (h : Twin p q x y) (id : SubscriptionId) :
    Twin p q (x.unsubscribe id) (y.unsubscribe id) := by
  unfold Exchange.unsubscribe
  rw [h.registry]
  split
  · exact ((h.withRegistry _).enter _).disownFree
  · exact h

theorem dismiss (h : Twin p q x y) (callback : Callback ν) (id : SubscriptionId) (topic : String)
    (failed : Bool) :
    Twin p q (x.dismiss callback id topic failed) (y.dismiss callback id topic failed) := by
  have lighter : ∀ {x y : Exchange ν σ}, Twin p q x y →
      Twin p q { x with ownersRunning := x.ownersRunning - callback.weight }
        { y with ownersRunning := y.ownersRunning - callback.weight } :=
    fun h => h.map (fun x => { x with ownersRunning := x.ownersRunning - callback.weight })
      fun _ _ => rfl
  have told := h.enter [.finished id]
  cases failed with
  | false => exact (lighter told).disownFree
  | true => exact (lighter (told.enter [.panicked id topic])).disownFree

theorem publishWith (h : Twin p q x y) (each : TreatsAlike p q dispatcher) (frame : Frame) :
    Twin p q (Exchange.publishWith dispatcher frame x)
      (Exchange.publishWith dispatcher frame y) := by
  unfold Exchange.publishWith emit
  rw [h.outlet]
  exact ((h.withOutlet _).enter _).returned each _

theorem requestWith (h : Twin p q x y) (each : TreatsAlike p q dispatcher) (topic : String)
    (message : Json) (callback : Callback ν) :
    Alike p q (Exchange.requestWith dispatcher topic message callback x)
      (Exchange.requestWith dispatcher topic message callback y) := by
  refine ⟨(h.subscribe _).publishWith each _, ?_⟩
  simp only [Exchange.requestWith, h.registry]

theorem executeWith (h : Twin p q x y) (each : TreatsAlike p q dispatcher) (program : Program ν) :
    Alike p q (Exchange.executeWith dispatcher program x)
      (Exchange.executeWith dispatcher program y) := by
  have reachable : ∀ {x y : Exchange ν σ}, Twin p q x y →
      Outlet.isReachable y.outlet = Outlet.isReachable x.outlet :=
    fun h => h.reads (fun x => Outlet.isReachable x.outlet) fun _ _ => rfl
  induction program generalizing x y with
  | done answer => exact ⟨h, rfl⟩
  | panic => exact ⟨h, rfl⟩
  | note entry next ih => exact ih (h.map (note · entry) fun _ _ => rfl)
  | reread next ih =>
    simp only [Exchange.executeWith, h.reads notes fun _ _ => rfl]
    exact ih _ h
  | print text next ih => exact ih (h.map (print · text) fun _ _ => rfl)
  | subscribe topic delivery owner run next _ ih =>
    simp only [Exchange.executeWith, h.registry]
    exact ih _ (h.subscribe _)
  | unsubscribe id next ih =>
    simp only [Exchange.executeWith, h.registry]
    exact ih _ (h.unsubscribe id)
  | contains id next ih =>
    simp only [Exchange.executeWith, h.registry]
    exact ih _ h
  | delivery id next ih =>
    simp only [Exchange.executeWith, h.registry]
    exact ih _ h
  | census next ih =>
    simp only [Exchange.executeWith, h.registry]
    exact ih _ _ h
  | topicCount topic next ih =>
    simp only [Exchange.executeWith, h.registry]
    exact ih _ h
  | dispatch frame next ih =>
    obtain ⟨twin, same⟩ := each frame h
    simp only [Exchange.executeWith, same]
    exact ih _ twin
  | route text next ih =>
    obtain ⟨twin, same⟩ := h.routeWith each text
    simp only [Exchange.executeWith, same]
    exact ih _ twin
  | send topic message next ih =>
    simp only [Exchange.executeWith, reachable h]
    split
    · exact ih (h.publishWith each _)
    · exact ih h
  | request topic message run next _ ih =>
    simp only [Exchange.executeWith, reachable h]
    split
    · obtain ⟨twin, same⟩ := h.requestWith each topic message (.program false run)
      rw [same]
      exact ih _ twin
    · exact ih _ h
  | close next ih => exact ih (h.map close fun _ _ => rfl)

theorem serveWith (h : Twin p q x y) (each : TreatsAlike p q dispatcher) (frame : Frame)
    (id : SubscriptionId) (callback : Callback ν) :
    Twin p q (Exchange.serveWith dispatcher frame id callback x)
      (Exchange.serveWith dispatcher frame id callback y) := by
  have begun : Twin p q (x.commence callback id frame.reply) (y.commence callback id frame.reply) :=
    (h.map (fun x => { x with ownersRunning := x.ownersRunning + callback.weight })
      fun _ _ => rfl).enter _
  unfold Exchange.serveWith
  cases callback with
  | program owner run =>
    obtain ⟨twin, same⟩ := begun.executeWith each (run id frame.reply)
    simp only [invokeWith, same]
    exact twin.dismiss _ _ _ _
  | box number =>
    have posted := begun.map (post · number frame.reply) fun _ _ => rfl
    exact posted.dismiss _ _ _ _

theorem passWith (h : Twin p q x y) (each : TreatsAlike p q dispatcher) (frame : Frame)
    (ids : List SubscriptionId) :
    Alike p q (Exchange.passWith dispatcher frame ids x)
      (Exchange.passWith dispatcher frame ids y) := by
  induction ids generalizing x y with
  | nil => exact ⟨h, rfl⟩
  | cons id rest ih =>
    simp only [Exchange.passWith, h.registry]
    split
    · exact ih h
    · rename_i s registry _
      obtain ⟨twin, same⟩ := ih ((h.withRegistry registry).serveWith each frame id s.callback)
      exact ⟨twin, by rw [same]⟩

theorem dispatchWithin (depth : Nat) :
    TreatsAlike p q (Exchange.dispatchWithin depth : Dispatcher ν σ) := by
  induction depth with
  | zero =>
    intro x y frame h
    exact ⟨h.map (fun x => { x with overrun := true }) fun _ _ => rfl, rfl⟩
  | succ depth ih =>
    intro x y frame h
    simp only [Exchange.dispatchWithin, h.registry]
    obtain ⟨twin, same⟩ := h.passWith ih frame (x.registry.onTopic frame.topic)
    exact ⟨twin, by rw [same]⟩

theorem execute (h : Twin p q x y) (program : Program ν) :
    Alike p q (x.execute program) (y.execute program) := by
  unfold Exchange.execute
  rw [h.nesting]
  exact h.executeWith (dispatchWithin _) program

theorem publish (h : Twin p q x y) (frame : Frame) :
    Twin p q (x.publish frame) (y.publish frame) := by
  unfold Exchange.publish
  rw [h.nesting]
  exact h.publishWith (dispatchWithin _) frame

theorem request (h : Twin p q x y) (topic : String) (message : Json) (callback : Callback ν) :
    Alike p q (x.request topic message callback) (y.request topic message callback) := by
  unfold Exchange.request
  rw [h.nesting]
  exact h.requestWith (dispatchWithin _) topic message callback

theorem route (h : Twin p q x y) (text : String) : Alike p q (x.route text) (y.route text) := by
  unfold Exchange.route
  rw [h.nesting]
  exact h.routeWith (dispatchWithin _) text

end Twin

end Exchange

open Exchange

variable [Outlet σ] {x y : Exchange ν σ}

namespace Call

theorem await_alike (h : Twin p q x y) (id : SubscriptionId) (box : Nat) :
    Alike p q (await id box x) (await id box y) := by
  have closed : y.isClosed = x.isClosed := h.reads Exchange.isClosed fun _ _ => rfl
  have content : y.box box = x.box box := h.reads (Exchange.box · box) fun _ _ => rfl
  unfold await
  rw [content, h.registry, closed]
  split
  · exact ⟨h.unsubscribe id, rfl⟩
  · split
    · exact ⟨h.unsubscribe id, rfl⟩
    · split
      · exact ⟨h.unsubscribe id, rfl⟩
      · exact ⟨h, rfl⟩

theorem poll_alike (h : Twin p q x y) (call : Call) : Alike p q (call.poll x) (call.poll y) := by
  cases call with
  | fresh topic message =>
    have boxed : Twin p q x.addBox y.addBox := h.map Exchange.addBox fun _ _ => rfl
    have next : y.nextBox = x.nextBox := h.reads Exchange.nextBox fun _ _ => rfl
    obtain ⟨asked, same⟩ := boxed.request topic message (.box x.nextBox)
    simp only [poll, next, same]
    exact await_alike asked _ _
  | waiting id box => exact await_alike h id box
  | finished => exact ⟨h, rfl⟩

theorem drop_twin (h : Twin p q x y) (call : Call) : Twin p q (call.drop x) (call.drop y) := by
  cases call with
  | fresh topic message => exact h
  | waiting id box => exact h.unsubscribe id
  | finished => exact h

end Call

namespace ReplyStream

theorem openOn_alike (h : Twin p q x y) (topic : String) (message : Json) :
    Alike p q (openOn topic message x) (openOn topic message y) := by
  have boxed : Twin p q x.addBox y.addBox := h.map Exchange.addBox fun _ _ => rfl
  have next : y.nextBox = x.nextBox := h.reads Exchange.nextBox fun _ _ => rfl
  simp only [openOn, next, h.registry]
  exact ⟨(boxed.subscribe _).publish _, rfl⟩

theorem next_alike (h : Twin p q x y) (s : ReplyStream) : Alike p q (s.next x) (s.next y) := by
  have closed : y.isClosed = x.isClosed := h.reads Exchange.isClosed fun _ _ => rfl
  have content : y.box s.box = x.box s.box := h.reads (Exchange.box · s.box) fun _ _ => rfl
  have read : Twin p q (x.unpost s.box) (y.unpost s.box) := h.map (Exchange.unpost · s.box)
    fun _ _ => rfl
  unfold next finish
  rw [content, h.registry, closed]
  split
  · exact ⟨h, rfl⟩
  · split
    · split
      · exact ⟨read.unsubscribe s.id, rfl⟩
      · exact ⟨read, rfl⟩
    · split
      · exact ⟨h.unsubscribe s.id, rfl⟩
      · exact ⟨h, rfl⟩

theorem drain_alike (n : Nat) (h : Twin p q x y) (s : ReplyStream) :
    Alike p q (drain n s x) (drain n s y) := by
  induction n generalizing s x y with
  | zero => exact ⟨h, rfl⟩
  | succ n ih =>
    obtain ⟨twin, same⟩ := next_alike h s
    unfold drain
    rcases polled : s.next x with ⟨x', t, result⟩
    rcases polled' : s.next y with ⟨y', t', result'⟩
    rw [polled, polled'] at twin same
    cases same
    match result with
    | .pending => exact ⟨twin, rfl⟩
    | .ready none => exact ⟨twin, rfl⟩
    | .ready (some reply) =>
      obtain ⟨drained, rest⟩ := ih twin t
      exact ⟨drained, by simp only [rest]⟩

end ReplyStream

theorem Collecting.poll_alike (h : Twin p q x y) (c : Collecting) :
    Alike p q (c.poll x) (c.poll y) := by
  have content : y.box c.stream.box = x.box c.stream.box :=
    h.reads (Exchange.box · c.stream.box) fun _ _ => rfl
  unfold poll
  rw [content]
  obtain ⟨drained, same⟩ :=
    ReplyStream.drain_alike ((x.box c.stream.box).length + 1) h c.stream
  exact ⟨drained, by simp only [same]⟩

end Switchboard
