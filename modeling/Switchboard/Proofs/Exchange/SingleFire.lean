import Switchboard.Proofs.Exchange.Fate
/-!
Single subscriptions. At every point of every run one is live, or its callback was started once, or
it was removed once, and never two of these: the hand-out of the callback is what takes it off the
registry, in whatever snapshots of passes it may still stand.
-/

set_option autoImplicit false
set_option relaxedAutoImplicit false

namespace Switchboard

variable {ν σ : Type}

namespace Exchange

theorem dispatch_consumes [Outlet σ] (depth : Nat) (frame : Frame) {x : Exchange ν σ}
    {id : SubscriptionId} (h : x.IsAccounted)
    (made : .subscribed id frame.topic .once ∈ x.journal) :
    (dispatchWithin (depth + 1) frame x).1.registry.contains id = false := by
  have gone := (gone_lasting (ν := ν) (σ := σ) id).toInvariant.conduct
  cases found : x.registry.get? id with
  | none =>
    rw [Registry.contains_eq_false]
    exact (gone.dispatchWithin (depth + 1) frame x ⟨found, (h.issued made).2⟩).1
  | some s =>
    obtain ⟨onTopic, single⟩ := h.unique (h.live found).1 made
    exact dispatch_single depth frame found onTopic single

end Exchange

def Waiting.IsBegun (journal : List Event) : Waiting ν → Prop
  | .callback id _ frame _ _ => .started id frame.reply ∈ journal
  | _ => True

namespace Machine

def IsBegun (m : Machine ν σ) : Prop := ∀ w ∈ m.waiting, w.IsBegun m.exchange.journal

private theorem beginPass_waiting (x : Exchange ν σ) (depth : Nat) (frame : Frame)
    (waiting : List (Waiting ν)) : (beginPass x depth frame waiting).waiting = waiting := by
  cases depth <;> rfl

private theorem mem_pushed {v w : Waiting ν} {waiting : List (Waiting ν)} {journal : List Event}
    (member : w ∈ v :: waiting) (begun : v.IsBegun journal) : w ∈ waiting ∨ w.IsBegun journal := by
  rcases List.mem_cons.mp member with rfl | old
  · exact .inr begun
  · exact .inl old

private theorem serve_waiting (x : Exchange ν σ) (depth : Nat) (waiting : List (Waiting ν))
    (frame : Frame) (id : SubscriptionId) (rest : List SubscriptionId) (invoked : Nat)
    {w : Waiting ν} (member : w ∈ (serve x depth waiting frame id rest invoked).waiting) :
    w ∈ waiting ∨ w.IsBegun (serve x depth waiting frame id rest invoked).exchange.journal := by
  unfold serve at member ⊢
  split at member
  · exact .inl member
  · rename_i s registry taken
    cases kind : s.callback with
    | program owner run =>
      rw [kind] at member
      refine mem_pushed member ?_
      simp [Waiting.IsBegun, invoke, Exchange.commence, Exchange.enter]
    | box number =>
      rw [kind] at member
      refine mem_pushed member ?_
      simp [Waiting.IsBegun, invoke, Exchange.commence, Exchange.enter, Exchange.post]

variable [Outlet σ]

private theorem ask_waiting (x : Exchange ν σ) (depth : Nat) (waiting : List (Waiting ν))
    (program : Program ν) {w : Waiting ν} (member : w ∈ (ask x depth waiting program).waiting)
    (journal : List Event) : w ∈ waiting ∨ w.IsBegun journal := by
  cases program with
  | dispatch frame next =>
    rw [ask, beginPass_waiting] at member
    exact mem_pushed member trivial
  | route text next =>
    simp only [ask] at member
    split at member
    · exact .inl member
    · rw [beginPass_waiting] at member
      exact mem_pushed member trivial
  | send topic message next =>
    simp only [ask] at member
    split at member
    · exact mem_pushed member trivial
    · exact .inl member
  | request topic message run next =>
    simp only [ask] at member
    split at member
    · exact mem_pushed member trivial
    · exact .inl member
  | _ => exact .inl member

/-- A step starts at most one callback, and says so. -/
private theorem advance_waiting (m : Machine ν σ) {w : Waiting ν}
    (member : w ∈ m.advance.waiting) : w ∈ m.waiting ∨ w.IsBegun m.advance.exchange.journal := by
  unfold advance at member ⊢
  split at member
  · exact ask_waiting _ _ _ _ member _
  · exact serve_waiting _ _ _ _ _ _ _ member
  · exact .inl member
  · rw [beginPass_waiting] at member
    exact mem_pushed member trivial
  · exact .inl (List.mem_cons_of_mem _ member)
  · exact .inl (List.mem_cons_of_mem _ member)
  · exact .inl (List.mem_cons_of_mem _ member)
  · exact .inl (List.mem_cons_of_mem _ member)
  · exact .inl (List.mem_cons_of_mem _ member)
  · exact .inl member

private theorem isBegun_mono {journal longer : List Event} {w : Waiting ν}
    (h : w.IsBegun journal) (grown : journal <+: longer) : w.IsBegun longer := by
  cases w with
  | callback id callback frame rest invoked => exact grown.subset h
  | _ => trivial

theorem IsBegun.step {m n : Machine ν σ} (h : m.IsBegun) (step : Step m n) : n.IsBegun := by
  intro w member
  have grown : m.exchange.journal <+: n.exchange.journal :=
    (Exchange.journal_lasting m.exchange.journal).step step List.prefix_rfl
  cases step with
  | advance =>
    rcases m.advance_waiting member with old | new
    · exact isBegun_mono (h w old) grown
    · exact new
  | undertake => cases member
  | publish =>
    rcases List.mem_cons.mp member with rfl | old
    · trivial
    · cases old
  | converse => cases member
  | read => cases member
  | outside outlet events outward => exact isBegun_mono (h w member) grown

theorem IsBegun.reaches {m n : Machine ν σ} (h : m.IsBegun) (reached : Reaches m n) :
    n.IsBegun := by
  induction reached with
  | refl => exact h
  | tail _ step ih => exact ih.step step

end Machine

namespace Exchange

variable [Outlet σ]

private theorem removalsOf_unsubscribe (x : Exchange ν σ) (id : SubscriptionId) :
    removalsOf id (x.unsubscribe id).journal =
      removalsOf id x.journal + (x.registry.contains id).toNat := by
  unfold unsubscribe
  cases x.registry.contains id with
  | false => simp
  | true =>
    obtain ⟨more, journal, quiet⟩ := disownFree_journal
      ({ x with registry := x.registry.erase id }.enter [.unsubscribed id])
    rw [if_pos rfl, journal, removalsOf_append, (quiet_counts quiet id).2]
    simp [enter]

/-- How a single subscription fares when a frame on its topic is dispatched: at the end it is gone,
fired or removed, and if it is live when its turn comes then it fires with this frame: the callback
that was registered for it is called. -/
structure Fires (depth : Nat) (frame : Frame) (x : Exchange ν σ) (id : SubscriptionId) : Prop where
  gone : (dispatchWithin (depth + 1) frame x).1.registry.contains id = false
  fate : startsOf id (dispatchWithin (depth + 1) frame x).1.journal +
    removalsOf id (dispatchWithin (depth + 1) frame x).1.journal = 1
  turn : ∀ place (within : place < (x.registry.onTopic frame.topic).length),
    (x.registry.onTopic frame.topic)[place] = id →
    (atTurn depth frame x place).registry.contains id = true →
    (∃ s, x.registry.get? id = some s ∧ Serves (dispatchWithin depth) frame id s
      (atTurn depth frame x place) (atTurn depth frame x (place + 1))) ∧
    ∃ rest, (dispatchWithin (depth + 1) frame x).1.journal =
      (atTurn depth frame x place).journal ++ .started id frame.reply :: rest

theorem dispatch_fires (depth : Nat) (frame : Frame) {x : Exchange ν σ} (h : x.IsAccounted)
    {id : SubscriptionId} (made : .subscribed id frame.topic .once ∈ x.journal) :
    Fires depth frame x id := by
  have after := isAccounted_lasting.toInvariant.conduct.dispatchWithin (depth + 1) frame x h
  have grown := (journal_lasting x.journal).toInvariant.conduct.dispatchWithin (depth + 1) frame x
    List.prefix_rfl
  refine ⟨dispatch_consumes depth frame h made, ?_, ?_⟩
  · rcases after.single (grown.subset made) with ⟨live, -⟩ | ⟨-, one, zero⟩ | ⟨-, zero, one⟩
    · rw [dispatch_consumes depth frame h made] at live
      cases live
    · rw [one, zero]
    · rw [zero, one]
  · rintro place within rfl live
    obtain ⟨served, started⟩ := passWith_place (conduct_continues.dispatchWithin depth) frame
      (x.registry.onTopic_nodup frame.topic) x place within
    obtain ⟨s, -, registered, serves, -⟩ := atTurn_serves depth frame x place within live
    exact ⟨⟨s, registered, serves⟩, started (served.mpr live)⟩

/-- The request of a single subscription, cut at one of the frames that came back. -/
private theorem requestWith_cut (depth : Nat) (topic : String) (message : Json)
    (callback : Callback ν) (x : Exchange ν σ) {earlier later : List Frame} {frame : Frame}
    (returned : (x.ask topic message callback).2 = earlier ++ frame :: later) :
    requestWith (dispatchWithin depth) topic message callback x =
      (dispatchAll depth later (dispatchWithin depth frame
        (dispatchAll depth earlier (x.ask topic message callback).1)).1, x.registry.nextId) := by
  unfold requestWith publishWith
  rw [ask] at returned
  simp only [returned, List.foldl_append, List.foldl_cons]
  rfl

private theorem ask_made (depth : Nat) (topic : String) (message : Json) (callback : Callback ν)
    {x : Exchange ν σ} (h : x.IsAccounted) (earlier : List Frame) :
    (dispatchAll depth earlier (x.ask topic message callback).1).IsAccounted ∧
      .subscribed x.registry.nextId topic .once ∈
        (dispatchAll depth earlier (x.ask topic message callback).1).journal := by
  have accounted := (isAccounted_lasting (ν := ν) (σ := σ)).toInvariant.conduct
  have subscribed : (x.subscribe ⟨topic, .once, callback⟩).IsAccounted := h.insert _
  have grown := (journal_lasting (ν := ν) (σ := σ)
    (x.subscribe ⟨topic, .once, callback⟩).journal).toInvariant.conduct
  constructor
  · exact accounted.returned (accounted.dispatchWithin depth) earlier _
      (accounted.emit _ _ subscribed)
  · refine (grown.returned (grown.dispatchWithin depth) earlier _
      (grown.emit _ _ List.prefix_rfl)).subset ?_
    simp [subscribe, enter]

/-- In every run that begins with nothing subscribed, and at every point of it, a single
subscription is live, or has fired once, or has been removed once; what it is no longer it never
will be again, and while its callback runs it is not live. -/
theorem single_fires_once {x : Exchange ν σ} (fresh : x.IsFresh) {m : Machine ν σ}
    (reached : Machine.Reaches ⟨x, x.nesting, .ended none, []⟩ m) :
    (∀ id topic, .subscribed id topic .once ∈ m.exchange.journal →
      ((m.exchange.registry.contains id = true ∧
          startsOf id m.exchange.journal = 0 ∧ removalsOf id m.exchange.journal = 0) ∨
        (m.exchange.registry.contains id = false ∧
          startsOf id m.exchange.journal = 1 ∧ removalsOf id m.exchange.journal = 0) ∨
        (m.exchange.registry.contains id = false ∧
          startsOf id m.exchange.journal = 0 ∧ removalsOf id m.exchange.journal = 1)) ∧
      (m.exchange.registry.contains id = false → ∀ n, Machine.Reaches m n →
        n.exchange.registry.contains id = false ∧
        startsOf id n.exchange.journal = startsOf id m.exchange.journal ∧
        removalsOf id n.exchange.journal = removalsOf id m.exchange.journal) ∧
      (∀ callback frame rest invoked, .callback id callback frame rest invoked ∈ m.waiting →
        m.exchange.registry.contains id = false ∧ m.exchange.registry.delivery? id = none ∧
        startsOf id m.exchange.journal = 1) ∧
      (∀ depth frame, frame.topic = topic → Fires depth frame m.exchange id)) ∧
    (∀ id, removalsOf id (m.exchange.unsubscribe id).journal =
      removalsOf id m.exchange.journal + (m.exchange.registry.contains id).toNat) ∧
    (∀ depth topic message callback earlier frame later,
      (m.exchange.ask topic message callback).2 = earlier ++ frame :: later → frame.topic = topic →
      requestWith (dispatchWithin (depth + 1)) topic message callback m.exchange =
        (dispatchAll (depth + 1) later (dispatchWithin (depth + 1) frame
          (dispatchAll (depth + 1) earlier (m.exchange.ask topic message callback).1)).1,
          m.exchange.registry.nextId) ∧
      Fires depth frame (dispatchAll (depth + 1) earlier (m.exchange.ask topic message callback).1)
        m.exchange.registry.nextId) := by
  have accounted : m.exchange.IsAccounted := isAccounted_lasting.reaches reached fresh.isAccounted
  refine ⟨fun id topic made => ⟨accounted.single made, ?_, ?_, ?_⟩, ?_, ?_⟩
  · intro dead n later
    have grown := (journal_lasting m.exchange.journal).reaches later List.prefix_rfl
    have after := isAccounted_lasting.reaches later accounted
    have stays := ((gone_lasting id).reaches later
      ⟨Registry.contains_eq_false.mp dead, (accounted.issued made).2⟩).1
    have total := accounted.gone made (Registry.contains_eq_false.mp dead)
    have total' := after.gone (grown.subset made) stays
    obtain ⟨more, journal⟩ := grown
    rw [← journal] at total' ⊢
    simp only [startsOf_append, removalsOf_append, if_true] at total total' ⊢
    refine ⟨Registry.contains_eq_false.mpr stays, ?_, ?_⟩
    · omega
    · omega
  · intro callback frame rest invoked running
    have begun : m.IsBegun := Machine.IsBegun.reaches (by simp [Machine.IsBegun]) reached
    obtain ⟨dead, one⟩ := contains_of_started accounted made (begun _ running)
    exact ⟨dead, Registry.delivery?_eq_none.mpr (Registry.contains_eq_false.mp dead), one⟩
  · rintro depth frame rfl
    exact dispatch_fires depth frame accounted made
  · exact removalsOf_unsubscribe m.exchange
  · rintro depth topic message callback earlier frame later returned rfl
    obtain ⟨accounted', made⟩ := ask_made (depth + 1) frame.topic message callback accounted earlier
    exact ⟨requestWith_cut _ _ _ _ _ returned, dispatch_fires depth frame accounted' made⟩

/-- A request whose message comes back at once has fired. -/
theorem single_fires_once_echoed :
    let x : Exchange Unit Recorder :=
      { policy := .strict, outlet := { echoes := true }, nesting := 2 }
    let y := (x.execute (.request "news" .null (fun _ _ => .done .nothing) fun _ =>
      .done .nothing)).1
    y.registry.contains ⟨1⟩ = false ∧ startsOf ⟨1⟩ y.journal = 1 ∧
      removalsOf ⟨1⟩ y.journal = 0 := by
  intro x y
  have fresh : x.IsFresh := ⟨rfl, by simp [x]⟩
  have reached := Machine.reaches_execute x x.nesting none (.request "news" .null
    (fun _ _ => .done .nothing) fun _ => .done .nothing)
  have made : .subscribed ⟨1⟩ "news" .once ∈ y.journal := by decide
  have fate := ((single_fires_once fresh reached).1 ⟨1⟩ "news" made).1
  rcases fate with ⟨live, -⟩ | fired | ⟨-, zero, -⟩
  · exact absurd live (by decide)
  · exact fired
  · exact absurd zero (by decide)

end Exchange

end Switchboard
