import Switchboard.Proofs.Exchange.Pass
/-!
What becomes of one inbound text. The outcome is told by how many callbacks ran, yet it can be told
from the registry before: the first subscription of a snapshot is live when its turn comes, so that
no removal within the pass brings a match down to nothing, and the snapshot bounds the pass from
above, whatever is added.
-/

set_option autoImplicit false
set_option relaxedAutoImplicit false

namespace Switchboard.Exchange

variable {ν σ : Type} [Outlet σ] {frame : Frame}

theorem passWith_head (dispatcher : Dispatcher ν σ) (frame : Frame) {id : SubscriptionId}
    (rest : List SubscriptionId) {x : Exchange ν σ} (live : x.registry.contains id = true) :
    ∃ others, (passWith dispatcher frame (id :: rest) x).2 = id :: others := by
  obtain ⟨s, found⟩ := Registry.contains_eq_true.mp live
  have taken := Registry.take_eq_some.mpr ⟨found, rfl⟩
  rw [passWith, taken]
  exact ⟨_, rfl⟩

/-- A pass over a snapshot serves somebody unless the snapshot is empty, and never more than were
in it. -/
theorem passWith_onTopic (dispatcher : Dispatcher ν σ) (frame : Frame) (x : Exchange ν σ) :
    (passWith dispatcher frame (x.registry.onTopic frame.topic) x).2.length ≤
        x.registry.topicCount frame.topic ∧
      (x.registry.topicCount frame.topic ≠ 0 →
        1 ≤ (passWith dispatcher frame (x.registry.onTopic frame.topic) x).2.length) := by
  constructor
  · exact (passWith_sublist dispatcher frame _ x).length_le
  · intro matched
    obtain ⟨id, rest, snapshot⟩ := List.exists_cons_of_length_pos (Nat.pos_of_ne_zero matched)
    have member : id ∈ x.registry.onTopic frame.topic := by
      rw [snapshot]
      exact List.mem_cons_self
    obtain ⟨s, found, -⟩ := Registry.mem_onTopic.mp member
    obtain ⟨others, served⟩ := passWith_head dispatcher frame rest
      (Registry.contains_eq_true.mpr ⟨s, found⟩)
    rw [snapshot, served]
    exact Nat.succ_pos _

theorem dispatchWithin_unmatched (depth : Nat) {x : Exchange ν σ}
    (unmatched : x.registry.topicCount frame.topic = 0) :
    dispatchWithin (depth + 1) frame x = (x, 0) := by
  have nobody : x.registry.onTopic frame.topic = [] := List.length_eq_zero_iff.mp unmatched
  rw [dispatchWithin, nobody]
  rfl

theorem dispatchWithin_matched (depth : Nat) {x : Exchange ν σ}
    (matched : x.registry.topicCount frame.topic ≠ 0) :
    ∃ events, (dispatchWithin (depth + 1) frame x).1.journal = x.journal ++ events ∧
      (outermostStarts events).length = (dispatchWithin (depth + 1) frame x).2 ∧
      1 ≤ (dispatchWithin (depth + 1) frame x).2 ∧
      (dispatchWithin (depth + 1) frame x).2 ≤ x.registry.topicCount frame.topic := by
  obtain ⟨atMost, some⟩ := passWith_onTopic (dispatchWithin depth) frame x
  obtain ⟨events, serves⟩ := exists_servesLive depth frame x
  exact ⟨events, serves.journal, serves.length_starts, some matched, atMost⟩

/-- The outcome of routing a text, at whatever depth this happens. A text that is no frame and one
on a topic without subscriptions leave nothing but their entry; any other reaches some of those that
were subscribed when it came in, and no more than these, however callbacks change the topic. -/
theorem route_outcome (depth : Nat) (text : String) (x : Exchange ν σ) :
    let routed := routeWith (dispatchWithin (depth + 1)) text x
    ((routed.2 = .malformed ↔ ∃ e, Frame.parse x.policy text = .error e) ∧
      ∀ e, Frame.parse x.policy text = .error e → routed.1 = x.enter [.malformed e text]) ∧
    ((routed.2 = .unmatched ↔ ∃ frame, Frame.parse x.policy text = .ok frame ∧
        x.registry.topicCount frame.topic = 0) ∧
      ∀ frame, Frame.parse x.policy text = .ok frame → x.registry.topicCount frame.topic = 0 →
        routed.1 = x.enter [.unmatched frame.topic]) ∧
    ∀ frame, Frame.parse x.policy text = .ok frame → x.registry.topicCount frame.topic ≠ 0 →
      ∃ n events, routed.2 = .delivered n ∧ 1 ≤ n ∧ n ≤ x.registry.topicCount frame.topic ∧
        routed.1.journal = x.journal ++ events ++ [.delivered frame.topic frame.code n] ∧
        (outermostStarts events).length = n := by
  intro routed
  cases read : Frame.parse x.policy text with
  | error e =>
    have whole : routed = (x.enter [.malformed e text], .malformed) := by
      simp only [routed, routeWith, read]
    simp [whole]
  | ok frame =>
    have whole : routed = ((dispatchWithin (depth + 1) frame x).1.enter
        [.routed frame (dispatchWithin (depth + 1) frame x).2],
        .ofCount (dispatchWithin (depth + 1) frame x).2) := by
      simp only [routed, routeWith, read]
    by_cases unmatched : x.registry.topicCount frame.topic = 0
    · have same : routed = (x.enter [.unmatched frame.topic], .unmatched) := by
        rw [whole, dispatchWithin_unmatched depth unmatched]
        rfl
      simp [same, unmatched]
    · obtain ⟨events, journal, starts, some, atMost⟩ := dispatchWithin_matched depth unmatched
      have count : (dispatchWithin (depth + 1) frame x).2 ≠ 0 := Nat.ne_of_gt some
      have outcome : routed.2 = .delivered (dispatchWithin (depth + 1) frame x).2 := by
        rw [whole, RouteOutcome.ofCount, if_neg count]
      refine ⟨by simp [outcome], by simp [outcome, unmatched], fun _ same _ => ?_⟩
      cases same
      refine ⟨_, events, outcome, some, atMost, ?_, starts⟩
      rw [whole]
      simp only [enter, journal, Event.routed, if_neg count]

/-- Two subscriptions on a topic, the first of which takes the other off and adds two more. -/
private def crowded : Exchange Unit Recorder :=
  let replacing : Program Unit := .unsubscribe ⟨2⟩ fun _ =>
    .subscribe "news" .persistent false (fun _ _ => .done .nothing) fun _ =>
      .subscribe "news" .once false (fun _ _ => .done .nothing) fun _ => .panic
  let empty : Exchange Unit Recorder := { policy := .strict, outlet := { echoes := false } }
  (empty.subscribe ⟨"news", .persistent, .program false fun _ _ => replacing⟩).subscribe
    ⟨"news", .once, .program false fun _ _ => .done .nothing⟩

private def notice : String := "\x7b\"topic\":\"news\",\"code\":\"payload\",\"value\":1\x7d"

theorem route_outcome_thinned :
    ∃ n, (routeWith (dispatchWithin 2) notice crowded).2 = .delivered n ∧ 1 ≤ n ∧ n ≤ 2 ∧
      (routeWith (dispatchWithin 2) notice crowded).1.registry.topicCount "news" = 3 := by
  have read : Frame.parse .strict notice = .ok ⟨"news", "payload", .number (.integer 1)⟩ := by
    decide +kernel
  have matched : crowded.registry.topicCount "news" = 2 := by decide +kernel
  have after : (routeWith (dispatchWithin 2) notice crowded).1.registry.topicCount "news" = 3 := by
    decide +kernel
  obtain ⟨n, events, outcome, some, atMost, -⟩ :=
    (route_outcome 1 notice crowded).2.2 _ read (by rw [matched]; decide)
  rw [matched] at atMost
  exact ⟨n, outcome, some, atMost, after⟩

end Switchboard.Exchange
