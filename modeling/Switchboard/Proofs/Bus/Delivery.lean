import Switchboard.Proofs.Bus.Acts
/-!
Delivery from end to end: which of the messages that a line reads from its socket reach a
subscription, and in which order.
-/

set_option autoImplicit false
set_option relaxedAutoImplicit false

namespace Switchboard

variable {ν : Type}

open Exchange

/-- Whether a subscription is live when the dispatch of a frame begins, and still live at its turn
in the pass. -/
def Exchange.staysFor {σ : Type} [Outlet σ] (x : Exchange ν σ) (frame : Frame)
    (id : SubscriptionId) : Bool :=
  x.registry.contains id && (atTurn (x.nesting - 1) frame x
    ((x.registry.onTopic frame.topic).idxOf id)).registry.contains id

namespace Bus

/-- What a message brings a subscription on a topic: the reply in its frame, if the line is open,
the message carries a text that is a frame on this topic, and the subscription stays for it. -/
def brings (policy : Policy) (topic : String) (id : SubscriptionId) (b : Bus ν)
    (message : Message) : List Reply :=
  match b.line.phase, message.text? with
  | .open, some text =>
    match Frame.parse policy text with
    | .ok frame =>
      if frame.topic = topic ∧ (b.signal (.received message)).staysFor frame id then [frame.reply]
      else []
    | .error _ => []
  | _, _ => []

def bringsBy (policy : Policy) (topic : String) (id : SubscriptionId) (b : Bus ν) :
    Act ν → List Reply
  | .receive message => b.brings policy topic id message
  | _ => []

/-- What the messages of a run bring it, in the order in which they arrive. -/
def brought (policy : Policy) (topic : String) (id : SubscriptionId) :
    Bus ν → List (Act ν) → List Reply
  | _, [] => []
  | b, act :: rest =>
    b.bringsBy policy topic id act ++ brought policy topic id (act.apply b) rest

/-- A message that nothing comes of: a ping or a pong, a text that is no frame, or a frame on a
topic without subscriptions. -/
inductive IsIdle (policy : Policy) (b : Bus ν) : Message → Prop
  | ping (octets : List UInt8) : IsIdle policy b (.ping octets)
  | pong (octets : List UInt8) : IsIdle policy b (.pong octets)
  | malformed {message : Message} (text : String) (error : FrameError) :
    message.text? = some text → Frame.parse policy text = .error error → IsIdle policy b message
  | unheard {message : Message} (text : String) (frame : Frame) :
    message.text? = some text → Frame.parse policy text = .ok frame →
    b.registry.topicCount frame.topic = 0 → IsIdle policy b message

/-- A bus as it was made with a policy, whatever has been done to it since. -/
structure IsSetUp (policy : Policy) (b : Bus ν) : Prop where
  policy : b.policy = policy
  nesting : b.nesting = 10000
  handler : b.line.setup.onMessage = true
  tame : b.IsTame

section Reception

variable {policy : Policy} {b c : Bus ν}

theorem create_isSetUp (settings : Settings) (onClose : Bool) :
    (create settings onClose : Bus ν).IsSetUp settings.policy :=
  ⟨rfl, rfl, rfl, fun _ _ found => nomatch found⟩

theorem Tells.isSetUp {told : SubscriptionId → List Reply} (h : Tells told b c)
    (setUp : b.IsSetUp policy) : c.IsSetUp policy where
  policy := h.policy.trans setUp.policy
  nesting := h.nesting.trans setUp.nesting
  handler := by rw [h.setup, setUp.handler]
  tame := h.tame setUp.tame

theorem dispatch_hands (setUp : b.IsSetUp policy) (frame : Frame) :
    b.dispatch frame = dispatchWithin (9999 + 1) frame b ∧
    ∃ events served, ServesLive 9999 frame b events served ∧
      Hands (toEach served frame.reply) b (b.dispatch frame).1 := by
  have deep : b.dispatch frame = dispatchWithin (9999 + 1) frame b := by
    rw [dispatch, setUp.nesting]
  obtain ⟨events, serves⟩ := exists_servesLive 9999 frame b
  rw [deep]
  exact ⟨rfl, events, _, serves, dispatchWithin_hands setUp.tame serves⟩

/-- A frame that is read while the line is open brings a subscription its reply exactly if the pass
over its topic serves it. -/
theorem brings_eq (setUp : b.IsSetUp policy) (accounted : b.IsAccounted) {id : SubscriptionId}
    {topic : String}
    (known : ∀ topic' delivery, .subscribed id topic' delivery ∈ b.journal → topic' = topic)
    {message : Message} {text : String} {frame : Frame} (isOpen : b.line.phase = .open)
    (carries : message.text? = some text) (parsed : Frame.parse policy text = .ok frame)
    {events : List Event} {served : List SubscriptionId}
    (serves : ServesLive 9999 frame (b.signal (.received message)) events served) :
    b.brings policy topic id message = if id ∈ served then [frame.reply] else [] := by
  have nesting : (b.signal (.received message)).nesting = 10000 := setUp.nesting
  -- a live subscription is on the topic with which it was made
  have onTopic : ∀ {s}, b.registry.get? id = some s → s.topic = topic :=
    fun found => known _ _ (accounted.live found).1
  simp only [brings, isOpen, carries, parsed]
  refine if_congr ?_ rfl rfl
  rw [serves.mem_iff, staysFor, nesting, Bool.and_eq_true, Registry.mem_onTopic]
  constructor
  · rintro ⟨isTopic, live, turn⟩
    obtain ⟨s, found⟩ := Registry.contains_eq_true.mp live
    exact ⟨⟨s, found, (onTopic found).trans isTopic.symm⟩, turn⟩
  · rintro ⟨⟨s, found, isTopic⟩, turn⟩
    exact ⟨isTopic.symm.trans (onTopic found), Registry.contains_eq_true.mpr ⟨s, found⟩, turn⟩

/-- A message reaches exactly those whom it brings something. -/
theorem receive_tells (setUp : b.IsSetUp policy) (accounted : b.IsAccounted) (message : Message) :
    ∃ told, Tells told b (b.receive message) ∧ ∀ id topic,
      (∀ topic' delivery, .subscribed id topic' delivery ∈ b.journal → topic' = topic) →
      told id = b.brings policy topic id message := by
  have received := b.receive_received message
  have read := b.signal_tells (.received message)
  generalize b.receive message = c at received ⊢
  cases received with
  | read unheard =>
    refine ⟨_, read, fun id topic _ => ?_⟩
    unfold brings
    split
    · rename_i text isOpen carries
      rcases unheard with closed | untold | handler
      · exact absurd isOpen closed
      · rw [carries] at untold
        cases untold
      · rw [setUp.handler] at handler
        cases handler
    · rfl
  | malformed text error isOpen carries parsed =>
    refine ⟨_, read.before (telling.quiet _ _ (by simp [Event.isQuiet])).toTells,
      fun id topic _ => ?_⟩
    rw [setUp.policy] at parsed
    simp [brings, isOpen, carries, parsed, nothing]
  | routed text frame isOpen carries parsed =>
    obtain ⟨-, events, served, serves, dispatched⟩ := dispatch_hands (read.isSetUp setUp) frame
    have quiet : ∀ invoked, ∀ e ∈ [Event.routed frame invoked], e.isQuiet = true := by
      simp [Event.isQuiet_routed]
    rw [setUp.policy] at parsed
    refine ⟨_, read.before (telling.behind dispatched (telling.quiet _ _ (quiet _))).toTells,
      fun id topic known => ?_⟩
    exact (brings_eq setUp accounted known isOpen carries parsed serves).symm

theorem apply_brings (setUp : b.IsSetUp policy) (accounted : b.IsAccounted) {act : Act ν}
    (tame : act.IsTame) : ∃ told, Tells told b (act.apply b) ∧ ∀ id topic,
      (∀ topic' delivery, .subscribed id topic' delivery ∈ b.journal → topic' = topic) →
      told id = b.bringsBy policy topic id act := by
  cases act with
  | receive message => exact receive_tells setUp accounted message
  | _ => exact ⟨nothing, apply_tells tame nofun, fun _ _ _ => rfl⟩

/-- In a run a subscription hears what the messages bring it and nothing else. -/
theorem after_brought (setUp : b.IsSetUp policy) (accounted : b.IsAccounted) {acts : List (Act ν)}
    (tame : ∀ act ∈ acts, act.IsTame) :
    (b.after acts).IsSetUp policy ∧ (b.after acts).IsAccounted ∧ ∀ id topic,
      (∀ topic' delivery, .subscribed id topic' delivery ∈ (b.after acts).journal →
        topic' = topic) →
      repliesTo id (b.after acts).journal =
        repliesTo id b.journal ++ brought policy topic id b acts := by
  induction acts generalizing b with
  | nil => exact ⟨setUp, accounted, fun _ _ _ => (List.append_nil _).symm⟩
  | cons act rest ih =>
    obtain ⟨told, tells, brings⟩ := apply_brings setUp accounted (tame act List.mem_cons_self)
    have accounted' := b.apply_moves act _ isAccounted_lasting accounted
    obtain ⟨setUp', accounted'', later⟩ := ih (tells.isSetUp setUp) accounted'
      fun act member => tame act (List.mem_cons_of_mem _ member)
    refine ⟨setUp', accounted'', fun id topic known => ?_⟩
    have grown : b.journal <+: (b.after (act :: rest)).journal :=
      b.after_moves (act :: rest) _ (journal_lasting b.journal) (List.prefix_refl _)
    rw [after, later id topic known, tells.replies, List.append_assoc, brought,
      brings id topic fun topic' delivery made => known topic' delivery (grown.subset made)]

theorem signal_received (b : Bus ν) {message : Message}
    (steady : Signal.isSteady (.received message) = true) :
    b.signal (.received message) = b.enter (b.line.step (.received message)).2 := by
  have line : (b.line.step (.received message)).1 = b.line := by
    simp only [Line.step]
    split
    · cases message with
      | close code reason => cases steady
      | broken detail => cases steady
      | ended => cases steady
      | _ => rfl
    · rfl
  have step : b.outlet.line.step (.received message) =
      (b.outlet.line, (b.line.step (.received message)).2) := Prod.ext line rfl
  rw [signal, Trunk.signal, step]

/-- An idle message is told in the journal and leaves no other trace. -/
theorem receive_idle (setUp : b.IsSetUp policy) {message : Message}
    (idle : b.IsIdle policy message) :
    ∃ own, b.receive message = b.enter own ∧ ∀ e ∈ own, e.isQuiet = true := by
  have steady : Signal.isSteady (.received message) = true := by
    cases idle with
    | ping octets => rfl
    | pong octets => rfl
    | malformed text error carries => exact Signal.steady_of_text carries
    | unheard text frame carries => exact Signal.steady_of_text carries
  have read := b.signal_received steady
  have quiet : ∀ e ∈ (b.line.step (.received message)).2, e.isQuiet = true :=
    fun e member => Event.isQuiet_of_isOutward (b.line.step_outward _ e member)
  generalize (b.line.step (.received message)).2 = own at read quiet
  have told : ∀ last : Event, last.isQuiet = true → ∃ own,
      (b.signal (.received message)).enter [last] = b.enter own ∧
        ∀ e ∈ own, e.isQuiet = true := by
    intro last quietLast
    refine ⟨own ++ [last], by rw [read]; simp [enter], fun e member => ?_⟩
    rcases List.mem_append.mp member with member | member
    · exact quiet e member
    · rwa [List.mem_singleton.mp member]
  have received := b.receive_received message
  generalize b.receive message = c at received ⊢
  cases received with
  | read => exact ⟨own, read, quiet⟩
  | malformed text error => exact told _ rfl
  | routed text frame isOpen carries parsed =>
    have nobodyLive : b.registry.onTopic frame.topic = [] := by
      rw [setUp.policy] at parsed
      cases idle with
      | ping octets => cases carries
      | pong octets => cases carries
      | malformed text' error carries' parsed' =>
        cases carries.symm.trans carries'
        cases parsed.symm.trans parsed'
      | unheard text' frame' carries' parsed' none =>
        cases carries.symm.trans carries'
        cases parsed.symm.trans parsed'
        exact List.eq_nil_of_length_eq_zero none
    have unserved : (b.signal (.received message)).dispatch frame =
        (b.signal (.received message), 0) := by
      have deep : (b.signal (.received message)).nesting = 9999 + 1 := setUp.nesting
      have empty : (b.signal (.received message)).registry.onTopic frame.topic = [] := nobodyLive
      rw [dispatch, deep, dispatchWithin, empty]
      rfl
    rw [unserved]
    exact told _ (Event.isQuiet_routed frame 0)

theorem receive_phase (setUp : b.IsSetUp policy) {message : Message} {text : String}
    (carries : message.text? = some text) : (b.receive message).line.phase = b.line.phase := by
  have read := b.signal_hands (Signal.steady_of_text carries)
  have received := b.receive_received message
  generalize b.receive message = c at received ⊢
  cases received with
  | read => exact read.phase
  | malformed text error => exact read.phase
  | routed text frame =>
    obtain ⟨-, _, _, -, dispatched⟩ := dispatch_hands (read.toTells.isSetUp setUp) frame
    exact dispatched.phase.trans read.phase

/-- A run goes on after an idle message as it would have without it. -/
theorem after_without {message : Message} {own : List Event}
    (told : b.receive message = b.enter own) (later : List (Act ν)) : ∃ since,
      (b.after later).journal = b.journal ++ since ∧
      b.after (.receive message :: later) =
        { b.after later with journal := b.journal ++ own ++ since } := by
  have twins : Twin b.journal (b.journal ++ own) (b.after later)
      (b.after (.receive message :: later)) := by
    rw [after, Act.apply, told]
    exact after_twin (.entered b own) later
  exact twins

/-- A message on another topic does not reach a subscription, and leaves it live unless a callback
on that topic removes it. -/
theorem receive_foreign (setUp : b.IsSetUp policy) (accounted : b.IsAccounted)
    {id : SubscriptionId} {topic : String}
    (known : ∀ topic' delivery, .subscribed id topic' delivery ∈ b.journal → topic' = topic)
    {message : Message} {text : String} {frame : Frame} (carries : message.text? = some text)
    (parsed : Frame.parse policy text = .ok frame) (foreign : frame.topic ≠ topic) :
    repliesTo id (b.receive message).journal = repliesTo id b.journal ∧
      (b.registry.contains id = true → .unsubscribed id ∉ b.journal ∧
        (.unsubscribed id ∉ (b.receive message).journal →
          (b.receive message).registry.contains id = true)) := by
  have moves := b.apply_moves (.receive message)
  obtain ⟨told, tells, brings⟩ := receive_tells setUp accounted message
  have unserved : repliesTo id (b.receive message).journal = repliesTo id b.journal := by
    have nothing : b.brings policy topic id message = [] := by
      unfold Bus.brings
      split
      · rename_i text' _ carries'
        cases carries.symm.trans carries'
        simp [parsed, foreign]
      · rfl
    rw [tells.replies, brings id topic known, nothing, List.append_nil]
  refine ⟨unserved, fun live => ⟨?_, contains_of_unremoved accounted
    (moves _ isAccounted_lasting accounted)
    (moves _ (journal_lasting b.journal) (List.prefix_refl _)) unserved live⟩⟩
  obtain ⟨s, found⟩ := Registry.contains_eq_true.mp live
  exact List.count_eq_zero.mp (accounted.live found).2.1

/-- A frame that is read while the line is open is dispatched in one pass, and it brings a subscription
its reply exactly if that pass serves it. -/
theorem receive_serves (setUp : b.IsSetUp policy) (accounted : b.IsAccounted)
    {id : SubscriptionId} {topic : String}
    (known : ∀ topic' delivery, .subscribed id topic' delivery ∈ b.journal → topic' = topic)
    {message : Message} {text : String} {frame : Frame} (isOpen : b.line.phase = .open)
    (carries : message.text? = some text) (parsed : Frame.parse policy text = .ok frame) :
    ∃ depth events served, b.nesting = depth + 1 ∧
      ServesLive depth frame (b.signal (.received message)) events served ∧
      b.receive message = (dispatchWithin (depth + 1) frame (b.signal (.received message))).1.enter
        [.routed frame served.length] ∧
      b.brings policy topic id message = if id ∈ served then [frame.reply] else [] := by
  obtain ⟨deep, events, served, serves, -⟩ :=
    dispatch_hands ((b.signal_tells (.received message)).isSetUp setUp) frame
  refine ⟨9999, events, served, setUp.nesting, serves, ?_,
    brings_eq setUp accounted known isOpen carries parsed serves⟩
  have received := b.receive_received message
  generalize b.receive message = c at received ⊢
  cases received with
  | read unheard =>
    rcases unheard with closed | untold | handler
    · exact absurd isOpen closed
    · cases carries.symm.trans untold
    · cases setUp.handler.symm.trans handler
  | malformed text' error isOpen' carries' parsed' =>
    rw [setUp.policy] at parsed'
    cases carries.symm.trans carries'
    cases parsed.symm.trans parsed'
  | routed text' frame' isOpen' carries' parsed' =>
    rw [setUp.policy] at parsed'
    cases carries.symm.trans carries'
    cases parsed.symm.trans parsed'
    rw [deep, serves.counted]

end Reception

/-- From end to end: a subscription hears, in the order of their arrival, the frames on its topic
among the messages that are read while the line is open, each once, as far as it stays for them. It
hears one by the call of its registered callback in the pass over the topic. An idle message could
as well have been left out, and one on another topic bears on the subscription only by what the
callbacks on that topic do. -/
theorem delivers_what_arrives (settings : Settings) (onClose : Bool) {acts : List (Act ν)}
    (tame : ∀ act ∈ acts, act.IsTame) {id : SubscriptionId} {topic : String} {delivery : Delivery}
    (made : .subscribed id topic delivery ∈
      ((create settings onClose : Bus ν).after acts).journal) :
    let start : Bus ν := create settings onClose
    repliesTo id (start.after acts).journal = brought settings.policy topic id start acts ∧
    ∀ before message later, acts = before ++ .receive message :: later →
      let b := start.after before
      (∀ text frame, b.line.phase = .open → message.text? = some text →
        Frame.parse settings.policy text = .ok frame →
        ∃ depth events served, b.nesting = depth + 1 ∧
          ServesLive depth frame (b.signal (.received message)) events served ∧
          b.receive message =
            (dispatchWithin (depth + 1) frame (b.signal (.received message))).1.enter
              [.routed frame served.length] ∧
          b.brings settings.policy topic id message =
            if id ∈ served then [frame.reply] else []) ∧
      (b.IsIdle settings.policy message → ∃ own since,
        b.receive message = b.enter own ∧ (∀ e ∈ own, e.isQuiet = true) ∧
        (start.after (before ++ later)).journal = b.journal ++ since ∧
        start.after acts =
          { start.after (before ++ later) with journal := b.journal ++ own ++ since }) ∧
      (∀ text frame, message.text? = some text → Frame.parse settings.policy text = .ok frame →
        frame.topic ≠ topic →
        repliesTo id (b.receive message).journal = repliesTo id b.journal ∧
        (b.receive message).line.phase = b.line.phase ∧
        (b.registry.contains id = true → .unsubscribed id ∉ b.journal ∧
          (.unsubscribed id ∉ (b.receive message).journal →
            (b.receive message).registry.contains id = true))) := by
  intro start
  have setUp : start.IsSetUp settings.policy := create_isSetUp settings onClose
  have fresh : start.IsFresh := ⟨rfl, by simp [start, create, Event.isQuiet]⟩
  obtain ⟨-, accounted, heard⟩ := after_brought setUp fresh.isAccounted tame
  have known : ∀ topic' delivery', .subscribed id topic' delivery' ∈ (start.after acts).journal →
      topic' = topic := fun _ _ made' => (accounted.unique made' made).1
  refine ⟨heard id topic known, ?_⟩
  rintro before message later rfl b
  obtain ⟨setUp', accounted', -⟩ := after_brought setUp fresh.isAccounted
    fun act member => tame act (List.mem_append_left _ member)
  have whole : start.after (before ++ .receive message :: later) =
      b.after (.receive message :: later) := start.after_append _ _
  have knownBefore : ∀ topic' delivery', .subscribed id topic' delivery' ∈ b.journal →
      topic' = topic := by
    have grown : b.journal <+: (start.after (before ++ .receive message :: later)).journal := by
      rw [whole]
      exact b.after_moves _ _ (journal_lasting b.journal) (List.prefix_refl _)
    exact fun topic' delivery' made' => known topic' delivery' (grown.subset made')
  refine ⟨fun text frame isOpen carries parsed => ?_, fun idle => ?_,
    fun text frame carries parsed foreign => ?_⟩
  · exact receive_serves setUp' accounted' knownBefore isOpen carries parsed
  · obtain ⟨own, told, quiet⟩ := receive_idle setUp' idle
    obtain ⟨since, journal, same⟩ := after_without told later
    rw [whole, start.after_append before later]
    exact ⟨own, since, told, quiet, journal, same⟩
  · obtain ⟨unserved, live⟩ := receive_foreign setUp' accounted' knownBefore carries parsed foreign
    exact ⟨unserved, receive_phase setUp' carries, live⟩

/-- A run with a message of every kind: two of them reach the subscription, whose callback notes what
it is called with and fails each time, and without the ping the same subscriptions are live in the
end. -/
theorem delivers_what_arrives_mixed :
    let listener : Program (SubscriptionId × Reply) :=
      .subscribe "a" .persistent false (fun id reply => .note (id, reply) .panic) fun _ =>
        .subscribe "b" .persistent false
          (fun id reply => .note (id, reply) (.unsubscribe id fun _ => .done .nothing))
          fun _ => .done .nothing
    let start : Bus (SubscriptionId × Reply) := create (.withEndpoint "ws://host") false
    let frame (topic : String) : String := (Frame.payload topic .null).toText
    let acts : List (Act (SubscriptionId × Reply)) := [.step .established, .run listener,
      .receive (.text (frame "a")), .receive (.ping []), .receive (.text "a"),
      .receive (.text (frame "b")), .receive (.binary (Text.encode (frame "a")))]
    (∀ act ∈ acts, act.IsTame) ∧
      .subscribed ⟨1⟩ "a" .persistent ∈ (start.after acts).journal ∧
      brought .strict "a" ⟨1⟩ start acts = [⟨payloadCode, .null⟩, ⟨payloadCode, .null⟩] ∧
      (start.after acts).notes = [(⟨1⟩, ⟨payloadCode, .null⟩), (⟨2⟩, ⟨payloadCode, .null⟩),
        (⟨1⟩, ⟨payloadCode, .null⟩)] ∧
      (start.after acts).registry = (start.after (acts.eraseIdx 3)).registry := by
  intro listener start frame acts
  have tame : ∀ act ∈ acts, act.IsTame := by
    simp [acts, listener, Act.IsTame, Program.IsTame]
  have made : .subscribed ⟨1⟩ "a" .persistent ∈ (start.after acts).journal := by
    decide +kernel
  obtain ⟨heard, each⟩ := delivers_what_arrives (.withEndpoint "ws://host") false tame made
  obtain ⟨own, since, -, -, -, same⟩ :=
    (each (acts.take 3) (.ping []) (acts.drop 4) rfl).2.1 (.ping [])
  have replies : repliesTo ⟨1⟩ (start.after acts).journal =
      [⟨payloadCode, .null⟩, ⟨payloadCode, .null⟩] := by decide +kernel
  refine ⟨tame, made, heard.symm.trans replies, by decide +kernel, ?_⟩
  rw [same]
  rfl

/-- A message on another topic can keep later messages from a subscription, by a callback that
removes it: left out, it would have let the next message through. -/
theorem foreign_message_silences :
    let listener : Program (SubscriptionId × Reply) :=
      .subscribe "a" .persistent false (fun id reply => .note (id, reply) (.done .nothing)) fun id =>
        .subscribe "b" .persistent false (fun _ _ => .unsubscribe id fun _ => .done .nothing)
          fun _ => .done .nothing
    let start : Bus (SubscriptionId × Reply) := create (.withEndpoint "ws://host") false
    let before : List (Act (SubscriptionId × Reply)) := [.step .established, .run listener]
    let foreign : Message := .text (Frame.payload "b" .null).toText
    let later : List (Act (SubscriptionId × Reply)) :=
      [.receive (.text (Frame.payload "a" .null).toText)]
    (∀ act ∈ before ++ .receive foreign :: later, act.IsTame) ∧
      .subscribed ⟨1⟩ "a" .persistent ∈ (start.after before).journal ∧
      (foreign.text?.bind fun text => (Frame.parse start.policy text).toOption) =
        some (Frame.payload "b" .null) ∧
      repliesTo ⟨1⟩ (start.after (before ++ later)).journal = [⟨payloadCode, .null⟩] ∧
      (start.after (before ++ later)).notes = [(⟨1⟩, ⟨payloadCode, .null⟩)] ∧
      repliesTo ⟨1⟩ (start.after (before ++ .receive foreign :: later)).journal = [] ∧
      (start.after (before ++ .receive foreign :: later)).notes = [] := by
  refine ⟨?_, ?_, ?_, ?_, ?_, ?_, ?_⟩
  · simp [Act.IsTame, Program.IsTame]
  · decide +kernel
  · decide +kernel
  · decide +kernel
  · decide +kernel
  · decide +kernel
  · decide +kernel

end Bus

end Switchboard
