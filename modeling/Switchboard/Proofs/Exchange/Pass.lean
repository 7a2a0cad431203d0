import Switchboard.Proofs.Exchange.Conduct
import Switchboard.Proofs.Registry.Lookup
/-!
What one pass of a dispatch does. A subscription whose turn has come is served: its registered
callback is called with its identifier and with what the frame says. The journal of a run is well
nested: whatever a callback does, dispatches of its own included, stands between its start and its
end. So the journal tells which callbacks a pass invoked and which were invoked by passes within it,
and a pass invokes exactly those subscriptions of its snapshot that are still live when their turn
comes.
-/

set_option autoImplicit false
set_option relaxedAutoImplicit false

namespace Switchboard

/-- Journals in which callbacks start and end like brackets. -/
inductive WellNested : List Event → Prop
  | nil : WellNested []
  | one (e : Event) : (∀ id reply, e ≠ .started id reply) → (∀ id, e ≠ .finished id) →
    WellNested [e]
  | append {a b : List Event} : WellNested a → WellNested b → WellNested (a ++ b)
  | callback {body : List Event} (id : SubscriptionId) (reply : Reply) :
    WellNested body → WellNested (.started id reply :: body ++ [.finished id])

/-- The callbacks started in a journal under so many that are running, those left out that start
while another one that started in this journal is running. -/
def startsUnder (running : Nat) : List Event → List (SubscriptionId × Reply)
  | [] => []
  | .started id reply :: rest =>
    if running = 0 then (id, reply) :: startsUnder 1 rest else startsUnder (running + 1) rest
  | .finished _ :: rest => startsUnder (running - 1) rest
  | _ :: rest => startsUnder running rest

/-- The callbacks that were not started by other callbacks, in the order of their start. -/
def outermostStarts (events : List Event) : List (SubscriptionId × Reply) := startsUnder 0 events

theorem WellNested.of_quiet {events : List Event} (quiet : ∀ e ∈ events, e.isQuiet = true) :
    WellNested events := by
  induction events with
  | nil => exact .nil
  | cons e rest ih =>
    have first := quiet e List.mem_cons_self
    refine .append (.one e ?_ ?_) (ih fun f member => quiet f (List.mem_cons_of_mem _ member))
    · rintro id reply rfl
      simp [Event.isQuiet] at first
    · rintro id rfl
      simp [Event.isQuiet] at first

private theorem startsUnder_one {e : Event} (notStart : ∀ id reply, e ≠ .started id reply)
    (notEnd : ∀ id, e ≠ .finished id) (running : Nat) (rest : List Event) :
    startsUnder running (e :: rest) = startsUnder running rest := by
  cases e with
  | started id reply => exact absurd rfl (notStart id reply)
  | finished id => exact absurd rfl (notEnd id)
  | _ => rfl

/-- Under a running callback a well nested journal starts nothing of the outermost level. -/
theorem WellNested.startsUnder_succ {events : List Event} (h : WellNested events) (running : Nat)
    (rest : List Event) :
    startsUnder (running + 1) (events ++ rest) = startsUnder (running + 1) rest := by
  induction h generalizing running rest with
  | nil => rfl
  | one e notStart notEnd => exact startsUnder_one notStart notEnd _ rest
  | append _ _ iha ihb => rw [List.append_assoc, iha, ihb]
  | callback id reply _ ih =>
    simp only [List.cons_append, List.append_assoc, List.nil_append, startsUnder,
      Nat.add_one_ne_zero, if_false]
    rw [ih]
    rfl

private theorem startsUnder_quiet {events : List Event} (quiet : ∀ e ∈ events, e.isQuiet = true)
    (running : Nat) (rest : List Event) :
    startsUnder running (events ++ rest) = startsUnder running rest := by
  induction events with
  | nil => rfl
  | cons e events ih =>
    have first := quiet e List.mem_cons_self
    have later := ih fun f member => quiet f (List.mem_cons_of_mem _ member)
    rw [List.cons_append, startsUnder_one, later]
    · rintro id reply rfl
      simp [Event.isQuiet] at first
    · rintro id rfl
      simp [Event.isQuiet] at first

namespace Exchange

variable {ν σ : Type}

section Calling

variable [Outlet σ] (dispatcher : Dispatcher ν σ)

/-- The call of a callback with an identifier and a reply, and what it ends with: a program runs on
the two, and a box takes in the reply. -/
inductive Calls (id : SubscriptionId) (reply : Reply) (x : Exchange ν σ) :
    Callback ν → Exchange ν σ × Option Answer → Prop
  | program (owner : Bool) (run : SubscriptionId → Reply → Program ν) :
    Calls id reply x (.program owner run) (executeWith dispatcher (run id reply) x)
  | box (number : Nat) : Calls id reply x (.box number) (x.post number reply, some .nothing)

/-- How a live subscription is served a frame. It is handed out, its callback begins, is called with
the identifier of the subscription and with code and value of the frame, and is let go. -/
inductive Serves (frame : Frame) (id : SubscriptionId) (s : Subscription (Callback ν))
    (x : Exchange ν σ) : Exchange ν σ → Prop
  | handed {rest : Registry (Callback ν)} {ended : Exchange ν σ × Option Answer}
    (taken : x.registry.take id = some (s, rest))
    (called : Calls dispatcher id ⟨frame.code, frame.value⟩
      (({ x with registry := rest } : Exchange ν σ).commence s.callback id frame.reply)
      s.callback ended) :
    Serves frame id s x (ended.1.dismiss s.callback id frame.topic ended.2.isNone)

variable {dispatcher} {x : Exchange ν σ} {id : SubscriptionId} {s : Subscription (Callback ν)}
  {rest : Registry (Callback ν)}

theorem invokeWith_calls (callback : Callback ν) (id : SubscriptionId) (reply : Reply)
    (x : Exchange ν σ) :
    Calls dispatcher id reply x callback (invokeWith dispatcher callback id reply x) := by
  cases callback with
  | program owner run => exact .program owner run
  | box number => exact .box number

theorem serveWith_serves (taken : x.registry.take id = some (s, rest)) (frame : Frame) :
    Serves dispatcher frame id s x
      (serveWith dispatcher frame id s.callback { x with registry := rest }) :=
  .handed taken (invokeWith_calls _ _ _ _)

end Calling

/-- What has happened to an exchange since: its journal went on, well nested, every subscription
made meanwhile has a new number, and the older ones that are left are as they were. -/
structure Continues (x y : Exchange ν σ) : Prop where
  numbers : x.registry.lastNumber ≤ y.registry.lastNumber
  older : ∀ id s, id.number ≤ x.registry.lastNumber → y.registry.get? id = some s →
    x.registry.get? id = some s
  journal : ∃ events, y.journal = x.journal ++ events ∧ WellNested events ∧
    ∀ id topic delivery, .subscribed id topic delivery ∈ events →
      x.registry.lastNumber < id.number

theorem Continues.refl (x : Exchange ν σ) : Continues x x :=
  ⟨Nat.le_refl _, fun _ _ _ => id, [], by simp, .nil, by simp⟩

theorem Continues.trans {x y z : Exchange ν σ} (first : Continues x y) (later : Continues y z) :
    Continues x z := by
  obtain ⟨a, journalY, nestedA, newA⟩ := first.journal
  obtain ⟨b, journalZ, nestedB, newB⟩ := later.journal
  refine ⟨Nat.le_trans first.numbers later.numbers, ?_, a ++ b, ?_, nestedA.append nestedB, ?_⟩
  · intro id s old live
    exact first.older id s old (later.older id s (Nat.le_trans old first.numbers) live)
  · rw [journalZ, journalY, List.append_assoc]
  · intro id topic delivery member
    rcases List.mem_append.mp member with member | member
    · exact newA id topic delivery member
    · exact Nat.lt_of_le_of_lt first.numbers (newB id topic delivery member)

private theorem Continues.of_journal {x y : Exchange ν σ} {events : List Event}
    (numbers : y.registry.lastNumber = x.registry.lastNumber)
    (older : ∀ id s, y.registry.get? id = some s → x.registry.get? id = some s)
    (journal : y.journal = x.journal ++ events) (nested : WellNested events)
    (none : ∀ id topic delivery, .subscribed id topic delivery ∉ events) : Continues x y :=
  ⟨Nat.le_of_eq numbers.symm, fun id s _ => older id s, events, journal, nested,
    fun id topic delivery member => absurd member (none id topic delivery)⟩

theorem conduct_continues : Conduct (Continues : Exchange ν σ → Exchange ν σ → Prop) where
  refl := Continues.refl
  trans := Continues.trans
  aside registry _ journal _ :=
    .of_journal (by rw [registry]) (by simp [registry]) (by simpa using journal) .nil (by simp)
  tell x events quiet := by
    refine .of_journal rfl (fun _ _ => id) rfl (.of_quiet quiet) fun id topic delivery member => ?_
    have := quiet _ member
    simp [Event.isQuiet] at this
  subscribe x topic delivery owner run := by
    refine ⟨Nat.le_succ _, ?_, _, rfl, .one _ (by simp) (by simp), ?_⟩
    · intro id s old live
      change (x.registry.insert _).get? id = some s at live
      rw [Registry.get?_insert, if_neg] at live
      · exact live
      · rintro rfl
        exact absurd old (Nat.not_succ_le_self _)
    · intro id topic delivery member
      simp only [List.mem_singleton, Event.subscribed.injEq] at member
      obtain ⟨rfl, -, -⟩ := member
      exact Nat.lt_succ_self _
  unsubscribe x id live :=
    .of_journal rfl (fun _ _ live => (Registry.get?_of_erase live).1) rfl
      (.one _ (by simp) (by simp)) (by simp)
  run := by
    intro x z id s rest owner program reply taken kind body
    have numbers := Registry.lastNumber_take taken
    obtain ⟨events, journal, nested, new⟩ := body.journal
    refine ⟨?_, ?_, .started id reply :: events ++ [.finished id], ?_, .callback id reply nested, ?_⟩
    · exact Nat.le_trans (Nat.le_of_eq numbers.symm) body.numbers
    · intro other t old live
      exact Registry.get?_of_take taken
        (body.older other t (Nat.le_trans old (Nat.le_of_eq numbers.symm)) live)
    · simp [enter, journal, commence]
    · intro other topic delivery member
      have inner : Event.subscribed other topic delivery ∈ events := by simpa using member
      exact Nat.lt_of_le_of_lt (Nat.le_of_eq numbers.symm) (new other topic delivery inner)
  post := by
    intro x id s rest box reply taken kind
    have journal : (((({ x with registry := rest } : Exchange ν σ).commence s.callback id
        reply).post box reply).enter [.finished id]).journal =
        x.journal ++ (.started id reply :: [] ++ [.finished id]) := by
      simp [enter, commence, post]
    exact .of_journal (Registry.lastNumber_take taken) (fun _ _ => Registry.get?_of_take taken)
      journal (.callback id reply .nil) (by simp)

variable [Outlet σ] {dispatcher : Dispatcher ν σ}

private theorem dismiss_journal (x : Exchange ν σ) (callback : Callback ν) (id : SubscriptionId)
    (topic : String) (failed : Bool) :
    ∃ more, (x.dismiss callback id topic failed).journal = x.journal ++ .finished id :: more ∧
      ∀ e ∈ more, e.isQuiet = true := by
  unfold dismiss
  obtain ⟨more, journal, quiet⟩ := disownFree_journal
    { (if failed then (x.enter [.finished id]).enter [.panicked id topic]
        else x.enter [.finished id]) with ownersRunning :=
          (if failed then (x.enter [.finished id]).enter [.panicked id topic]
            else x.enter [.finished id]).ownersRunning - callback.weight }
  cases failed with
  | false => exact ⟨more, by simpa [enter] using journal, quiet⟩
  | true =>
    refine ⟨.panicked id topic :: more, by simpa [enter] using journal, ?_⟩
    intro e member
    rcases List.mem_cons.mp member with rfl | member
    · rfl
    · exact quiet e member

/-- Serving a subscription that has been handed out starts its callback, and no other one outside
of it. -/
private theorem serveWith_journal (each : Conduct.Holds Continues dispatcher) (frame : Frame)
    (id : SubscriptionId) (callback : Callback ν) (x : Exchange ν σ) :
    ∃ events, (serveWith dispatcher frame id callback x).journal =
        x.journal ++ .started id frame.reply :: events ∧
      WellNested (.started id frame.reply :: events) ∧
      outermostStarts (.started id frame.reply :: events) = [(id, frame.reply)] := by
  have body : Continues (x.commence callback id frame.reply)
      (invokeWith dispatcher callback id frame.reply (x.commence callback id frame.reply)).1 := by
    cases callback with
    | program owner run => exact conduct_continues.executeWith each _ _
    | box number =>
      exact .of_journal rfl (fun _ _ live => live) (List.append_nil _).symm .nil (by simp)
  obtain ⟨inner, journal, nested, -⟩ := body.journal
  obtain ⟨more, ended, quiet⟩ := dismiss_journal
    (invokeWith dispatcher callback id frame.reply (x.commence callback id frame.reply)).1 callback
    id frame.topic
    (invokeWith dispatcher callback id frame.reply (x.commence callback id frame.reply)).2.isNone
  refine ⟨inner ++ .finished id :: more, ?_, ?_, ?_⟩
  · rw [serveWith, ended, journal]
    simp [commence, enter]
  · have whole := (WellNested.callback id frame.reply nested).append (.of_quiet quiet)
    simpa using whole
  · rw [outermostStarts, startsUnder, if_pos rfl, nested.startsUnder_succ 0]
    have quietly := startsUnder_quiet quiet 0 []
    rw [List.append_nil] at quietly
    rw [startsUnder, quietly, startsUnder]

private theorem outermostStarts_append {a : List Event} (nested : WellNested a) (b : List Event) :
    outermostStarts (a ++ b) = outermostStarts a ++ outermostStarts b := by
  unfold outermostStarts
  induction nested generalizing b with
  | nil => rfl
  | one e notStart notEnd =>
    rw [startsUnder_one notStart notEnd 0 []]
    exact startsUnder_one notStart notEnd 0 b
  | @append a c _ _ iha ihc => rw [List.append_assoc, iha, ihc, iha, List.append_assoc]
  | callback id reply nested _ =>
    simp only [List.cons_append, List.append_assoc, List.nil_append, startsUnder, if_true]
    rw [nested.startsUnder_succ 0, nested.startsUnder_succ 0]
    simp [startsUnder]

/-- A pass invokes its callbacks one after the other; all else happens within them. -/
theorem passWith_journal (each : Conduct.Holds Continues dispatcher) (frame : Frame)
    (ids : List SubscriptionId) (x : Exchange ν σ) :
    ∃ events, (passWith dispatcher frame ids x).1.journal = x.journal ++ events ∧
      outermostStarts events =
        (passWith dispatcher frame ids x).2.map fun id => (id, frame.reply) := by
  induction ids generalizing x with
  | nil => exact ⟨[], (List.append_nil _).symm, rfl⟩
  | cons id rest ih =>
    rw [passWith]
    split
    · exact ih x
    · rename_i s registry taken
      obtain ⟨first, journal, nested, starts⟩ :=
        serveWith_journal each frame id s.callback { x with registry }
      obtain ⟨later, journal', starts'⟩ :=
        ih (serveWith dispatcher frame id s.callback { x with registry })
      refine ⟨.started id frame.reply :: first ++ later, ?_, ?_⟩
      · rw [journal', journal, List.append_assoc]
      · rw [outermostStarts_append nested, starts, starts']
        rfl

theorem passWith_append (dispatcher : Dispatcher ν σ) (frame : Frame)
    (a b : List SubscriptionId) (x : Exchange ν σ) :
    passWith dispatcher frame (a ++ b) x =
      ((passWith dispatcher frame b (passWith dispatcher frame a x).1).1,
        (passWith dispatcher frame a x).2 ++
          (passWith dispatcher frame b (passWith dispatcher frame a x).1).2) := by
  induction a generalizing x with
  | nil => rfl
  | cons id rest ih =>
    simp only [List.cons_append, passWith]
    split
    · exact ih x
    · rw [ih]
      rfl

theorem passWith_sublist (dispatcher : Dispatcher ν σ) (frame : Frame)
    (ids : List SubscriptionId) (x : Exchange ν σ) :
    (passWith dispatcher frame ids x).2.Sublist ids := by
  induction ids generalizing x with
  | nil => exact .slnil
  | cons id rest ih =>
    simp only [passWith]
    split
    · exact (ih x).cons id
    · exact (ih _).cons_cons id

/-- The identifier at a place is served exactly if it is live when its turn comes, that is after the
pass over those before it, and then at once. -/
theorem passWith_place (each : Conduct.Holds Continues dispatcher) (frame : Frame)
    {ids : List SubscriptionId} (distinct : ids.Nodup) (x : Exchange ν σ) (place : Nat)
    (within : place < ids.length) :
    (ids[place] ∈ (passWith dispatcher frame ids x).2 ↔
      (passWith dispatcher frame (ids.take place) x).1.registry.contains ids[place] = true) ∧
    (ids[place] ∈ (passWith dispatcher frame ids x).2 → ∃ later,
      (passWith dispatcher frame ids x).1.journal =
        (passWith dispatcher frame (ids.take place) x).1.journal ++
          .started ids[place] frame.reply :: later) := by
  have parts : ids = ids.take place ++ ids[place] :: ids.drop (place + 1) := by
    rw [List.getElem_cons_drop, List.take_append_drop]
  have apart := parts ▸ distinct
  have notBefore : ids[place] ∉ ids.take place := by
    intro before
    exact (List.nodup_append.mp apart).2.2 _ before _ List.mem_cons_self rfl
  have notAfter : ids[place] ∉ ids.drop (place + 1) :=
    (List.nodup_cons.mp (List.nodup_append.mp apart).2.1).1
  generalize ids[place] = id at *
  have whole := passWith_append dispatcher frame (ids.take place)
    (id :: ids.drop (place + 1)) x
  rw [← parts] at whole
  have unseen : id ∉ (passWith dispatcher frame (ids.take place) x).2 := fun member =>
    notBefore ((passWith_sublist dispatcher frame _ x).subset member)
  generalize passWith dispatcher frame (ids.take place) x = turn at *
  rw [whole, passWith]
  cases taken : turn.1.registry.take id with
  | none =>
    have gone : id ∉ (passWith dispatcher frame (ids.drop (place + 1)) turn.1).2 := fun member =>
      notAfter ((passWith_sublist dispatcher frame _ turn.1).subset member)
    have dead := Registry.contains_eq_false.mpr (Registry.take_eq_none.mp taken)
    simp [unseen, gone, dead]
  | some handed =>
    obtain ⟨s, registry⟩ := handed
    have live := Registry.contains_eq_true.mpr ⟨s, (Registry.take_eq_some.mp taken).1⟩
    obtain ⟨first, journal, -, -⟩ :=
      serveWith_journal each frame id s.callback { turn.1 with registry }
    obtain ⟨later, journal', -⟩ := passWith_journal each frame (ids.drop (place + 1))
      (serveWith dispatcher frame id s.callback { turn.1 with registry })
    refine ⟨by simp [live], fun _ => ⟨first ++ later, ?_⟩⟩
    rw [journal', journal]
    simp

theorem mem_passWith (each : Conduct.Holds Continues dispatcher) (frame : Frame)
    {ids : List SubscriptionId} (distinct : ids.Nodup) (x : Exchange ν σ) (id : SubscriptionId) :
    id ∈ (passWith dispatcher frame ids x).2 ↔ id ∈ ids ∧
      (passWith dispatcher frame (ids.take (ids.idxOf id)) x).1.registry.contains id = true := by
  by_cases member : id ∈ ids
  · have within := List.idxOf_lt_length_of_mem member
    have turn := (passWith_place each frame distinct x (ids.idxOf id) within).1
    rw [List.getElem_idxOf within] at turn
    simp only [turn, member, true_and]
  · have unserved : id ∉ (passWith dispatcher frame ids x).2 :=
      fun served => member ((passWith_sublist dispatcher frame ids x).subset served)
    simp only [unserved, member, false_and]

/-- The exchange when the turn of a place in a pass comes. -/
def atTurn (depth : Nat) (frame : Frame) (x : Exchange ν σ) (place : Nat) : Exchange ν σ :=
  (passWith (dispatchWithin depth) frame ((x.registry.onTopic frame.topic).take place) x).1

private theorem atTurn_succ (depth : Nat) (frame : Frame) (x : Exchange ν σ) (place : Nat)
    (within : place < (x.registry.onTopic frame.topic).length) :
    atTurn depth frame x (place + 1) = (passWith (dispatchWithin depth) frame
      [(x.registry.onTopic frame.topic)[place]] (atTurn depth frame x place)).1 := by
  rw [atTurn, List.take_succ_eq_append_getElem within, passWith_append]
  rfl

private theorem get?_of_atTurn {depth : Nat} {frame : Frame} {x : Exchange ν σ} {place : Nat}
    (within : place < (x.registry.onTopic frame.topic).length) {s : Subscription (Callback ν)}
    (live : (atTurn depth frame x place).registry.get? (x.registry.onTopic frame.topic)[place] =
      some s) : x.registry.get? (x.registry.onTopic frame.topic)[place] = some s := by
  have since : Continues x (atTurn depth frame x place) :=
    conduct_continues.passWith (conduct_continues.dispatchWithin depth) frame _ x
  obtain ⟨_, registered, -⟩ := Registry.mem_onTopic.mp (List.getElem_mem within)
  exact since.older _ s (Registry.number_le_of_get? registered).2 live

/-- A subscription that is live when its turn comes is served as it was registered, and its start
stands first in what is entered meanwhile. -/
theorem atTurn_serves (depth : Nat) (frame : Frame) (x : Exchange ν σ) (place : Nat)
    (within : place < (x.registry.onTopic frame.topic).length)
    (live : (atTurn depth frame x place).registry.contains
      (x.registry.onTopic frame.topic)[place] = true) :
    ∃ s own, x.registry.get? (x.registry.onTopic frame.topic)[place] = some s ∧
      Serves (dispatchWithin depth) frame (x.registry.onTopic frame.topic)[place] s
        (atTurn depth frame x place) (atTurn depth frame x (place + 1)) ∧
      (atTurn depth frame x (place + 1)).journal = (atTurn depth frame x place).journal ++
        .started (x.registry.onTopic frame.topic)[place] frame.reply :: own := by
  obtain ⟨s, found⟩ := Registry.contains_eq_true.mp live
  have registered := get?_of_atTurn within found
  rw [atTurn_succ depth frame x place within]
  generalize (x.registry.onTopic frame.topic)[place] = id at *
  obtain ⟨rest, taken⟩ : ∃ rest, (atTurn depth frame x place).registry.take id = some (s, rest) :=
    ⟨_, Registry.take_eq_some.mpr ⟨found, rfl⟩⟩
  obtain ⟨own, journal, -, -⟩ := serveWith_journal (conduct_continues.dispatchWithin depth) frame
    id s.callback { atTurn depth frame x place with registry := rest }
  simp only [passWith, taken]
  exact ⟨s, own, registered, serveWith_serves taken frame, journal⟩

private theorem atTurn_leaves (depth : Nat) (frame : Frame) (x : Exchange ν σ) (place : Nat)
    (within : place < (x.registry.onTopic frame.topic).length)
    (dead : (atTurn depth frame x place).registry.contains
      (x.registry.onTopic frame.topic)[place] = false) :
    atTurn depth frame x (place + 1) = atTurn depth frame x place := by
  have untaken := Registry.take_eq_none.mpr (Registry.contains_eq_false.mp dead)
  rw [atTurn_succ depth frame x place within]
  simp only [passWith, untaken]

/-- What a dispatch that is a pass did, told by the entries that it added to the journal and by
those it served. It goes from turn to turn: at each the subscription whose turn it is was live when
the pass began, and it is served exactly if it still is. Then the callback that was registered for
it is called, and the next turn begins with what that call leaves. -/
structure ServesLive (depth : Nat) (frame : Frame) (x : Exchange ν σ) (events : List Event)
    (served : List SubscriptionId) : Prop where
  journal : (dispatchWithin (depth + 1) frame x).1.journal = x.journal ++ events
  /-- The callbacks started by the pass and not by a callback within it. -/
  started : outermostStarts events = served.map fun id => (id, frame.reply)
  counted : (dispatchWithin (depth + 1) frame x).2 = served.length
  snapshot : ∀ id, id ∈ x.registry.onTopic frame.topic ↔
    ∃ s, x.registry.get? id = some s ∧ s.topic = frame.topic
  increasing : (x.registry.onTopic frame.topic).Pairwise fun a b => a.number < b.number
  inOrder : served.Sublist (x.registry.onTopic frame.topic)
  once : served.Nodup
  begins : atTurn depth frame x 0 = x
  turn : ∀ place (within : place < (x.registry.onTopic frame.topic).length),
    ((x.registry.onTopic frame.topic)[place] ∈ served ↔
      (atTurn depth frame x place).registry.contains
        (x.registry.onTopic frame.topic)[place] = true) ∧
    ((x.registry.onTopic frame.topic)[place] ∈ served → ∃ s own,
      x.registry.get? (x.registry.onTopic frame.topic)[place] = some s ∧
      Serves (dispatchWithin depth) frame (x.registry.onTopic frame.topic)[place] s
        (atTurn depth frame x place) (atTurn depth frame x (place + 1)) ∧
      (atTurn depth frame x (place + 1)).journal = (atTurn depth frame x place).journal ++
        .started (x.registry.onTopic frame.topic)[place] frame.reply :: own) ∧
    ((x.registry.onTopic frame.topic)[place] ∉ served →
      atTurn depth frame x (place + 1) = atTurn depth frame x place)
  ends : atTurn depth frame x (x.registry.onTopic frame.topic).length =
    (dispatchWithin (depth + 1) frame x).1
  late : ∀ id topic delivery, .subscribed id topic delivery ∈ events → id ∉ served

theorem exists_servesLive (depth : Nat) (frame : Frame) (x : Exchange ν σ) :
    ∃ events, ServesLive depth frame x events
      (passWith (dispatchWithin depth) frame (x.registry.onTopic frame.topic) x).2 := by
  have each : Conduct.Holds Continues (dispatchWithin depth : Dispatcher ν σ) :=
    conduct_continues.dispatchWithin depth
  have sorted := x.registry.onTopic_sorted frame.topic
  have distinct := x.registry.onTopic_nodup frame.topic
  have part := passWith_sublist (dispatchWithin depth) frame
    (x.registry.onTopic frame.topic) x
  obtain ⟨events, journal, started⟩ :=
    passWith_journal each frame (x.registry.onTopic frame.topic) x
  refine ⟨events, journal, started, rfl, ?_, sorted, part, part.nodup distinct, rfl, ?_, ?_, ?_⟩
  · intro id
    exact Registry.mem_onTopic
  · intro place within
    obtain ⟨isLive, -⟩ := passWith_place each frame distinct x place within
    refine ⟨isLive, fun member => ?_, fun missing => ?_⟩
    · exact atTurn_serves depth frame x place within (isLive.mp member)
    · exact atTurn_leaves depth frame x place within
        (Bool.eq_false_iff.mpr (mt isLive.mpr missing))
  · rw [atTurn, List.take_length]
    rfl
  · intro id topic delivery made member
    obtain ⟨s, live, -⟩ := Registry.mem_onTopic.mp (part.subset member)
    obtain ⟨all, journal', -, new⟩ := (conduct_continues.passWith each frame _ x).journal
    have same : events = all := List.append_cancel_left (journal.symm.trans journal')
    have := new id topic delivery (same ▸ made)
    have := (Registry.number_le_of_get? live).2
    omega

/-- Whatever the callbacks do, a dispatch serves in increasing order those subscriptions that were
live on the topic of the frame when it began and still are when their turn comes. -/
theorem dispatch_serves_live (depth : Nat) (frame : Frame) (x : Exchange ν σ) :
    ∃ events served, ServesLive depth frame x events served := by
  obtain ⟨events, serves⟩ := exists_servesLive depth frame x
  exact ⟨events, _, serves⟩

theorem ServesLive.length_starts {depth : Nat} {frame : Frame} {x : Exchange ν σ}
    {events : List Event} {served : List SubscriptionId}
    (serves : ServesLive depth frame x events served) :
    (outermostStarts events).length = (dispatchWithin (depth + 1) frame x).2 := by
  rw [serves.started, List.length_map, serves.counted]

/-- The journal tells whom a dispatch served. -/
theorem ServesLive.served_eq {depth : Nat} {frame : Frame} {x : Exchange ν σ}
    {events : List Event} {served : List SubscriptionId}
    (serves : ServesLive depth frame x events served) :
    served = (passWith (dispatchWithin depth) frame (x.registry.onTopic frame.topic) x).2 := by
  obtain ⟨events', others⟩ := exists_servesLive depth frame x
  have same : events = events' :=
    List.append_cancel_left (serves.journal.symm.trans others.journal)
  have starts := (serves.started.symm.trans (congrArg outermostStarts same)).trans others.started
  exact List.map_injective_iff.mpr (fun _ _ => congrArg Prod.fst) starts

theorem ServesLive.mem_iff {depth : Nat} {frame : Frame} {x : Exchange ν σ} {events : List Event}
    {served : List SubscriptionId} (serves : ServesLive depth frame x events served)
    (id : SubscriptionId) :
    id ∈ served ↔ id ∈ x.registry.onTopic frame.topic ∧ (atTurn depth frame x
      ((x.registry.onTopic frame.topic).idxOf id)).registry.contains id = true := by
  rw [serves.served_eq]
  exact mem_passWith (conduct_continues.dispatchWithin depth) frame
    (x.registry.onTopic_nodup frame.topic) x id

/-- The first of three callbacks removes the second one; the others note what they are called with. -/
example :
    let called : SubscriptionId → Reply → Program (SubscriptionId × Reply) :=
      fun id reply => .note (id, reply) (.done .nothing)
    let remover : SubscriptionId → Reply → Program (SubscriptionId × Reply) :=
      fun id reply => .unsubscribe ⟨2⟩ fun _ => called id reply
    let x : Exchange (SubscriptionId × Reply) Recorder :=
      { policy := .strict, outlet := { echoes := false }, nesting := 1 }
    let y := (x.execute (.subscribe "a" .once false remover fun _ =>
      .subscribe "a" .once false called fun _ => .subscribe "a" .persistent false called fun _ =>
        .done .nothing)).1
    let z := y.dispatch ⟨"a", "end", .null⟩
    z.1.notes = [(⟨1⟩, ⟨"end", .null⟩), (⟨3⟩, ⟨"end", .null⟩)] ∧ z.2 = 2 := by
  decide

end Exchange

end Switchboard
