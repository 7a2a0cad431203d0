import Switchboard.Proofs.Conversation.DeskRun
/-!
The course of a run of a desk: what each errand yielded to readers of streams, and what programs and
callbacks entered in the journal meanwhile. An errand concerns the conversation under one name; what
can become of that one is told here once, turn by turn, and all others stay as they are.
-/

set_option autoImplicit false
set_option relaxedAutoImplicit false

namespace Switchboard

/-- The subscription of a conversation, whether it is still live or not. -/
def Conversation.id? : Conversation → Option SubscriptionId
  | .call (.waiting id _) => some id
  | .stream s => some s.id
  | .collecting c => some c.stream.id
  | _ => none

/-- The stream that a conversation reads, with what it has read and still keeps to itself. -/
def Conversation.reading? : Conversation → Option (ReplyStream × List Reply)
  | .stream s => some (s, [])
  | .collecting c => some (c.stream, c.replies)
  | _ => none

theorem Conversation.reading?_eq_some {c : Conversation} {s : ReplyStream} {hand : List Reply}
    (reading : c.reading? = some (s, hand)) : c.box? = some s.box ∧ c.id? = some s.id := by
  cases c with
  | call call => cases reading
  | stream t =>
    cases reading
    exact ⟨rfl, rfl⟩
  | collecting t =>
    cases reading
    exact ⟨rfl, rfl⟩
  | collected => cases reading

/-- What an errand adds to the course of a run: the replies that it yields from the stream of a
subscription, and what the programs and callbacks that ran enter in the journal. -/
structure Stretch where
  read : Option (SubscriptionId × List Reply) := none
  callers : List Event := []

def Stretch.readOf (id : SubscriptionId) (stretch : Stretch) : List Reply :=
  match stretch.read with
  | some (other, replies) => if other = id then replies else []
  | none => []

/-- The replies that were yielded from the stream of a subscription in the course of a run. -/
def readIn (id : SubscriptionId) (past : List Stretch) : List Reply :=
  past.flatMap (Stretch.readOf id)

/-- What programs and callbacks entered in the journal in the course of a run. -/
def callersIn (past : List Stretch) : List Event := past.flatMap Stretch.callers

@[simp] theorem readIn_append (id : SubscriptionId) (past more : List Stretch) :
    readIn id (past ++ more) = readIn id past ++ readIn id more :=
  List.flatMap_append

@[simp] theorem readIn_singleton (id : SubscriptionId) (stretch : Stretch) :
    readIn id [stretch] = stretch.readOf id := by
  simp [readIn]

@[simp] theorem callersIn_append (past more : List Stretch) :
    callersIn (past ++ more) = callersIn past ++ callersIn more :=
  List.flatMap_append

@[simp] theorem callersIn_singleton (stretch : Stretch) :
    callersIn [stretch] = stretch.callers := by
  simp [callersIn]

namespace Exchange

variable {ν σ : Type}

def entriesSince (x y : Exchange ν σ) : List Event := y.journal.drop x.journal.length

/-- A conversation has subscribed, and has not published yet. -/
def begun (topic : String) (delivery : Delivery) (x : Exchange ν σ) : Exchange ν σ :=
  x.addBox.subscribe ⟨topic, delivery, .box x.nextBox⟩

theorem continuing_lasting (number : Nat) (journal : List Event) :
    Invariant.Lasting fun x : Exchange ν σ => number ≤ x.registry.lastNumber ∧
      ∃ events, x.journal = journal ++ events ∧
        ∀ id topic delivery, .subscribed id topic delivery ∈ events → number < id.number := by
  have quietly {x y : Exchange ν σ} {more : List Event}
      (h : number ≤ x.registry.lastNumber ∧ ∃ events, x.journal = journal ++ events ∧
        ∀ id topic delivery, .subscribed id topic delivery ∈ events → number < id.number)
      (numbers : x.registry.lastNumber ≤ y.registry.lastNumber)
      (longer : y.journal = x.journal ++ more)
      (new : ∀ id topic delivery, .subscribed id topic delivery ∈ more →
        x.registry.lastNumber < id.number) :
      number ≤ y.registry.lastNumber ∧ ∃ events, y.journal = journal ++ events ∧
        ∀ id topic delivery, .subscribed id topic delivery ∈ events → number < id.number := by
    obtain ⟨bound, events, entered, late⟩ := h
    refine ⟨Nat.le_trans bound numbers, events ++ more, ?_, ?_⟩
    · rw [longer, entered, List.append_assoc]
    · intro id topic delivery member
      rcases List.mem_append.mp member with member | member
      · exact late id topic delivery member
      · exact Nat.lt_of_le_of_lt bound (new id topic delivery member)
  have next (x : Exchange ν σ) (topic : String) (delivery : Delivery) : ∀ id topic' delivery',
      .subscribed id topic' delivery' ∈ [Event.subscribed x.registry.nextId topic delivery] →
      x.registry.lastNumber < id.number := by
    intro id topic' delivery' member
    simp only [List.mem_singleton, Event.subscribed.injEq] at member
    rw [member.1]
    exact Nat.lt_succ_self _
  exact {
    aside := fun registry _ same h => by rwa [registry, same]
    tell := fun events quiet h => by
      refine quietly h (Nat.le_refl _) rfl fun id topic delivery member => ?_
      exact absurd (quiet _ member) (by simp [Event.isQuiet])
    subscribe := fun {x} topic delivery owner run h =>
      quietly h (Nat.le_succ _) rfl (next x topic delivery)
    unsubscribe := fun _ h => quietly h (Nat.le_refl _) rfl (by simp)
    start := fun _ _ _ taken _ h =>
      quietly h (Nat.le_of_eq (Registry.lastNumber_take taken).symm) rfl (by simp)
    post := fun _ _ taken _ h =>
      quietly h (Nat.le_of_eq (Registry.lastNumber_take taken).symm) rfl (by simp)
    finish := fun _ h => quietly h (Nat.le_refl _) rfl (by simp)
    converse := fun {x} topic delivery h => quietly h (Nat.le_succ _) rfl (next x topic delivery)
    read := fun _ _ h => h }

namespace Moves

variable {reads : Nat → Prop} {x y : Exchange ν σ}

/-- An exchange goes on where it was: its journal only grows, and new subscriptions have new
numbers. -/
theorem continues (moves : Moves reads x y) :
    x.registry.lastNumber ≤ y.registry.lastNumber ∧
      y.journal = x.journal ++ x.entriesSince y ∧
      ∀ id topic delivery, .subscribed id topic delivery ∈ x.entriesSince y →
        x.registry.lastNumber < id.number := by
  obtain ⟨numbers, events, journal, new⟩ :=
    moves.keeps (continuing_lasting x.registry.lastNumber x.journal) (fun _ _ => trivial)
      ⟨Nat.le_refl _, [], (List.append_nil _).symm, by simp⟩
  have since : x.entriesSince y = events := by
    rw [entriesSince, journal, List.drop_left]
  exact ⟨numbers, by rw [since, journal], by rwa [since]⟩

end Moves

end Exchange

open Exchange

/-- What programs and callbacks enter in the journal while a call is polled: those that are served
what comes back from its first poll at once. -/
def Call.callersEntries {ν σ : Type} [Outlet σ] (call : Call) (x : Exchange ν σ) : List Event :=
  match call with
  | .fresh topic message =>
    (x.begun topic .once).entriesSince (x.addBox.request topic message (.box x.nextBox)).1
  | _ => []

theorem ReplyStream.next_id {ν σ : Type} [Outlet σ] (s : ReplyStream) (x : Exchange ν σ) :
    (s.next x).2.1.id = s.id := by
  have moved : Moves (fun _ => True) x (s.next x).1 ∧ _ ∧ (s.next x).2.1.id = s.id :=
    s.next_moves trivial
  exact moved.2.2

theorem Collecting.poll_id {ν σ : Type} [Outlet σ] (c : Collecting) (x : Exchange ν σ) :
    (c.poll x).2.1.stream.id = c.stream.id := by
  have moved : Moves (fun _ => True) x (c.poll x).1 ∧ _ ∧
      (c.poll x).2.1.stream.id = c.stream.id := c.poll_moves trivial
  exact moved.2.2

namespace Desk

variable {ν σ : Type} [Outlet σ]

def readBy (desk : Desk ν σ) (name : String) : Option (SubscriptionId × List Reply) :=
  match desk.find? name, (desk.poll name).2 with
  | some (.stream s), .reply reply => some (s.id, [reply])
  | some (.collecting c), .replies all => some (c.stream.id, all)
  | _, _ => none

def stretch (desk : Desk ν σ) : Errand ν → Stretch
  | .run program => { callers := desk.exchange.entriesSince (desk.exchange.execute program).1 }
  | .openStream _ topic message =>
    { callers := (desk.exchange.begun topic .persistent).entriesSince
        (ReplyStream.openOn topic message desk.exchange).1 }
  | .poll name =>
    { read := desk.readBy name
      callers :=
        match desk.find? name with
        | some (.call call) => call.callersEntries desk.exchange
        | _ => [] }
  | _ => {}

/-- The course of a run that began at a desk: what its errands did, and where it has come to. -/
inductive Course (desk : Desk ν σ) : List Stretch → Desk ν σ → Prop
  | start : Course desk [] desk
  | perform {past : List Stretch} {d : Desk ν σ} (errand : Errand ν) : Course desk past d →
    Course desk (past ++ [d.stretch errand]) (d.perform errand).1
  | outside {past : List Stretch} {d : Desk ν σ} (outlet : σ) (events : List Event) :
    (∀ e ∈ events, e.isOutward = true) → Course desk past d →
    Course desk past { d with exchange := { d.exchange with outlet }.enter events }

def releaseAny (c : Option Conversation) (x : Exchange ν σ) : Exchange ν σ :=
  match c with
  | some c => release c x
  | none => x

inductive Turn : Exchange ν σ → Option Conversation → Stretch → Exchange ν σ →
    Option Conversation → Prop
  | rest (x : Exchange ν σ) (c : Option Conversation) : Turn x c {} x c
  | run (x : Exchange ν σ) (c : Option Conversation) (program : Program ν) :
    Turn x c { callers := x.entriesSince (x.execute program).1 } (x.execute program).1 c
  | drop (x : Exchange ν σ) (c : Conversation) : Turn x (some c) {} (release c x) none
  | call (x : Exchange ν σ) (c : Option Conversation) (topic : String) (message : Json) :
    Turn x c {} (releaseAny c x) (some (.call (.fresh topic message)))
  | openStream (x : Exchange ν σ) (c : Option Conversation) (topic : String) (message : Json) :
    Turn x c
      { callers := (x.begun topic .persistent).entriesSince (ReplyStream.openOn topic message x).1 }
      (releaseAny c (ReplyStream.openOn topic message x).1)
      (some (.stream (ReplyStream.openOn topic message x).2))
  | collect (x : Exchange ν σ) (s : ReplyStream) :
    Turn x (some (.stream s)) {} x (some (.collecting ⟨s, []⟩))
  | pollCall (x : Exchange ν σ) (call : Call) :
    Turn x (some (.call call)) { callers := call.callersEntries x } (call.poll x).1
      (some (.call (call.poll x).2.1))
  | wait (x : Exchange ν σ) (s : ReplyStream) : (∀ reply, (s.next x).2.2 ≠ .ready (some reply)) →
    Turn x (some (.stream s)) {} (s.next x).1 (some (.stream (s.next x).2.1))
  | next (x : Exchange ν σ) (s : ReplyStream) (reply : Reply) :
    (s.next x).2.2 = .ready (some reply) →
    Turn x (some (.stream s)) { read := some (s.id, [reply]) } (s.next x).1
      (some (.stream (s.next x).2.1))
  | gather (x : Exchange ν σ) (c : Collecting) : (c.poll x).2.2 = .pending →
    Turn x (some (.collecting c)) {} (c.poll x).1 (some (.collecting (c.poll x).2.1))
  | collected (x : Exchange ν σ) (c : Collecting) (all : List Reply) :
    (c.poll x).2.2 = .ready all →
    Turn x (some (.collecting c)) { read := some (c.stream.id, all) }
      ((c.poll x).2.1.stream.drop (c.poll x).1) (some .collected)

variable {desk d e : Desk ν σ} {past : List Stretch}

private theorem replace_exchange (name : String) (c : Conversation) (x : Exchange ν σ) :
    (desk.replace name c x).exchange = releaseAny (desk.find? name) x := by
  have held : ({ desk with exchange := x } : Desk ν σ).find? name = desk.find? name := rfl
  simp only [replace, hold, drop, held]
  cases desk.find? name with
  | none => rfl
  | some c => rfl

private theorem poll_turn (desk : Desk ν σ) (name : String) :
    Turn desk.exchange (desk.find? name) (desk.stretch (.poll name)) (desk.poll name).1.exchange
      ((desk.poll name).1.find? name) := by
  cases held : desk.find? name with
  | none =>
    have polled : (desk.poll name).1 = desk := by simp only [poll, held]
    have nothing : desk.stretch (.poll name) = {} := by simp [stretch, readBy, held]
    rw [polled, nothing, held]
    exact .rest desk.exchange none
  | some c =>
    cases c with
    | call call =>
      have nothing :
          desk.stretch (.poll name) = { callers := call.callersEntries desk.exchange } := by
        simp [stretch, readBy, held]
      cases call with
      | finished =>
        have polled : (desk.poll name).1 = desk := by simp only [poll, held]
        rw [polled, nothing, held]
        exact .pollCall desk.exchange .finished
      | fresh topic message =>
        rw [nothing]
        simp only [poll, held, find?_hold, if_true]
        exact .pollCall desk.exchange (.fresh topic message)
      | waiting id box =>
        rw [nothing]
        simp only [poll, held, find?_hold, if_true]
        exact .pollCall desk.exchange (.waiting id box)
    | stream s =>
      have waited (unread : desk.stretch (.poll name) = {})
          (none : ∀ reply, (s.next desk.exchange).2.2 ≠ .ready (some reply)) :
          Turn desk.exchange (some (.stream s)) (desk.stretch (.poll name))
            (desk.poll name).1.exchange ((desk.poll name).1.find? name) := by
        rw [unread]
        simp only [poll, held, find?_hold, if_true]
        exact .wait desk.exchange s none
      cases result : (s.next desk.exchange).2.2 with
      | pending =>
        exact waited (by simp [stretch, readBy, poll, held, result]) (by simp [result])
      | ready found =>
        cases found with
        | none => exact waited (by simp [stretch, readBy, poll, held, result]) (by simp [result])
        | some reply =>
          have read : desk.stretch (.poll name) = { read := some (s.id, [reply]) } := by
            simp [stretch, readBy, poll, held, result]
          rw [read]
          simp only [poll, held, find?_hold, if_true]
          exact .next desk.exchange s reply result
    | collecting c =>
      rcases polled : c.poll desk.exchange with ⟨y, after, result⟩
      cases result with
      | pending =>
        have stretch : desk.stretch (.poll name) = {} := by
          simp [Desk.stretch, readBy, poll, held, polled]
        rw [stretch]
        simp only [poll, held, polled, find?_hold, if_true]
        have turn := Turn.gather desk.exchange c (by rw [polled])
        rwa [polled] at turn
      | ready all =>
        have stretch : desk.stretch (.poll name) = { read := some (c.stream.id, all) } := by
          simp [Desk.stretch, readBy, poll, held, polled]
        rw [stretch]
        simp only [poll, held, polled, find?_hold, if_true]
        have turn := Turn.collected desk.exchange c all (by rw [polled])
        rwa [polled] at turn
    | collected =>
      have polled : (desk.poll name).1 = desk := by simp only [poll, held]
      have nothing : desk.stretch (.poll name) = {} := by simp [stretch, readBy, held]
      rw [polled, nothing, held]
      exact .rest desk.exchange (some .collected)

theorem perform_turn (desk : Desk ν σ) (errand : Errand ν) :
    ∃ name, Turn desk.exchange (desk.find? name) (desk.stretch errand)
        (desk.perform errand).1.exchange ((desk.perform errand).1.find? name) ∧
      ∀ other, other ≠ name → (desk.perform errand).1.find? other = desk.find? other := by
  cases errand with
  | run program => exact ⟨"", .run desk.exchange _ program, fun _ _ => rfl⟩
  | call name topic message =>
    refine ⟨name, ?_, fun other isOther => ?_⟩
    · simp only [perform, replace_exchange, find?_replace, if_true]
      exact .call desk.exchange _ topic message
    · simp only [perform, find?_replace, if_neg isOther]
  | openStream name topic message =>
    refine ⟨name, ?_, fun other isOther => ?_⟩
    · simp only [perform, replace_exchange, find?_replace, if_true]
      exact .openStream desk.exchange _ topic message
    · simp only [perform, find?_replace, if_neg isOther]
  | poll name => exact ⟨name, desk.poll_turn name, fun other isOther => find?_poll isOther⟩
  | collect name =>
    refine ⟨name, ?_, fun other isOther => ?_⟩
    · simp only [perform]
      split
      · rename_i s held
        rw [held, find?_hold, if_pos rfl]
        exact .collect desk.exchange s
      · exact .rest desk.exchange _
    · simp only [perform]
      split
      · rw [find?_hold, if_neg isOther]
      · rfl
  | describe name =>
    refine ⟨name, ?_, fun other _ => ?_⟩
    · simp only [perform]
      split <;> exact .rest desk.exchange _
    · simp only [perform]
      split <;> rfl
  | drop name =>
    refine ⟨name, ?_, fun other isOther => ?_⟩
    · rw [perform, find?_drop, if_pos rfl]
      cases held : desk.find? name with
      | none =>
        have same : (desk.drop name).exchange = desk.exchange := by simp only [drop, held]
        rw [same]
        exact .rest desk.exchange none
      | some c =>
        have released : (desk.drop name).exchange = release c desk.exchange := by
          simp only [drop, held]
        rw [released]
        exact .drop desk.exchange c
    · simp only [perform, find?_drop, if_neg isOther]

theorem Course.reaches (course : Course desk past d) : Reaches desk d := by
  induction course with
  | start => exact .refl
  | @perform past d errand _ ih => exact ih.tail (.perform d errand)
  | @outside past d outlet events outward _ ih => exact ih.tail (.outside d outlet events outward)

/-- Whatever a desk can come to next continues its course. -/
theorem Course.further (course : Course desk past d) (reached : Reaches d e) :
    ∃ more, Course desk (past ++ more) e := by
  induction reached with
  | refl => exact ⟨[], by rwa [List.append_nil]⟩
  | @tail d e _ step ih =>
    obtain ⟨more, course⟩ := ih
    cases step with
    | perform errand =>
      refine ⟨more ++ [d.stretch errand], ?_⟩
      rw [← List.append_assoc]
      exact .perform errand course
    | outside outlet events outward => exact ⟨more, .outside outlet events outward course⟩

namespace Turn

variable {x y : Exchange ν σ} {before after : Option Conversation} {stretch : Stretch}

theorem releaseAny_moves (c : Option Conversation) (x : Exchange ν σ) {reads : Nat → Prop} :
    Moves reads x (releaseAny c x) := by
  cases c with
  | none => exact .refl x
  | some c => exact release_moves c

theorem moves (turn : Turn x before stretch y after) :
    Moves (fun box => before.bind Conversation.box? = some box) x y := by
  cases turn with
  | rest => exact .refl x
  | run => exact .execute _
  | drop c => exact release_moves c
  | call => exact releaseAny_moves before x
  | openStream => exact (ReplyStream.openOn_moves _ _).trans (releaseAny_moves before _)
  | collect s => exact .refl x
  | pollCall call => exact call.poll_moves
  | wait s _ =>
    have moved : Moves (fun box => some s.box = some box) x (s.next x).1 ∧ _ := s.next_moves rfl
    exact moved.1
  | next s reply _ =>
    have moved : Moves (fun box => some s.box = some box) x (s.next x).1 ∧ _ := s.next_moves rfl
    exact moved.1
  | gather c _ =>
    have moved : Moves (fun box => some c.stream.box = some box) x (c.poll x).1 ∧ _ :=
      c.poll_moves rfl
    exact moved.1
  | collected c all _ =>
    have moved : Moves (fun box => some c.stream.box = some box) x (c.poll x).1 ∧ _ :=
      c.poll_moves rfl
    exact moved.1.trans (.unsubscribe _)

theorem readOf_other (turn : Turn x before stretch y after) {id : SubscriptionId}
    (isOther : before.bind Conversation.id? ≠ some id) : stretch.readOf id = [] := by
  cases turn with
  | next s reply _ => exact if_neg fun same => isOther (congrArg some same)
  | collected c all _ => exact if_neg fun same => isOther (congrArg some same)
  | _ => rfl

theorem id?_after (turn : Turn x before stretch y after) {id : SubscriptionId}
    (has : after.bind Conversation.id? = some id) :
    before.bind Conversation.id? = some id ∨
      x.registry.lastNumber < id.number ∧ id.number ≤ y.registry.lastNumber := by
  have next {z : Exchange ν σ} {topic : String} {delivery : Delivery}
      (later : Moves (fun _ => True) (x.begun topic delivery) z) :
      x.registry.lastNumber < x.registry.nextId.number ∧
        x.registry.nextId.number ≤ z.registry.lastNumber :=
    ⟨Nat.lt_succ_self _, later.continues.1⟩
  cases turn with
  | rest => exact .inl has
  | run => exact .inl has
  | drop c => cases has
  | call => cases has
  | openStream =>
    cases has
    exact .inr (next ((Moves.publish _ _).trans (releaseAny_moves before _)))
  | collect s => exact .inl has
  | pollCall call =>
    cases call with
    | fresh topic message =>
      have published : Moves (fun _ => True) (x.begun topic .once)
          ((Call.fresh topic message).poll x).1 :=
        .trans (.publish _ _) (Call.await_moves x.registry.nextId x.nextBox)
      have isNext : id = x.registry.nextId := by
        simp only [Option.bind_some, Call.poll] at has
        rcases Call.await_cases x.registry.nextId x.nextBox
            (x.addBox.request topic message (.box x.nextBox)).1 with ⟨result, concluded⟩ | waits
        · rw [show (x.addBox.request topic message (.box x.nextBox)).2 = x.registry.nextId from rfl,
            concluded] at has
          cases has
        · rw [show (x.addBox.request topic message (.box x.nextBox)).2 = x.registry.nextId from rfl,
            waits] at has
          cases has
          rfl
      rw [isNext]
      exact .inr (next published)
    | waiting own box =>
      refine .inl ?_
      simp only [Option.bind_some, Call.poll] at has
      rcases Call.await_cases own box x with ⟨result, concluded⟩ | waits
      · rw [concluded] at has
        cases has
      · rw [waits] at has
        exact has
    | finished => cases has
  | wait s _ => exact .inl (has ▸ congrArg some (s.next_id x).symm)
  | next s reply _ => exact .inl (has ▸ congrArg some (s.next_id x).symm)
  | gather c _ => exact .inl (has ▸ congrArg some (c.poll_id x).symm)
  | collected c all _ => cases has

end Turn

structure IdsApart (desk : Desk ν σ) : Prop where
  issued : ∀ {name c id}, desk.find? name = some c → c.id? = some id →
    id.number ≤ desk.exchange.registry.lastNumber
  apart : ∀ {name other c c' id}, desk.find? name = some c → desk.find? other = some c' →
    c.id? = some id → c'.id? = some id → name = other

namespace IdsApart

omit [Outlet σ] in
theorem ofFresh (fresh : desk.IsFresh) : desk.IdsApart := by
  have none : ∀ name, desk.find? name = none := fun name => by simp [find?, fresh.held]
  refine ⟨?_, ?_⟩
  · intro name c id found
    simp [none] at found
  · intro name other c c' id found
    simp [none] at found

omit [Outlet σ] in
theorem move {reads : Nat → Prop} {y : Exchange ν σ} (h : d.IdsApart)
    (moves : Moves reads d.exchange y) : IdsApart ⟨y, d.held⟩ where
  issued held has := Nat.le_trans (h.issued held has) moves.continues.1
  apart held held' has has' := h.apart held held' has has'

theorem step (h : d.IdsApart) (step : Step d e) : e.IdsApart := by
  have numbers : d.exchange.registry.lastNumber ≤ e.exchange.registry.lastNumber :=
    step.moves.continues.1
  cases step with
  | outside outlet events outward =>
    exact ⟨fun held has => h.issued held has,
      fun held held' has has' => h.apart held held' has has'⟩
  | perform errand =>
    obtain ⟨name, turn, others⟩ := d.perform_turn errand
    -- who has an old subscription had it before, and who has a new one is the one under the name
    have origin : ∀ {other c id}, (d.perform errand).1.find? other = some c → c.id? = some id →
        (∃ c', d.find? other = some c' ∧ c'.id? = some id) ∨
          other = name ∧ d.exchange.registry.lastNumber < id.number ∧
            id.number ≤ (d.perform errand).1.exchange.registry.lastNumber := by
      intro other c id held has
      by_cases isName : other = name
      · subst isName
        have after : ((d.perform errand).1.find? other).bind Conversation.id? = some id := by
          rw [held]
          exact has
        rcases turn.id?_after after with old | new
        · exact .inl (Option.bind_eq_some_iff.mp old)
        · exact .inr ⟨rfl, new⟩
      · exact .inl ⟨c, (others other isName) ▸ held, has⟩
    refine ⟨fun held has => ?_, fun held held' has has' => ?_⟩
    · rcases origin held has with ⟨c', held, has⟩ | ⟨-, -, bound⟩
      · exact Nat.le_trans (h.issued held has) numbers
      · exact bound
    · rcases origin held has with ⟨c, old, has⟩ | ⟨isName, new, -⟩
      · rcases origin held' has' with ⟨c', old', has'⟩ | ⟨-, new, -⟩
        · exact h.apart old old' has has'
        · exact absurd (h.issued old has) (Nat.not_le_of_lt new)
      · rcases origin held' has' with ⟨c', old', has'⟩ | ⟨isName', -, -⟩
        · exact absurd (h.issued old' has') (Nat.not_le_of_lt new)
        · exact isName.trans isName'.symm

theorem reaches (h : d.IdsApart) (reached : Reaches d e) : e.IdsApart := by
  induction reached with
  | refl => exact h
  | tail _ step ih => exact ih.step step

end IdsApart

end Desk

end Switchboard
