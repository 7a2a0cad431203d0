import Switchboard.Proofs.Bus.Tame
import Switchboard.Proofs.Conversation.Hearing
import Switchboard.Proofs.Exchange.Offers
/-!
Conversations on different topics are independent. Where callbacks keep out of the registry, inbound
texts may be shuffled, and malformed ones thrown in, as long as each topic keeps its own frames in
order: the same subscriptions stay, each is told the same, and whoever waits reads the same.
-/

set_option autoImplicit false
set_option relaxedAutoImplicit false

namespace Switchboard

open Exchange

variable {ν σ : Type} [Outlet σ]

structure Exchange.SameAt (id : SubscriptionId) (box : Nat) (x y : Exchange ν σ) : Prop where
  content : x.box box = y.box box
  live : x.registry.contains id = y.registry.contains id
  closed : x.isClosed = y.isClosed

section Polls

variable {x y : Exchange ν σ}

theorem Exchange.SameAt.unpost {id : SubscriptionId} {box : Nat} (h : SameAt id box x y) :
    SameAt id box (x.unpost box) (y.unpost box) where
  content := by rw [box_unpost_self, box_unpost_self, h.content]
  live := h.live
  closed := h.closed

/-- A call that waits comes to the same result on both, and still waits on both or on neither. -/
theorem Call.await_same {id : SubscriptionId} {box : Nat} (h : SameAt id box x y) :
    (Call.await id box x).2 = (Call.await id box y).2 ∧
      ((Call.await id box x).2.1 = .finished ∨
        Call.await id box x = (x, .waiting id box, .pending) ∧
        Call.await id box y = (y, .waiting id box, .pending)) := by
  unfold Call.await
  rw [h.content, h.live, h.closed]
  split
  · exact ⟨rfl, .inl rfl⟩
  · split
    · exact ⟨rfl, .inl rfl⟩
    · split
      · exact ⟨rfl, .inl rfl⟩
      · exact ⟨rfl, .inr ⟨rfl, rfl⟩⟩

namespace ReplyStream

/-- A stream looks the same on two exchanges: what is in its box, or that it is over. -/
def SeesSame (s : ReplyStream) (x y : Exchange ν σ) : Prop :=
  s.finished = false → SameAt s.id s.box x y

theorem next_same {s : ReplyStream} (h : s.SeesSame x y) :
    (s.next x).2 = (s.next y).2 ∧ (s.next x).2.1.SeesSame (s.next x).1 (s.next y).1 := by
  cases finished : s.finished with
  | true =>
    simp only [next, finished, if_true]
    exact ⟨trivial, h⟩
  | false =>
    have same := h finished
    simp only [next, finished, Bool.false_eq_true, if_false, finish, same.content, same.live,
      same.closed]
    split
    · split
      · exact ⟨rfl, nofun⟩
      · exact ⟨rfl, fun _ => same.unpost⟩
    · split
      · exact ⟨rfl, nofun⟩
      · exact ⟨rfl, h⟩

theorem drain_same (n : Nat) {s : ReplyStream} (h : s.SeesSame x y) :
    (s.drain n x).2 = (s.drain n y).2 ∧
      (s.drain n x).2.1.SeesSame (s.drain n x).1 (s.drain n y).1 := by
  induction n generalizing s x y with
  | zero => exact ⟨rfl, h⟩
  | succ n ih =>
    obtain ⟨same, after⟩ := next_same h
    unfold drain
    rcases next : s.next x with ⟨x', t, result⟩
    rcases next' : s.next y with ⟨y', t', result'⟩
    rw [next, next'] at same after
    cases same
    cases result with
    | pending => exact ⟨rfl, after⟩
    | ready found =>
      cases found with
      | none => exact ⟨rfl, after⟩
      | some reply =>
        obtain ⟨same, later⟩ := ih after
        simp only [same]
        exact ⟨trivial, same ▸ later⟩

end ReplyStream

theorem Collecting.poll_same {c : Collecting} (h : c.stream.SeesSame x y) :
    (c.poll x).2 = (c.poll y).2 ∧ (c.poll x).2.1.stream.SeesSame (c.poll x).1 (c.poll y).1 := by
  cases finished : c.stream.finished with
  | true =>
    simp only [poll, ReplyStream.drain, ReplyStream.next, finished, if_true]
    exact ⟨trivial, h⟩
  | false =>
    obtain ⟨same, after⟩ := ReplyStream.drain_same ((x.box c.stream.box).length + 1) h
    unfold poll
    rw [← (h finished).content]
    simp only [same]
    exact ⟨trivial, same ▸ after⟩

def Conversation.SeesSame (c : Conversation) (x y : Exchange ν σ) : Prop :=
  match c with
  | .call (.fresh ..) => False
  | .call (.waiting id box) => SameAt id box x y
  | .stream s => s.SeesSame x y
  | .collecting c => c.stream.SeesSame x y
  | .call .finished | .collected => True

end Polls

namespace Desk

/-- Desks that hold the same and on which the conversation under a name looks the same. -/
structure SameFor (name : String) (d e : Desk ν σ) : Prop where
  held : d.held = e.held
  sees : ∀ c, d.find? name = some c → c.SeesSame d.exchange e.exchange

/-- A poll reports the same on both, and the conversation looks the same afterwards. -/
theorem SameFor.poll {name : String} {d e : Desk ν σ} (h : SameFor name d e) :
    (d.poll name).2 = (e.poll name).2 ∧ SameFor name (d.poll name).1 (e.poll name).1 := by
  have found : e.find? name = d.find? name := by rw [find?, find?, h.held]
  have goesOn {x y : Exchange ν σ} {c : Conversation} (sees : c.SeesSame x y) :
      SameFor name ({ d with exchange := x }.hold name c) ({ e with exchange := y }.hold name c) :=
    { held := by simp only [hold, h.held]
      sees := fun other same => by
        rw [find?_hold, if_pos rfl] at same
        cases same
        exact sees }
  cases held : d.find? name with
  | none =>
    simp only [Desk.poll, found, held]
    exact ⟨trivial, h⟩
  | some c =>
    have sees := h.sees c held
    cases c with
    | call call =>
      cases call with
      | fresh topic message => exact sees.elim
      | finished =>
        simp only [Desk.poll, found, held]
        exact ⟨trivial, h⟩
      | waiting id box =>
        obtain ⟨same, after⟩ := Call.await_same sees
        simp only [Desk.poll, found, held, Call.poll, same]
        refine ⟨trivial, goesOn ?_⟩
        rcases after with finished | ⟨waits, waits'⟩
        · rw [← same, finished]
          trivial
        · rw [waits, waits']
          exact sees
    | stream s =>
      obtain ⟨same, after⟩ := ReplyStream.next_same (s := s) sees
      simp only [Desk.poll, found, held, same]
      exact ⟨trivial, goesOn (same ▸ after)⟩
    | collecting c =>
      obtain ⟨same, after⟩ := Collecting.poll_same (c := c) sees
      simp only [Desk.poll, found, held]
      rcases polled : c.poll d.exchange with ⟨x, t, result⟩
      rcases polled' : c.poll e.exchange with ⟨y, t', result'⟩
      rw [polled, polled'] at same after
      cases same
      cases result with
      | pending => exact ⟨rfl, goesOn after⟩
      | ready all => exact ⟨rfl, goesOn trivial⟩
    | collected =>
      simp only [Desk.poll, found, held]
      exact ⟨trivial, h⟩

theorem SameFor.polls {name : String} {d e : Desk ν σ} (h : SameFor name d e) (n : Nat) :
    d.polls n name = e.polls n name := by
  induction n generalizing d e with
  | zero => rfl
  | succ n ih =>
    obtain ⟨report, after⟩ := h.poll
    rw [Desk.polls, Desk.polls, report, ih after]

def routed (texts : List String) (desk : Desk ν σ) : Desk ν σ :=
  { desk with exchange := desk.exchange.routeAll texts }

def meet (outlet : σ) (desk : Desk ν σ) : Desk ν σ :=
  { desk with exchange := { desk.exchange with outlet } }

omit [Outlet σ] in
theorem meet_self (desk : Desk ν σ) : desk.meet desk.exchange.outlet = desk := rfl

section Routing

variable {x : Exchange ν σ} {start d : Desk ν σ} {past : List Stretch} {u v : List String}

theorem routeAll_moves {reads : Nat → Prop} (texts : List String) (x : Exchange ν σ) :
    Moves reads x (x.routeAll texts) := by
  induction texts generalizing x with
  | nil => exact .refl x
  | cons text rest ih =>
    have first : Moves reads x (x.route text).1 := .execute (.route text fun _ => .done .nothing)
    exact first.trans (ih _)

theorem sameAt_routed {id : SubscriptionId} {box read : Nat} (owns : Owns id box read x)
    (registry : (x.routeAll u).registry = (x.routeAll v).registry)
    (replies : repliesTo id (x.routeAll u).journal = repliesTo id (x.routeAll v).journal)
    {s t : σ} (closed : Outlet.isClosed s = Outlet.isClosed t) :
    SameAt id box { x.routeAll u with outlet := s } { x.routeAll v with outlet := t } where
  content := by
    have content (texts : List String) : (x.routeAll texts).box box =
        (repliesTo id (x.routeAll texts).journal).drop read := by
      -- Nobody reads while texts are routed: the box only grows, by what its owner is told.
      have moves : Moves (fun _ => False) x (x.routeAll texts) := routeAll_moves texts x
      exact (moves.keeps (owns_survives id box read) (fun _ => nofun) owns).content
    change (x.routeAll u).box box = (x.routeAll v).box box
    rw [content, content, replies]
  live := congrArg (fun r => r.contains id) registry
  closed := closed

theorem sees_routed (fresh : start.IsFresh) (course : Course start past d)
    (registry : (d.exchange.routeAll u).registry = (d.exchange.routeAll v).registry)
    (replies : ∀ id, repliesTo id (d.exchange.routeAll u).journal =
      repliesTo id (d.exchange.routeAll v).journal)
    {s t : σ} (closed : Outlet.isClosed s = Outlet.isClosed t) {name : String} {c : Conversation}
    (held : d.find? name = some c) (begun : ∀ topic message, c ≠ .call (.fresh topic message)) :
    c.SeesSame { d.exchange.routeAll u with outlet := s }
      { d.exchange.routeAll v with outlet := t } := by
  have attends := course.attends fresh name
  rw [held] at attends
  cases c with
  | call call =>
    cases call with
    | fresh topic message => exact begun topic message rfl
    | waiting id box =>
      have awaits := ((Sound.ofFresh fresh).reaches course.reaches).calls held
      exact sameAt_routed awaits.toOwns registry (replies id) closed
    | finished => trivial
  | stream stream =>
    intro going
    have owns := (attends.follows stream [] rfl).going going
    exact sameAt_routed owns registry (replies stream.id) closed
  | collecting c =>
    intro going
    have owns := (attends.follows c.stream c.replies rfl).going going
    exact sameAt_routed owns registry (replies c.stream.id) closed
  | collected => trivial

/-- Conversations on different topics are independent. Two sequences of inbound texts with the same
frames on each topic leave the same subscriptions and the same next number, and tell each
subscription the same; and as long as both outlets are closed or none is, the polls of every
conversation that has begun report the same. An outlet that closes of its own accord is
closed after both or after none. -/
theorem topics_independent (fresh : start.IsFresh) (reached : Reaches start d)
    (aloof : ∀ id s, d.exchange.registry.get? id = some s →
      s.callback.IsAloof (Outlet.IsOneWay d.exchange.outlet))
    (same : ∀ topic, framesOn topic (framesIn d.exchange.policy u) =
      framesOn topic (framesIn d.exchange.policy v)) :
    (d.routed u).exchange.registry = (d.routed v).exchange.registry ∧
    (∀ id, repliesTo id (d.routed u).exchange.journal =
      repliesTo id (d.routed v).exchange.journal) ∧
    (∀ s t, Outlet.isClosed s = Outlet.isClosed t → ∀ name,
      (∀ topic message, d.find? name ≠ some (.call (.fresh topic message))) →
      ∀ n, ((d.routed u).meet s).polls n name = ((d.routed v).meet t).polls n name) ∧
    (Outlet.IsSteady σ → (d.routed u).exchange.isClosed = (d.routed v).exchange.isClosed) := by
  have isAloof : d.exchange.IsAloof (Outlet.IsOneWay d.exchange.outlet) := ⟨aloof, id⟩
  have first := routeAll_offers isAloof u
  have other := routeAll_offers isAloof v
  rw [d.exchange.onOffer_congr same] at first
  obtain ⟨registry, replies⟩ := first.unique other
  refine ⟨registry, replies, fun s t closed name begun n => ?_, fun steady => ?_⟩
  · obtain ⟨past, course⟩ := Course.start.further reached
    have sameFor : SameFor name ((d.routed u).meet s) ((d.routed v).meet t) :=
      { held := rfl
        sees := fun c held => sees_routed fresh course registry replies closed held
          fun topic message isFresh => begun topic message (isFresh ▸ held) }
    exact sameFor.polls n
  · exact (steady.isClosed_eq first.outlet).trans (steady.isClosed_eq other.outlet).symm

end Routing

private def idle : Desk String Trunk := ⟨Bus.create {} false, []⟩

/-- A bus with a subscriber that publishes, one that fails, a call that waits and an open stream. -/
private def busy : Desk String Trunk :=
  let listening := (idle.perform (.run (.subscribe "a" .persistent true
    (fun _ reply => .note reply.code (.send "b" reply.value (.done .nothing)))
    fun _ => .subscribe "b" .once false (fun _ _ => .panic) fun _ => .done .nothing))).1
  let calling := ((listening.perform (.call "ask" "b" .null)).1.perform (.poll "ask")).1
  (calling.perform (.openStream "news" "a" .null)).1

private theorem busy_entries : busy.exchange.registry.entries =
    [(⟨1⟩, ⟨"a", .persistent, .program true fun _ reply =>
      .note reply.code (.send "b" reply.value (.done .nothing))⟩),
    (⟨2⟩, ⟨"b", .once, .program false fun _ _ => .panic⟩),
    (⟨3⟩, ⟨"b", .once, .box 0⟩), (⟨4⟩, ⟨"a", .persistent, .box 1⟩)] := rfl

private def said (topic value : String) : String :=
  "\x7b\"topic\":\"" ++ topic ++ "\",\"code\":\"end\",\"value\":\"" ++ value ++ "\"\x7d"

private def inTurn : List String := [said "a" "1", said "b" "2", "lost", said "b" "3", said "a" "4"]

private def shuffled : List String :=
  [said "b" "2", said "a" "1", said "a" "4", "\x7b\x7d", said "b" "3", ""]

/-- The bus hears the same of both, and whoever polls next, and again, is told the same. -/
theorem topics_independent_busy :
    (busy.routed inTurn).exchange.registry = (busy.routed shuffled).exchange.registry ∧
    (∀ id, repliesTo id (busy.routed inTurn).exchange.journal =
      repliesTo id (busy.routed shuffled).exchange.journal) ∧
    ∀ n, (busy.routed inTurn).polls n "ask" = (busy.routed shuffled).polls n "ask" ∧
      (busy.routed inTurn).polls n "news" = (busy.routed shuffled).polls n "news" := by
  have fresh : idle.IsFresh := ⟨⟨rfl, by simp [idle, Bus.create, Event.isQuiet]⟩, rfl⟩
  have reached : Reaches idle busy :=
    (((Relation.ReflTransGen.single (.perform _ _)).tail (.perform _ _)).tail
      (.perform _ _)).tail (.perform _ _)
  have aloof : ∀ id s, busy.exchange.registry.get? id = some s →
      s.callback.IsAloof (Outlet.IsOneWay busy.exchange.outlet) := by
    intro id s found
    rw [Registry.get?_eq_some, busy_entries] at found
    simp only [List.mem_cons, Prod.mk.injEq, List.not_mem_nil, or_false] at found
    rcases found with ⟨-, rfl⟩ | ⟨-, rfl⟩ | ⟨-, rfl⟩ | ⟨-, rfl⟩
    · exact fun _ reply => ⟨fun _ _ _ => rfl, trivial⟩
    · exact fun _ _ => trivial
    · trivial
    · trivial
  have frames : framesIn busy.exchange.policy inTurn =
      [⟨"a", "end", .string "1"⟩, ⟨"b", "end", .string "2"⟩, ⟨"b", "end", .string "3"⟩,
        ⟨"a", "end", .string "4"⟩] := by decide +kernel
  have others : framesIn busy.exchange.policy shuffled =
      [⟨"b", "end", .string "2"⟩, ⟨"a", "end", .string "1"⟩, ⟨"a", "end", .string "4"⟩,
        ⟨"b", "end", .string "3"⟩] := by decide +kernel
  have same : ∀ topic, framesOn topic (framesIn busy.exchange.policy inTurn) =
      framesOn topic (framesIn busy.exchange.policy shuffled) := by
    intro topic
    rw [frames, others]
    by_cases isA : "a" = topic
    · subst isA
      decide
    · by_cases isB : "b" = topic
      · subst isB
        decide
      · simp [framesOn, isA, isB]
  obtain ⟨registry, replies, polls, closed⟩ := topics_independent fresh reached aloof same
  have both := polls _ _ (closed Bus.isSteady)
  rw [meet_self, meet_self] at both
  have ask : busy.find? "ask" = some (.call (.waiting ⟨3⟩ 0)) := rfl
  have news : busy.find? "news" = some (.stream ⟨⟨4⟩, 1, false⟩) := rfl
  exact ⟨registry, replies, fun n => ⟨both "ask" (by simp [ask]) n, both "news" (by simp [news]) n⟩⟩

end Desk

end Switchboard
