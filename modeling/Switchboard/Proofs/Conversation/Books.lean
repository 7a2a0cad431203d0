import Switchboard.Proofs.Conversation.CallOutcome
import Switchboard.Proofs.Conversation.Hearing
import Switchboard.Proofs.Conversation.Ledger
/-!
The books of a desk: all that is known of it in the course of a run, whatever drives the run. An
errand takes the books on, and so does everything else that leaves the conversations to themselves.
On an outlet that has closed they tell what every conversation comes to.
-/

set_option autoImplicit false
set_option relaxedAutoImplicit false

namespace Switchboard

open Exchange

variable {ν σ : Type} [Outlet σ]

def Exchange.called (topic : String) (message : Json) (x : Exchange ν σ) : Exchange ν σ :=
  (x.addBox.request topic message (.box x.nextBox)).1

namespace Desk

variable {desk d : Desk ν σ} {past : List Stretch} {name : String}

structure Books (past : List Stretch) (d : Desk ν σ) : Prop where
  sound : d.Sound
  idsApart : d.IdsApart
  attends : ∀ name, Attends (fun id => readIn id past) (d.find? name) d.exchange
  ledger : Ledger (callersIn past) d.Stakes d.exchange

namespace Books

omit [Outlet σ] in
theorem ofFresh (fresh : desk.IsFresh) : Books [] desk where
  sound := .ofFresh fresh
  idsApart := .ofFresh fresh
  attends := attends_ofFresh fresh
  ledger := ledger_ofFresh fresh

theorem perform (h : Books past d) (errand : Errand ν) :
    Books (past ++ [d.stretch errand]) (d.perform errand).1 where
  sound := h.sound.perform errand
  idsApart := h.idsApart.step (.perform d errand)
  attends := attends_perform h.sound h.idsApart h.attends errand
  ledger := ledger_perform h.idsApart h.ledger errand

omit [Outlet σ] in
theorem act (h : Books past d) {y : Exchange ν σ} (moves : Moves (fun _ => False) d.exchange y) :
    Books (past ++ [{ callers := d.exchange.entriesSince y }]) ⟨y, d.held⟩ where
  sound := h.sound.move moves fun _ => id
  idsApart := h.idsApart.move moves
  attends name := by
    have moved := (h.attends name).move h.sound.accounted moves fun _ _ => id
    have same : (fun id => readIn id (past ++ [{ callers := d.exchange.entriesSince y }])) =
        fun id => readIn id past := by
      funext id
      rw [readIn_append, readIn_singleton]
      exact List.append_nil _
    rw [same]
    exact moved
  ledger := by
    rw [callersIn_append, callersIn_singleton]
    exact h.ledger.act moves

omit [Outlet σ] in
theorem idle (h : Books past d) : Books (past ++ [({} : Stretch)]) d := by
  have same := h.act (.refl d.exchange)
  rwa [entriesSince, List.drop_length] at same

end Books

/-- What a call comes to when no reply can come any more. -/
def callEnding (id : SubscriptionId) (journal callers : List Event) : Report :=
  match repliesTo id journal with
  | reply :: _ => .reply reply
  | [] => .failed (if .unsubscribed id ∈ callers then .cancelled else .closed)

namespace Books

theorem poll_waiting (h : Books past d) (closed : d.exchange.isClosed = true)
    {id : SubscriptionId} {box : Nat} (held : d.find? name = some (.call (.waiting id box))) :
    (d.poll name).2 = callEnding id d.exchange.journal (callersIn past) ∧
      (d.poll name).1.find? name = some (.call .finished) := by
  have polled : Polled d name id box d.exchange :=
    polled_of_await (h.sound.calls held) h.sound.accounted (by simp only [poll, held]; rfl)
  have verdict := polled.verdict
  have ends := polled.ends
  generalize (d.poll name).2 = report at verdict ends ⊢
  have granted : IsGranted (callersIn past) d.Stakes id .once := .inr ⟨name, _, held, rfl⟩
  cases verdict with
  | replied reply started once =>
    refine ⟨?_, (ends (by simp)).1⟩
    rw [← length_repliesTo, List.length_eq_one_iff] at once
    obtain ⟨only, replies⟩ := once
    have same : reply = only := by
      rw [← List.mem_singleton, ← replies]
      exact mem_repliesTo.mpr started
    rw [callEnding, replies, same]
  | cancelled none removed =>
    refine ⟨?_, (ends (by simp)).1⟩
    rw [callEnding, repliesTo_eq_nil.mpr none]
    simp only [if_pos (h.ledger.removed granted removed)]
  | closed none kept =>
    refine ⟨?_, (ends (by simp)).1⟩
    rw [callEnding, repliesTo_eq_nil.mpr none]
    simp only [if_neg fun removed => kept (h.ledger.entered removed)]
  | pending _ _ isOpen =>
    rw [closed] at isOpen
    cases isOpen

theorem poll_fresh (h : Books past d) {topic : String} {message : Json}
    (held : d.find? name = some (.call (.fresh topic message)))
    (closed : (d.exchange.called topic message).isClosed = true)
    (live : (d.exchange.called topic message).registry.contains d.exchange.registry.nextId = true)
    (unanswered :
      repliesTo d.exchange.registry.nextId (d.exchange.called topic message).journal = []) :
    (d.poll name).2 = .failed .closed ∧ (d.poll name).1.find? name = some (.call .finished) := by
  have empty : (d.exchange.called topic message).box d.exchange.nextBox = [] := by
    have content := (h.sound.awaits_begun topic message).content
    change _ = (repliesTo _ (d.exchange.called topic message).journal).drop 0 at content
    rwa [unanswered] at content
  have ended : (Call.fresh topic message).poll d.exchange = Call.conclude d.exchange.registry.nextId
      (.error .closed) (d.exchange.called topic message) := by
    change Call.await d.exchange.registry.nextId d.exchange.nextBox
      (d.exchange.called topic message) = _
    simp [Call.await, empty, live, closed]
  simp only [poll, held, ended, find?_hold, if_true]
  exact ⟨rfl, rfl⟩

private theorem polls_finished {s : ReplyStream} (finished : s.finished = true) (n : Nat)
    (held : d.find? name = some (.stream s)) : d.polls n name = List.replicate n .ended := by
  induction n generalizing d with
  | zero => rfl
  | succ n ih =>
    obtain ⟨report, -, held'⟩ := poll_stream held
    have same : s.next d.exchange = (d.exchange, s, .ready none) := by
      simp [ReplyStream.next, finished]
    rw [same] at report held'
    rw [polls, List.replicate_succ, report, ih held']
    rfl

private theorem polls_ending {t : ReplyStream} (told : (d.poll name).2 = .ended)
    (held : (d.poll name).1.find? name = some (.stream t)) (finished : t.finished = true)
    (n : Nat) : d.polls n name = List.replicate n .ended := by
  cases n with
  | zero => rfl
  | succ n => rw [polls, List.replicate_succ, told, polls_finished finished n held]

private theorem polls_follows {d : Desk ν σ} {s : ReplyStream} {heard : List Reply}
    (follows : Follows s heard d.exchange) (accounted : d.exchange.IsAccounted)
    (closed : d.exchange.isClosed = true) (held : d.find? name = some (.stream s)) :
    ∃ rest, heard ++ rest = spoken (repliesTo s.id d.exchange.journal) ∧
      ∀ n, d.polls (rest.length + n) name = rest.map .reply ++ List.replicate n .ended := by
  obtain ⟨report, exchange, held'⟩ := poll_stream held
  obtain ⟨verdict, next⟩ := follows.next accounted
  have read := s.next_read d.exchange
  generalize s.next d.exchange = result at report exchange held' verdict next read
  -- a reader that is told of the end has heard everything
  have ending (report : (d.poll name).2 = .ended)
      (verdict : StreamVerdict s heard d.exchange .ended) {t : ReplyStream}
      (held' : (d.poll name).1.find? name = some (.stream t)) (finished : t.finished = true) :
      ∃ rest, heard ++ rest = spoken (repliesTo s.id d.exchange.journal) ∧
        ∀ n, d.polls (rest.length + n) name = rest.map .reply ++ List.replicate n .ended := by
    cases verdict with
    | ended all _ =>
      refine ⟨[], by rw [List.append_nil]; exact all, fun n => ?_⟩
      rw [List.length_nil, Nat.zero_add, polls_ending report held' finished]
      rfl
  cases read with
  | after isOver => exact ending report verdict held' isOver
  | last reply rest going content ends => exact ending report verdict held' rfl
  | lost going content hopeless => exact ending report verdict held' rfl
  | wait going content live isOpen =>
    rw [closed] at isOpen
    cases isOpen
  | found reply rest going content notEnd =>
    -- every poll that yields a reply takes it out of the box
    have accounted' : (d.poll name).1.exchange.IsAccounted := by
      rw [exchange]
      exact isAccounted_lasting.read s.box trivial accounted
    have fewer : ((d.poll name).1.exchange.box s.box).length < (d.exchange.box s.box).length := by
      rw [exchange, box_unpost_self, content]
      exact Nat.lt_succ_self _
    obtain ⟨later, all, polls⟩ := polls_follows (exchange ▸ next) accounted'
      (by rw [exchange]; exact closed) held'
    refine ⟨reply :: later, ?_, fun n => ?_⟩
    · rw [exchange] at all
      rw [← List.singleton_append, ← List.append_assoc]
      exact all
    · rw [List.length_cons, Nat.add_right_comm, Desk.polls, report, polls n]
      rfl
termination_by (d.exchange.box s.box).length

theorem polls_stream (h : Books past d) (closed : d.exchange.isClosed = true) {s : ReplyStream}
    (held : d.find? name = some (.stream s)) :
    ∃ rest, readIn s.id past ++ rest = spoken (repliesTo s.id d.exchange.journal) ∧
      ∀ n, d.polls (rest.length + n) name = rest.map .reply ++ List.replicate n .ended := by
  have attends := h.attends name
  rw [held] at attends
  have follows := attends.follows s [] rfl
  rw [List.append_nil] at follows
  exact polls_follows follows h.sound.accounted closed held

theorem poll_collecting (h : Books past d) (closed : d.exchange.isClosed = true) {c : Collecting}
    (held : d.find? name = some (.collecting c)) :
    ∃ all, (d.poll name).2 = .replies all ∧
      readIn c.stream.id past ++ all = spoken (repliesTo c.stream.id d.exchange.journal) ∧
      (d.poll name).1.find? name = some .collected := by
  have attends := h.attends name
  rw [held] at attends
  have verdict := ((attends.follows c.stream c.replies rfl).poll h.sound.accounted).1
  obtain ⟨report, -, -⟩ := Desk.poll_collecting held
  cases result : (c.poll d.exchange).2.2 with
  | pending =>
    rw [result] at verdict
    cases verdict with
    | pending going => exact absurd (.inr (.inr (.inl closed))) going
  | ready all =>
    rw [result] at verdict report
    cases verdict with
    | replies _ said _ =>
      refine ⟨all, report, said, ?_⟩
      simp only [poll, held]
      rcases polled : c.poll d.exchange with ⟨y, after, outcome⟩
      rw [polled] at result
      cases result
      simp only [find?_hold, if_true]

omit [Outlet σ] in
theorem live_of_idle (h : Books past d) (idle : ∀ id delivery, ¬d.Stakes id (some delivery))
    (id : SubscriptionId) (delivery : Delivery) :
    d.exchange.registry.delivery? id = some delivery ↔
      IsEntitled (callersIn past) (fun _ _ => False) d.exchange id delivery := by
  have nobody : Ledger (callersIn past) (fun _ _ => False) d.exchange :=
    h.ledger.mono (fun _ _ => False.elim) fun id delivery has => idle id delivery has
  exact nobody.delivery?_iff delivery

end Books
end Desk
end Switchboard
