import Mathlib.Data.List.TakeWhile
import Switchboard.Proofs.Conversation.Course
/-!
What is heard of a stream. The replies that are read from a stream, poll by poll or collected, are
those with which the callback of its subscription was invoked, up to the first one that ends the
command: none is lost, none comes twice, and they keep their order. A reader is told of the end when
the next reply ends the command, or when everything has been read and nothing more can come.
-/

set_option autoImplicit false
set_option relaxedAutoImplicit false

namespace Switchboard

open Exchange

/-- The replies before the first one that ends the command. -/
def spoken (replies : List Reply) : List Reply := replies.takeWhile fun reply => !reply.isEnd

section Spoken

variable {a b : List Reply} {reply : Reply}

theorem spoken_begins (a : List Reply) : spoken a <+: a := List.takeWhile_prefix _

theorem isEnd_of_mem_spoken (member : reply ∈ spoken a) : reply.isEnd = false := by
  simpa using List.mem_takeWhile_imp member

theorem spoken_append (going : ∀ reply ∈ a, reply.isEnd = false) :
    spoken (a ++ b) = a ++ spoken b :=
  List.takeWhile_append_of_pos fun reply member => by simp [going reply member]

theorem spoken_of_end (ends : reply.isEnd = true) : spoken (reply :: b) = [] := by
  simp [spoken, ends]

theorem spoken_going (going : ∀ reply ∈ a, reply.isEnd = false) : spoken a = a :=
  List.takeWhile_eq_self_iff.mpr fun reply member => by simp [going reply member]

theorem spoken_append_ended (ended : ∃ reply ∈ a, reply.isEnd = true) :
    spoken (a ++ b) = spoken a := by
  have shorter : (spoken a).length ≠ a.length := by
    intro whole
    obtain ⟨reply, member, ends⟩ := ended
    rw [← (spoken_begins a).eq_of_length whole] at member
    rw [isEnd_of_mem_spoken member] at ends
    cases ends
  rw [spoken, List.takeWhile_append]
  exact if_neg shorter

theorem exists_first_end (ended : ∃ reply ∈ a, reply.isEnd = true) :
    ∃ last rest, a = spoken a ++ last :: rest ∧ last.isEnd = true := by
  induction a with
  | nil => simp at ended
  | cons first later ih =>
    cases ends : first.isEnd with
    | true => exact ⟨first, later, by rw [spoken_of_end ends, List.nil_append], ends⟩
    | false =>
      have going : ∀ reply ∈ [first], reply.isEnd = false := by simpa using ends
      have ended' : ∃ reply ∈ later, reply.isEnd = true := by simpa [ends] using ended
      obtain ⟨last, rest, whole, isLast⟩ := ih ended'
      have parts : spoken (first :: later) = first :: spoken later := spoken_append going
      refine ⟨last, rest, ?_, isLast⟩
      rw [parts, List.cons_append, ← whole]

theorem spoken_mono (h : a <+: b) : spoken a <+: spoken b := by
  obtain ⟨rest, rfl⟩ := h
  unfold spoken
  rw [List.takeWhile_append]
  split
  · exact (List.takeWhile_prefix _).trans (List.prefix_append _ _)
  · exact List.prefix_rfl

end Spoken

namespace Exchange

variable {ν σ : Type} {x : Exchange ν σ} {id : SubscriptionId}

theorem silent_lasting (id : SubscriptionId) (replies : List Reply) :
    Invariant.Lasting fun x : Exchange ν σ =>
      (x.registry.get? id = none ∧ id.number ≤ x.registry.lastNumber) ∧
        repliesTo id x.journal = replies := by
  have gone := gone_lasting (ν := ν) (σ := σ) id
  have served {x : Exchange ν σ} {other : SubscriptionId} {s : Subscription (Callback ν)}
      {rest : Registry (Callback ν)} (reply : Reply)
      (taken : x.registry.take other = some (s, rest)) (dead : x.registry.get? id = none)
      (same : repliesTo id x.journal = replies) :
      repliesTo id (x.journal ++ [.started other reply]) = replies := by
    have isOther : other ≠ id := by
      rintro rfl
      rw [(Registry.take_eq_some.mp taken).1] at dead
      cases dead
    simp [same, isOther]
  have told {journal events : List Event} (same : repliesTo id journal = replies)
      (none : repliesTo id events = []) : repliesTo id (journal ++ events) = replies := by
    rw [repliesTo_append, none, List.append_nil, same]
  exact {
    aside := fun registry boxes journal h =>
      ⟨gone.aside registry boxes journal h.1, by rw [journal]; exact h.2⟩
    tell := fun events quiet h => ⟨h.1, told h.2 (repliesTo_quiet quiet)⟩
    subscribe := fun topic delivery owner run h =>
      ⟨gone.subscribe topic delivery owner run h.1, told h.2 rfl⟩
    unsubscribe := fun live h => ⟨gone.unsubscribe live h.1, told h.2 rfl⟩
    start := fun {x _ _ _} owner program reply taken kind h =>
      ⟨gone.start owner program reply taken kind h.1, served (x := x) reply taken h.1.1 h.2⟩
    post := fun {x _ _ _} box reply taken kind h =>
      ⟨gone.post box reply taken kind h.1, served (x := x) reply taken h.1.1 h.2⟩
    finish := fun id h => ⟨h.1, told h.2 rfl⟩
    converse := fun topic delivery h => ⟨gone.converse topic delivery h.1, told h.2 rfl⟩
    read := fun _ _ h => h }

theorem Owns.unpost {box read : Nat} {reply : Reply} {rest : List Reply}
    (h : Owns id box read x) (content : x.box box = reply :: rest) :
    Owns id box (read + 1) (x.unpost box) := by
  have left : (repliesTo id x.journal).drop read = reply :: rest := h.content ▸ content
  refine ⟨h.issued, by simpa [Exchange.unpost] using h.there, h.fills, ?_, ?_⟩
  · have length := congrArg List.length left
    rw [List.length_drop, List.length_cons] at length
    change read + 1 ≤ (repliesTo id x.journal).length
    omega
  · change _ = (repliesTo id x.journal).drop (read + 1)
    rw [box_unpost_self, content, ← List.tail_drop, left]

variable [Outlet σ]

@[simp] theorem repliesTo_unsubscribe (other : SubscriptionId) :
    repliesTo id (x.unsubscribe other).journal = repliesTo id x.journal := by
  obtain ⟨more, journal, only⟩ := x.unsubscribe_journal other
  have silent : repliesTo id more = [] := by
    refine List.eq_nil_iff_forall_not_mem.mpr fun reply member => ?_
    rcases only _ (mem_repliesTo.mp member) with isRemoval | quiet
    · cases isRemoval
    · cases quiet
  rw [journal, repliesTo_append, silent, List.append_nil]

end Exchange

def Report.ofNext : Poll (Option Reply) → Report
  | .pending => .pending
  | .ready (some first) => .reply first
  | .ready none => .ended

def Poll.told : Poll (Option Reply) → List Reply
  | .pending => []
  | .ready (some reply) => [reply]
  | .ready none => []

variable {ν σ : Type} [Outlet σ]

namespace ReplyStream

theorem next_finished {s : ReplyStream} {x : Exchange ν σ} (ended : (s.next x).2.2 = .ready none) :
    (s.next x).2.1.finished = true := by
  have read := s.next_read x
  generalize s.next x = result at read ended ⊢
  cases read with
  | after isOver => exact isOver
  | last => rfl
  | lost => rfl
  | found => cases ended
  | wait => cases ended

end ReplyStream

/-- A stream of which so much has been heard has come to its end: its reader was told so already, or
the next reply ends the command, or no reply can come any more. -/
def IsOver (s : ReplyStream) (heard : List Reply) (x : Exchange ν σ) : Prop :=
  s.finished = true ∨
    (∃ last rest, repliesTo s.id x.journal = heard ++ last :: rest ∧ last.isEnd = true) ∨
    x.isClosed = true ∨ .unsubscribed s.id ∈ x.journal

/-- What a poll of a stream has to report to a reader that has heard so much. -/
inductive StreamVerdict (s : ReplyStream) (heard : List Reply) (x : Exchange ν σ) : Report → Prop
  | replied (reply : Reply) : heard ++ [reply] <+: spoken (repliesTo s.id x.journal) →
    StreamVerdict s heard x (.reply reply)
  | ended : heard = spoken (repliesTo s.id x.journal) → IsOver s heard x →
    StreamVerdict s heard x .ended
  | pending : heard = spoken (repliesTo s.id x.journal) → ¬IsOver s heard x →
    StreamVerdict s heard x .pending

/-- What a poll of a collection has to report: all the rest, once there is an end. -/
inductive CollectVerdict (s : ReplyStream) (heard : List Reply) (x : Exchange ν σ) : Report → Prop
  | replies (all : List Reply) : heard ++ all = spoken (repliesTo s.id x.journal) →
    IsOver s (heard ++ all) x → CollectVerdict s heard x (.replies all)
  | pending : ¬IsOver s (spoken (repliesTo s.id x.journal)) x → CollectVerdict s heard x .pending

structure Follows (s : ReplyStream) (heard : List Reply) (x : Exchange ν σ) : Prop where
  made : ∃ topic, .subscribed s.id topic .persistent ∈ x.journal
  said : heard <+: spoken (repliesTo s.id x.journal)
  going : s.finished = false → Owns s.id s.box heard.length x
  atEnd : s.finished = true →
    x.registry.get? s.id = none ∧ heard = spoken (repliesTo s.id x.journal)

namespace Follows

variable {s : ReplyStream} {heard : List Reply} {x y : Exchange ν σ}

omit [Outlet σ] in
theorem replies (h : Follows s heard x) (going : s.finished = false) :
    repliesTo s.id x.journal = heard ++ x.box s.box := by
  obtain ⟨rest, all⟩ := h.said.trans (spoken_begins _)
  have content := (h.going going).content
  rw [← all, List.drop_left] at content
  rw [content, all]

omit [Outlet σ] in
theorem notEnd (h : Follows s heard x) : ∀ reply ∈ heard, reply.isEnd = false :=
  fun _ member => isEnd_of_mem_spoken (h.said.subset member)

omit [Outlet σ] in
theorem caughtUp (h : Follows s heard x) (going : s.finished = false) (empty : x.box s.box = []) :
    repliesTo s.id x.journal = heard ∧ heard = spoken (repliesTo s.id x.journal) := by
  have all := h.replies going
  rw [empty, List.append_nil] at all
  have same : spoken (heard ++ []) = heard ++ spoken [] := spoken_append h.notEnd
  simp only [spoken, List.takeWhile_nil, List.append_nil] at same
  exact ⟨all, by rw [all]; exact same.symm⟩

omit [Outlet σ] in
theorem move {reads : Nat → Prop} (h : Follows s heard x) (accounted : x.IsAccounted)
    (moves : Moves reads x y) (foreign : ¬reads s.box) : Follows s heard y := by
  obtain ⟨topic, made⟩ := h.made
  have grown := moves.keeps (journal_lasting x.journal) (fun _ _ => trivial) List.prefix_rfl
  refine ⟨⟨topic, grown.subset made⟩, ?_, fun going => ?_, fun isOver => ?_⟩
  · exact h.said.trans (spoken_mono (grown.filterMap _))
  · exact moves.keeps (owns_survives s.id s.box heard.length)
      (fun other allowed same => foreign (same ▸ allowed)) (h.going going)
  · obtain ⟨dead, all⟩ := h.atEnd isOver
    have silent := moves.keeps (silent_lasting s.id (repliesTo s.id x.journal))
      (fun _ _ => trivial) ⟨⟨dead, (accounted.issued made).2⟩, rfl⟩
    exact ⟨silent.1.1, by rw [silent.2, all]⟩

private theorem finish (h : Follows s heard x) (same : y.journal = x.journal)
    (all : heard = spoken (repliesTo s.id x.journal)) :
    Follows { s with finished := true } heard (y.unsubscribe s.id) := by
  obtain ⟨topic, made⟩ := h.made
  have unsubscribed : Moves (fun _ => False) y (y.unsubscribe s.id) := .unsubscribe s.id
  have grown := unsubscribed.keeps (journal_lasting y.journal) (fun _ _ => trivial) List.prefix_rfl
  rw [same] at grown
  have replies : repliesTo s.id (y.unsubscribe s.id).journal = repliesTo s.id x.journal := by
    rw [repliesTo_unsubscribe, same]
  refine ⟨⟨topic, grown.subset made⟩, ?_, nofun, fun _ => ⟨unsubscribe_gone y s.id, ?_⟩⟩
  · rw [replies]
    exact h.said
  · rw [replies]
    exact all

/-- One poll of a stream: what it reports, and what has been read afterwards. -/
theorem next (h : Follows s heard x) (accounted : x.IsAccounted) :
    StreamVerdict s heard x (.ofNext (s.next x).2.2) ∧
      Follows (s.next x).2.1 (heard ++ (s.next x).2.2.told) (s.next x).1 := by
  have read := s.next_read x
  generalize s.next x = result at read ⊢
  cases read with
  | after isOver =>
    rw [Poll.told, List.append_nil]
    exact ⟨.ended (h.atEnd isOver).2 (.inl isOver), h⟩
  | found reply rest going content notEnd =>
    have all := h.replies going
    rw [content] at all
    have further : heard ++ [reply] <+: spoken (repliesTo s.id x.journal) := by
      have parts : heard ++ reply :: rest = heard ++ [reply] ++ rest := by simp
      rw [all, parts, spoken_append]
      · exact List.prefix_append _ _
      · intro r member
        rcases List.mem_append.mp member with old | new
        · exact h.notEnd r old
        · rwa [List.mem_singleton.mp new]
    refine ⟨.replied reply further, h.made, further, fun _ => ?_, fun isOver => ?_⟩
    · rw [Poll.told, List.length_append]
      exact (h.going going).unpost content
    · simp [going] at isOver
  | last reply rest going content ends =>
    have all := h.replies going
    rw [content] at all
    have heardAll : heard = spoken (repliesTo s.id x.journal) := by
      rw [all, spoken_append h.notEnd, spoken_of_end ends, List.append_nil]
    rw [Poll.told, List.append_nil]
    exact ⟨.ended heardAll (.inr (.inl ⟨reply, rest, all, ends⟩)), h.finish rfl heardAll⟩
  | lost going content hopeless =>
    obtain ⟨-, heardAll⟩ := h.caughtUp going content
    obtain ⟨topic, made⟩ := h.made
    rw [Poll.told, List.append_nil]
    refine ⟨.ended heardAll (.inr (.inr ?_)), h.finish rfl heardAll⟩
    rcases hopeless with dead | closed
    · exact .inr ((accounted.persistent made).mp dead)
    · exact .inl closed
  | wait going content live isOpen =>
    obtain ⟨all, heardAll⟩ := h.caughtUp going content
    obtain ⟨topic, made⟩ := h.made
    rw [Poll.told, List.append_nil]
    refine ⟨.pending heardAll ?_, h⟩
    rintro (isOver | ⟨last, rest, more, -⟩ | closed | removed)
    · simp [going] at isOver
    · simp [all] at more
    · simp [isOpen] at closed
    · have dead := (accounted.persistent made).mpr removed
      simp [live] at dead

/-- Reading on until nothing is left finds all the rest, and the end if there is one. -/
theorem drain (h : Follows s heard x) (accounted : x.IsAccounted) (n : Nat)
    (enough : (x.box s.box).length < n) :
    Follows (s.drain n x).2.1 (heard ++ (s.drain n x).2.2.1) (s.drain n x).1 ∧
      heard ++ (s.drain n x).2.2.1 = spoken (repliesTo s.id x.journal) ∧
      ((s.drain n x).2.2.2 = true ↔ IsOver s (spoken (repliesTo s.id x.journal)) x) ∧
      ((s.drain n x).2.2.2 = true → (s.drain n x).2.1.finished = true) := by
  induction n generalizing heard x with
  | zero => exact absurd enough (Nat.not_lt_zero _)
  | succ n ih =>
    obtain ⟨verdict, follows⟩ := h.next accounted
    have read := s.next_read x
    unfold ReplyStream.drain
    generalize s.next x = result at read verdict follows ⊢
    -- whatever ends the reading yields nothing more
    have ending {y : Exchange ν σ} {t : ReplyStream}
        (verdict : StreamVerdict s heard x .ended)
        (follows : Follows t (heard ++ []) y) (finished : t.finished = true) :
        Follows t (heard ++ []) y ∧ heard ++ [] = spoken (repliesTo s.id x.journal) ∧
          (true = true ↔ IsOver s (spoken (repliesTo s.id x.journal)) x) ∧
          (true = true → t.finished = true) := by
      cases verdict with
      | ended all isOver =>
        rw [all] at isOver
        exact ⟨follows, by rw [List.append_nil, ← all], iff_of_true rfl isOver, fun _ => finished⟩
    cases read with
    | after isOver => exact ending verdict follows isOver
    | last reply rest going content ends => exact ending verdict follows rfl
    | lost going content hopeless => exact ending verdict follows rfl
    | wait going content live isOpen =>
      cases verdict with
      | pending all notOver =>
        rw [all] at notOver
        exact ⟨follows, by rw [List.append_nil, ← all], iff_of_false Bool.false_ne_true notOver,
          fun ended => absurd ended Bool.false_ne_true⟩
    | found reply rest going content notEnd =>
      have fewer : ((x.unpost s.box).box s.box).length < n := by
        rw [content, List.length_cons] at enough
        rw [box_unpost_self, content, List.tail_cons]
        omega
      have later := ih (x := x.unpost s.box) follows accounted fewer
      simp only [Poll.told, List.append_assoc, List.singleton_append] at later
      exact later

end Follows

def Report.ofCollect : Poll (List Reply) → Report
  | .pending => .pending
  | .ready all => .replies all

theorem Follows.poll {c : Collecting} {heard : List Reply} {x : Exchange ν σ}
    (h : Follows c.stream (heard ++ c.replies) x) (accounted : x.IsAccounted) :
    CollectVerdict c.stream heard x (.ofCollect (c.poll x).2.2) ∧
      Follows (c.poll x).2.1.stream (heard ++ (c.poll x).2.1.replies) (c.poll x).1 ∧
      ∀ all, (c.poll x).2.2 = .ready all →
        (c.poll x).2.1.replies = all ∧ (c.poll x).2.1.stream.finished = true := by
  obtain ⟨follows, all, ended, finished⟩ :=
    h.drain accounted ((x.box c.stream.box).length + 1) (Nat.lt_succ_self _)
  unfold Collecting.poll
  generalize c.stream.drain ((x.box c.stream.box).length + 1) x = result
    at follows all ended finished ⊢
  obtain ⟨y, t, replies, isOver⟩ := result
  simp only at follows all ended finished ⊢
  rw [List.append_assoc] at follows all
  cases isOver with
  | true =>
    simp only [if_true]
    refine ⟨.replies _ all (all ▸ ended.mp rfl), follows, fun result same => ?_⟩
    cases same
    exact ⟨rfl, finished rfl⟩
  | false =>
    simp only [Bool.false_eq_true, if_false]
    exact ⟨.pending fun isOver => Bool.false_ne_true (ended.mpr isOver), follows, nofun⟩

namespace Desk

variable {desk d e : Desk ν σ} {past : List Stretch} {name : String} {x y : Exchange ν σ}
  {before after : Option Conversation} {stretch : Stretch} {heard : SubscriptionId → List Reply}

/-- So much has been told of each stream, and the reader of a conversation, if it has one, has heard
that and what it keeps in hand. -/
structure Attends (heard : SubscriptionId → List Reply) (c : Option Conversation)
    (x : Exchange ν σ) : Prop where
  told : ∀ id, heard id <+: spoken (repliesTo id x.journal)
  follows : ∀ s hand, c.bind Conversation.reading? = some (s, hand) →
    Follows s (heard s.id ++ hand) x

namespace Attends

omit [Outlet σ] in
theorem move {reads : Nat → Prop} (h : Attends heard before x) (accounted : x.IsAccounted)
    (moves : Moves reads x y)
    (foreign : ∀ box, before.bind Conversation.box? = some box → ¬reads box) :
    Attends heard before y := by
  have grown := moves.keeps (journal_lasting x.journal) (fun _ _ => trivial) List.prefix_rfl
  refine ⟨fun id => (h.told id).trans (spoken_mono (grown.filterMap _)), fun s hand reading => ?_⟩
  obtain ⟨c, held, reads⟩ := Option.bind_eq_some_iff.mp reading
  refine (h.follows s hand reading).move accounted moves (foreign s.box ?_)
  rw [held]
  exact (Conversation.reading?_eq_some reads).1

omit [Outlet σ] in
theorem heard_nextId (h : Attends heard before x) (accounted : x.IsAccounted) :
    heard x.registry.nextId = [] := by
  have told := h.told x.registry.nextId
  rw [accounted.repliesTo_nextId] at told
  exact List.prefix_nil.mp told

omit [Outlet σ] in
private theorem poll {s t : ReplyStream} {more hand : List Reply} (told : Attends heard none y)
    (follows : Follows t (heard s.id ++ (more ++ hand)) y) (sameId : t.id = s.id)
    (reading : ∀ s' hand', after.bind Conversation.reading? = some (s', hand') →
      s' = t ∧ hand' = hand) :
    Attends (fun id => heard id ++ if s.id = id then more else []) after y := by
  refine ⟨fun id => ?_, fun s' hand' found => ?_⟩
  · split
    · rename_i same
      subst same
      have said := follows.said
      rw [sameId, ← List.append_assoc] at said
      exact (List.prefix_append _ _).trans said
    · rw [List.append_nil]
      exact told.told id
  · obtain ⟨rfl, rfl⟩ := reading s' hand' found
    simp only [sameId, if_true, List.append_assoc]
    exact follows

end Attends

theorem openOn_follows (accounted : x.IsAccounted) (known : x.FillsKnown) (topic : String)
    (message : Json) :
    Follows (ReplyStream.openOn topic message x).2 [] (ReplyStream.openOn topic message x).1 := by
  have begun : Follows ⟨x.registry.nextId, x.nextBox, false⟩ [] (x.begun topic .persistent) :=
    ⟨⟨topic, List.mem_append_right _ List.mem_cons_self⟩, List.nil_prefix,
      fun _ => Owns.converse known accounted topic .persistent, nofun⟩
  have published : Moves (fun _ => False) (x.begun topic .persistent)
      (ReplyStream.openOn topic message x).1 := .publish _ _
  exact begun.move (isAccounted_lasting.converse topic .persistent accounted) published id

/-- One turn of a conversation: its reader goes on where it was. -/
private theorem Turn.attends (turn : Turn x before stretch y after) (accounted : x.IsAccounted)
    (known : x.FillsKnown) (h : Attends heard before x) :
    Attends (fun id => heard id ++ stretch.readOf id) after y := by
  have told : Attends heard none y := by
    have alone : Attends heard none x := ⟨h.told, nofun⟩
    exact alone.move accounted turn.moves nofun
  -- a turn that reads nothing
  have silent (follows : ∀ s hand, after.bind Conversation.reading? = some (s, hand) →
      Follows s (heard s.id ++ hand) y) : Attends (fun id => heard id ++ []) after y := by
    simp only [List.append_nil]
    exact ⟨told.told, follows⟩
  cases turn with
  | rest => exact silent h.follows
  | run _ program =>
    have moves : Moves (fun _ => False) x (x.execute program).1 := .execute program
    exact silent (h.move accounted moves nofun).follows
  | drop c => exact silent nofun
  | call _ topic message => exact silent nofun
  | openStream _ topic message =>
    refine silent fun s hand reading => ?_
    cases reading
    have opened : Moves (fun _ => False) x (ReplyStream.openOn topic message x).1 :=
      ReplyStream.openOn_moves topic message
    have released : Moves (fun _ => False) (ReplyStream.openOn topic message x).1
        (releaseAny before (ReplyStream.openOn topic message x).1) := releaseAny_moves before _
    have follows := (openOn_follows accounted known topic message).move
      (opened.keeps isAccounted_lasting (fun _ _ => trivial) accounted) released id
    have nothing : heard (ReplyStream.openOn topic message x).2.id = [] := h.heard_nextId accounted
    rwa [List.append_nil, nothing]
  | collect s =>
    refine silent fun t hand reading => ?_
    cases reading
    exact h.follows s [] rfl
  | pollCall call => exact silent nofun
  | wait s waits =>
    have follows := ((h.follows s [] rfl).next accounted).2
    have nothing : (s.next x).2.2.told = [] := by
      cases result : (s.next x).2.2 with
      | pending => rfl
      | ready found =>
        cases found with
        | none => rfl
        | some reply => exact absurd result (waits reply)
    rw [nothing, List.append_assoc] at follows
    refine silent fun t hand reading => ?_
    cases reading
    rw [s.next_id x]
    exact follows
  | next s reply read =>
    have follows := ((h.follows s [] rfl).next accounted).2
    rw [read, Poll.told, List.append_nil, ← List.append_nil [reply]] at follows
    refine told.poll follows (s.next_id x) fun t hand reading => ?_
    cases reading
    exact ⟨rfl, rfl⟩
  | gather c _ =>
    obtain ⟨-, follows, -⟩ := (h.follows c.stream c.replies rfl).poll accounted
    refine silent fun t hand reading => ?_
    cases reading
    rw [c.poll_id x]
    exact follows
  | collected c all gathered =>
    obtain ⟨-, follows, ready⟩ := (h.follows c.stream c.replies rfl).poll accounted
    obtain ⟨same, -⟩ := ready all gathered
    have polled : Moves (fun _ => True) x (c.poll x).1 := (c.poll_moves trivial).1
    have dropped : Moves (fun _ => False) (c.poll x).1
        ((c.poll x).2.1.stream.drop (c.poll x).1) := .unsubscribe _
    have follows := follows.move (polled.keeps isAccounted_lasting (fun _ _ => trivial) accounted)
      dropped id
    rw [same, ← List.append_nil all] at follows
    exact told.poll follows (c.poll_id x) nofun

theorem attends_perform (sound : d.Sound) (idsApart : d.IdsApart)
    (attends : ∀ name, Attends (fun id => readIn id past) (d.find? name) d.exchange)
    (errand : Errand ν) (name : String) :
    Attends (fun id => readIn id (past ++ [d.stretch errand]))
      ((d.perform errand).1.find? name) (d.perform errand).1.exchange := by
  obtain ⟨concerned, turn, others⟩ := d.perform_turn errand
  simp only [readIn_append, readIn_singleton]
  have after := turn.attends sound.accounted sound.known (attends concerned)
  by_cases isConcerned : name = concerned
  · rw [isConcerned]
    exact after
  · rw [others name isConcerned]
    have moved := (attends name).move sound.accounted turn.moves fun box own read => by
      obtain ⟨c, held, boxed⟩ := Option.bind_eq_some_iff.mp own
      obtain ⟨c', held', boxed'⟩ := Option.bind_eq_some_iff.mp read
      exact isConcerned (sound.apart held held' boxed boxed')
    refine ⟨after.told, fun s hand reading => ?_⟩
    have nothing : (d.stretch errand).readOf s.id = [] := by
      refine turn.readOf_other fun has => ?_
      obtain ⟨c, held, reads⟩ := Option.bind_eq_some_iff.mp reading
      obtain ⟨c', held', has⟩ := Option.bind_eq_some_iff.mp has
      exact isConcerned (idsApart.apart held held' (Conversation.reading?_eq_some reads).2 has)
    rw [nothing, List.append_nil]
    exact moved.follows s hand reading

omit [Outlet σ] in
theorem attends_ofFresh (fresh : desk.IsFresh) (name : String) :
    Attends (fun id => readIn id []) (desk.find? name) desk.exchange := by
  have unheld : desk.find? name = none := by simp [find?, fresh.held]
  rw [unheld]
  exact ⟨fun id => List.nil_prefix, fun _ _ reading => by cases reading⟩

/-- In the course of a run every reader of a stream has heard what was told to it and what it keeps
in hand. -/
theorem Course.attends (fresh : desk.IsFresh) (course : Course desk past d) (name : String) :
    Attends (fun id => readIn id past) (d.find? name) d.exchange := by
  induction course generalizing name with
  | start => exact attends_ofFresh fresh name
  | @outside past d outlet events outward course ih =>
    have sound := (Sound.ofFresh fresh).reaches course.reaches
    have moves : Moves (fun _ => False) d.exchange
        ({ d.exchange with outlet }.enter events) := .outside outlet outward
    exact (ih name).move sound.accounted moves fun _ _ => id
  | @perform past d errand course ih =>
    exact attends_perform ((Sound.ofFresh fresh).reaches course.reaches)
      ((IdsApart.ofFresh fresh).reaches course.reaches) ih errand name

/-- The reports of so many polls of the conversation under a name, one after the other. -/
def polls : Nat → String → Desk ν σ → List Report
  | 0, _, _ => []
  | n + 1, name, desk => (desk.poll name).2 :: polls n name (desk.poll name).1

theorem poll_stream {s : ReplyStream} (held : d.find? name = some (.stream s)) :
    (d.poll name).2 = .ofNext (s.next d.exchange).2.2 ∧
      (d.poll name).1.exchange = (s.next d.exchange).1 ∧
      (d.poll name).1.find? name = some (.stream (s.next d.exchange).2.1) := by
  simp only [poll, held, find?_hold, if_true, and_true]
  refine ⟨?_, rfl⟩
  cases (s.next d.exchange).2.2 with
  | pending => rfl
  | ready found => cases found <;> rfl

theorem poll_collecting {c : Collecting} (held : d.find? name = some (.collecting c)) :
    (d.poll name).2 = .ofCollect (c.poll d.exchange).2.2 ∧
      ((c.poll d.exchange).2.2 = .pending →
        (d.poll name).1.find? name = some (.collecting (c.poll d.exchange).2.1)) ∧
      ∀ all, (c.poll d.exchange).2.2 = .ready all →
        (d.poll name).1.exchange = (c.poll d.exchange).2.1.stream.drop (c.poll d.exchange).1 := by
  simp only [poll, held]
  rcases c.poll d.exchange with ⟨y, t, result⟩
  cases result with
  | pending => exact ⟨rfl, fun _ => by simp [find?_hold], fun _ same => by cases same⟩
  | ready all => exact ⟨rfl, fun same => (by cases same), fun _ _ => rfl⟩

/-- The stream of a subscription has come to its end for good: the subscription is not live any
more, and whoever still polls the stream is told of the end. -/
def IsDone (d : Desk ν σ) (id : SubscriptionId) : Prop :=
  ∀ later, Reaches d later → later.exchange.registry.contains id = false ∧
    ∀ name t, later.find? name = some (.stream t) → t.id = id → (later.poll name).2 = .ended

private theorem isDone_of_gone (fresh : desk.IsFresh) (course : Course desk past d)
    {id : SubscriptionId} (gone : d.exchange.registry.get? id = none)
    (issued : id.number ≤ d.exchange.registry.lastNumber)
    (all : readIn id past = spoken (repliesTo id d.exchange.journal)) : d.IsDone id := by
  intro later reached
  have dead := Registry.contains_eq_false.mpr (reached.gone issued gone)
  refine ⟨dead, fun name t held same => ?_⟩
  subst same
  obtain ⟨more, course⟩ := course.further reached
  have accounted := ((Sound.ofFresh fresh).reaches course.reaches).accounted
  have silent := reached.moves.keeps (silent_lasting t.id (repliesTo t.id d.exchange.journal))
    (fun _ _ => trivial) ⟨⟨gone, issued⟩, rfl⟩
  have attends := course.attends fresh name
  rw [held] at attends
  have follows := attends.follows t [] rfl
  rw [List.append_nil] at follows
  have caughtUp : readIn t.id (past ++ more) = spoken (repliesTo t.id later.exchange.journal) := by
    have said := follows.said
    rw [silent.2, ← all, readIn_append] at said ⊢
    exact said.eq_of_length_le (by simp)
  obtain ⟨topic, made⟩ := follows.made
  have isOver : IsOver t (readIn t.id (past ++ more)) later.exchange :=
    .inr (.inr (.inr ((accounted.persistent made).mp dead)))
  have verdict := (follows.next accounted).1
  rw [← (poll_stream held).1] at verdict
  generalize (later.poll name).2 = report at verdict
  cases verdict with
  | replied reply further =>
    rw [caughtUp] at further
    exact absurd further.length_le (by simp)
  | ended _ _ => rfl
  | pending _ notOver => exact absurd isOver notOver

/-- In every run of a desk, begun with nothing subscribed and nothing held: what was read from a
stream is a beginning of what was said to it before the end; every poll of a stream or of a
collection reports what the verdict says and keeps the conversation as long as it goes on; and once
a reader was told of the end, the stream is done for good. -/
theorem stream_outcome (fresh : desk.IsFresh) (course : Course desk past d) :
    (∀ id, readIn id past <+: spoken (repliesTo id d.exchange.journal)) ∧
    (∀ name s, d.find? name = some (.stream s) →
      StreamVerdict s (readIn s.id past) d.exchange (d.poll name).2 ∧
      (∃ t, (d.poll name).1.find? name = some (.stream t) ∧ t.id = s.id) ∧
      ((d.poll name).2 = .ended → (d.poll name).1.IsDone s.id)) ∧
    (∀ name c, d.find? name = some (.collecting c) →
      readIn c.stream.id past ++ c.replies <+: spoken (repliesTo c.stream.id d.exchange.journal) ∧
      CollectVerdict c.stream (readIn c.stream.id past) d.exchange (d.poll name).2 ∧
      ((d.poll name).2 = .pending → ∃ t,
        (d.poll name).1.find? name = some (.collecting t) ∧ t.stream.id = c.stream.id) ∧
      ((d.poll name).2 ≠ .pending → (d.poll name).1.IsDone c.stream.id)) := by
  have accounted := ((Sound.ofFresh fresh).reaches course.reaches).accounted
  have issued {s : ReplyStream} {heard : List Reply} (name : String)
      (follows : Follows s heard d.exchange) :
      s.id.number ≤ (d.poll name).1.exchange.registry.lastNumber := by
    obtain ⟨topic, made⟩ := follows.made
    exact Nat.le_trans (accounted.issued made).2 (d.poll_moves name).continues.1
  refine ⟨(course.attends fresh "").told, fun name s held => ?_, fun name c held => ?_⟩
  · have attends := course.attends fresh name
    rw [held] at attends
    have follows := attends.follows s [] rfl
    rw [List.append_nil] at follows
    obtain ⟨verdict, -⟩ := follows.next accounted
    obtain ⟨report, -, held'⟩ := poll_stream held
    rw [← report] at verdict
    refine ⟨verdict, ⟨_, held', s.next_id d.exchange⟩, fun ended => ?_⟩
    have result : (s.next d.exchange).2.2 = .ready none := by
      rw [report] at ended
      cases found : (s.next d.exchange).2.2 with
      | pending => simp [found, Report.ofNext] at ended
      | ready first => cases first <;> simp_all [Report.ofNext]
    have polled := course.perform (.poll name)
    have after := polled.attends fresh name
    rw [perform, held'] at after
    obtain ⟨gone, all⟩ :=
      (after.follows (s.next d.exchange).2.1 [] rfl).atEnd (ReplyStream.next_finished result)
    rw [s.next_id d.exchange] at gone all
    rw [List.append_nil] at all
    exact isDone_of_gone fresh polled gone (issued name follows) all
  · have attends := course.attends fresh name
    rw [held] at attends
    have follows := attends.follows c.stream c.replies rfl
    obtain ⟨verdict, next, ready⟩ := follows.poll accounted
    obtain ⟨report, held', exchange⟩ := poll_collecting held
    rw [← report] at verdict
    refine ⟨follows.said, verdict, fun waits => ⟨_, held' ?_, c.poll_id d.exchange⟩,
      fun resolved => ?_⟩
    · cases result : (c.poll d.exchange).2.2 with
      | pending => rfl
      | ready all =>
        rw [report, result] at waits
        cases waits
    cases result : (c.poll d.exchange).2.2 with
    | pending => exact absurd (by rw [report, result]; rfl) resolved
    | ready all =>
      obtain ⟨same, finished⟩ := ready all result
      have read : (d.stretch (.poll name)).readOf c.stream.id = all := by
        simp [stretch, readBy, held, report, result, Report.ofCollect, Stretch.readOf]
      have moves : Moves (fun _ => True) d.exchange (c.poll d.exchange).1 :=
        (c.poll_moves trivial).1
      have dropped : Moves (fun _ => False) (c.poll d.exchange).1 (d.poll name).1.exchange := by
        rw [exchange all result]
        exact .unsubscribe _
      obtain ⟨gone, told⟩ := (next.move (moves.keeps isAccounted_lasting (fun _ _ => trivial)
        accounted) dropped id).atEnd finished
      rw [c.poll_id d.exchange] at gone told
      refine isDone_of_gone fresh (course.perform (.poll name)) gone (issued name follows) ?_
      rw [readIn_append, readIn_singleton, read, ← same]
      exact told

/-- A stream whose message comes back at once yields it, although the outlet has closed meanwhile,
and then ends. -/
theorem stream_outcome_echoed :
    let desk : Desk Unit Recorder :=
      { exchange := { policy := .strict, outlet := { echoes := true }, nesting := 2 } }
    let opened := (desk.perform (.openStream "stream" "news" .null)).1
    let closed := (opened.perform (.run (.close (.done .nothing)))).1
    let read := (closed.perform (.poll "stream")).1
    (closed.poll "stream").2 = .reply ⟨payloadCode, .null⟩ ∧ (read.poll "stream").2 = .ended ∧
    (read.poll "stream").1.IsDone ⟨1⟩ := by
  intro desk opened closed read
  have fresh : desk.IsFresh := ⟨⟨rfl, by simp [desk]⟩, rfl⟩
  have opens : Course desk [_] opened := .perform (.openStream "stream" "news" .null) .start
  have closes : Course desk [_, _] closed := .perform (.run _) opens
  have course : Course desk [_, _, _] read := .perform (.poll "stream") closes
  have replied : (closed.poll "stream").2 = .reply ⟨payloadCode, .null⟩ := rfl
  have held : read.find? "stream" = some (.stream ⟨⟨1⟩, 0, false⟩) := rfl
  have ended : (read.poll "stream").2 = .ended := rfl
  have outcome := (stream_outcome fresh course).2.1 "stream" ⟨⟨1⟩, 0, false⟩ held
  exact ⟨replied, ended, outcome.2.2 ended⟩

end Desk

end Switchboard
