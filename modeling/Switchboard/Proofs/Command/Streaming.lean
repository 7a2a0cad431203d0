import Switchboard.Command.Run
import Switchboard.Proofs.Bus.Scene
import Switchboard.Proofs.Conversation.Hearing
/-!
The command that prints a stream. It prints what arrives on its topic, reply by reply and in order,
until the other side ends the command, the line closes, or one reply is too long in coming; it fails
when it was kept waiting or an error was among what it printed.
-/

set_option autoImplicit false
set_option relaxedAutoImplicit false

namespace Switchboard

variable {ν : Type}

open Exchange Bus

def Sign.reply? : Sign → Option Reply
  | .reply r => some r
  | _ => none

inductive Stop
  | ended
  | late
  deriving DecidableEq, Repr

/-- What a listener has made of the signs on its topic. -/
structure Listening where
  /-- What it has heard before it stopped. -/
  heard : List Reply := []
  /-- When its wait for the next reply is over. -/
  deadline : Nat := 0
  /-- Whether another wait begins with its next look. -/
  anew : Bool := true
  stop : Option Stop := none
  deriving DecidableEq

namespace Listening

/-- When the wait for the next reply is over, as it is found at a look. Every reply grants the next
one a full wait, from the look on at which it is found. -/
def due (wait now : Nat) (l : Listening) : Nat := if l.anew then now + wait else l.deadline

def hear (wait : Nat) (l : Listening) : Sign → Listening
  | .reply reply =>
    if reply.isEnd then { l with stop := some .ended }
    else { l with heard := l.heard ++ [reply], anew := true }
  | .closing => { l with stop := some .ended }
  | .look now =>
    { l with
      deadline := l.due wait now
      anew := false
      stop := if l.due wait now ≤ now then some .late else none }

def notice (wait : Nat) (l : Listening) (sign : Sign) : Listening :=
  if l.stop.isSome then l else l.hear wait sign

def after (wait : Nat) (signs : List Sign) : Listening := signs.foldl (notice wait) {}

/-- Whether a sign stops a listener that goes on: the end of the command, a line that closes, or a
look at which the wait for one reply is over. -/
def IsStoppedBy (wait : Nat) (l : Listening) : Sign → Prop
  | .reply reply => reply.isEnd = true
  | .closing => True
  | .look now => l.due wait now ≤ now

/-- What the command comes to that prints what a listener hears. -/
def outcome (topic : String) (wait : Nat) (l : Listening) : Option (Except CommandFailure Unit) :=
  l.stop.map fun
    | .ended => Command.outcome topic (l.heard.any Reply.isError)
    | .late => .error (.noReply topic (Command.wholeSeconds wait))

theorem outcome_error_iff {topic : String} {wait : Nat} {l : Listening}
    {result : Except CommandFailure Unit} (found : l.outcome topic wait = some result) :
    (∃ failure, result = .error failure) ↔
      l.stop = some .late ∨ ∃ reply ∈ l.heard, reply.code = errorCode := by
  obtain ⟨stop, stopped, isResult⟩ := Option.map_eq_some_iff.mp found
  subst isResult
  rw [stopped]
  cases stop with
  | late => simp
  | ended =>
    have told : l.heard.any Reply.isError = true ↔ ∃ reply ∈ l.heard, reply.code = errorCode := by
      simp [Reply.isError]
    change (∃ failure, Command.outcome topic (l.heard.any Reply.isError) = .error failure) ↔ _
    rw [← told]
    cases l.heard.any Reply.isError <;> simp [Command.outcome]

/-- Whether a listener is told of the end by such replies, or by a line that has closed. -/
def stopOf (replies : List Reply) (closed : Bool) : Option Stop :=
  if closed || replies.any Reply.isEnd then some .ended else none

/-- A listener has heard all that was said in such replies; so much of it was read when its wait
began, which is over at the deadline. -/
structure Hears (l : Listening) (read replies : List Reply) (closed : Bool) (deadline : Nat) :
    Prop where
  heard : l.heard = spoken replies
  stop : l.stop = stopOf replies closed
  waits : l.stop = none → l.deadline = deadline ∧ (l.anew = true ↔ read ≠ l.heard)

section Signs

variable {wait deadline : Nat} {l : Listening} {read replies : List Reply} {closed : Bool}

theorem notice_stopped {stop : Stop} (stopped : l.stop = some stop) (sign : Sign) :
    l.notice wait sign = l :=
  if_pos (Option.isSome_of_eq_some stopped)

theorem notice_going (going : l.stop = none) (sign : Sign) :
    l.notice wait sign = l.hear wait sign := by
  rw [notice, going]
  rfl

theorem foldl_stopped {stop : Stop} (stopped : l.stop = some stop) (signs : List Sign) :
    signs.foldl (notice wait) l = l := by
  induction signs with
  | nil => rfl
  | cons sign rest ih => rw [List.foldl_cons, notice_stopped stopped, ih]

theorem hear_cases (l : Listening) (wait : Nat) (sign : Sign) :
    l.IsStoppedBy wait sign ∧ (l.hear wait sign).stop ≠ none ∧ (l.hear wait sign).heard = l.heard ∨
      (l.stop = none → (l.hear wait sign).stop = none) ∧
        (l.hear wait sign).heard = l.heard ++ sign.reply?.toList := by
  cases sign with
  | reply reply =>
    cases ends : reply.isEnd with
    | true => exact .inl ⟨ends, by simp [hear, ends]⟩
    | false => exact .inr (by simp [hear, ends, Sign.reply?])
  | closing => exact .inl ⟨trivial, by simp [hear]⟩
  | look now =>
    by_cases late : l.due wait now ≤ now
    · exact .inl ⟨late, by simp [hear, late]⟩
    · exact .inr (by simp [hear, late, Sign.reply?])

theorem after_append_single (wait : Nat) (past : List Sign) (sign : Sign) :
    after wait (past ++ [sign]) = (after wait past).notice wait sign := by
  rw [after, List.foldl_append]
  rfl

/-- A listener hears the replies before the first sign that stops it, and no others. -/
theorem after_split (wait : Nat) (signs : List Sign) : ∃ before rest, signs = before ++ rest ∧
    (after wait before).stop = none ∧
    (after wait signs).heard = before.filterMap Sign.reply? ∧
    (∀ sign ∈ rest.head?, (after wait before).IsStoppedBy wait sign) ∧
    ((after wait signs).stop = none ↔ rest = []) := by
  -- the listener takes the signs from the front, so a run of signs grows at its end
  induction signs using List.reverseRecOn with
  | nil => exact ⟨[], [], rfl, rfl, rfl, nofun, iff_of_true rfl rfl⟩
  | append_singleton past sign ih =>
    obtain ⟨before, rest, parts, goes, heard, stopped, whole⟩ := ih
    rw [after_append_single]
    cases rest with
    | cons first later =>
      have isStopped : (after wait past).stop ≠ none := fun going => nomatch whole.mp going
      obtain ⟨stop, isStop⟩ := Option.ne_none_iff_exists'.mp isStopped
      rw [notice_stopped isStop]
      refine ⟨before, first :: later ++ [sign], ?_, goes, heard, stopped, ?_⟩
      · rw [parts, List.append_assoc]
      · exact iff_of_false isStopped nofun
    | nil =>
      have all : past = before := by rw [parts, List.append_nil]
      subst all
      rw [notice_going goes]
      rcases (after wait past).hear_cases wait sign with ⟨stops, isStopped, same⟩ | ⟨on, more⟩
      · refine ⟨past, [sign], rfl, goes, same.trans heard, ?_, iff_of_false isStopped nofun⟩
        simpa using stops
      · refine ⟨past ++ [sign], [], (List.append_nil _).symm, ?_, ?_, nofun,
          iff_of_true (on goes) rfl⟩
        · rw [after_append_single, notice_going goes]
          exact on goes
        · rw [more, heard, List.filterMap_append]
          cases sign <;> rfl

theorem stopOf_eq_none :
    stopOf replies closed = none ↔ closed = false ∧ ∀ reply ∈ replies, reply.isEnd = false := by
  simp [stopOf]

theorem Hears.stop_cases (h : Hears l read replies closed deadline) :
    l.stop = none ∨ l.stop = some .ended := by
  rw [h.stop]
  unfold stopOf
  split
  · exact .inr rfl
  · exact .inl rfl

theorem Hears.going (h : Hears l read replies closed deadline) (going : l.stop = none) :
    closed = false ∧ (∀ reply ∈ replies, reply.isEnd = false) ∧ l.heard = replies := by
  obtain ⟨isOpen, unended⟩ := stopOf_eq_none.mp (h.stop.symm.trans going)
  exact ⟨isOpen, unended, h.heard.trans (spoken_going unended)⟩

theorem Hears.reply (h : Hears l read replies false deadline) (said : read <+: spoken replies)
    (reply : Reply) :
    Hears (l.notice wait (.reply reply)) read (replies ++ [reply]) false deadline := by
  cases stopped : l.stop with
  | some stop =>
    have ended : ∃ reply ∈ replies, reply.isEnd = true := by
      by_contra unended
      have none : stopOf replies false = none :=
        stopOf_eq_none.mpr ⟨rfl, by simpa using unended⟩
      rw [h.stop, none] at stopped
      cases stopped
    rw [notice_stopped stopped]
    refine ⟨h.heard.trans (spoken_append_ended ended).symm, h.stop.trans ?_, ?_⟩
    · obtain ⟨last, member, ends⟩ := ended
      have before : replies.any Reply.isEnd = true := List.any_eq_true.mpr ⟨last, member, ends⟩
      simp [stopOf, before]
    · rw [stopped]
      nofun
  | none =>
    obtain ⟨-, unended, all⟩ := h.going stopped
    rw [notice_going stopped, hear]
    cases ends : reply.isEnd with
    | true =>
      refine ⟨?_, ?_, nofun⟩
      · rw [spoken_append unended, spoken_of_end ends, List.append_nil]
        exact all
      · simp [stopOf, ends]
    | false =>
      have unended' : ∀ r ∈ replies ++ [reply], r.isEnd = false := by
        simpa [or_imp, forall_and, ends] using unended
      have shorter : read ≠ l.heard ++ [reply] := by
        rintro rfl
        rw [spoken_going unended, ← all] at said
        exact absurd said.length_le (by simp)
      refine ⟨?_, ?_, fun _ => ⟨(h.waits stopped).1, iff_of_true rfl shorter⟩⟩
      · rw [spoken_going unended', ← all]
        rfl
      · exact stopped.trans (stopOf_eq_none.mpr ⟨rfl, unended'⟩).symm

theorem Hears.more (h : Hears l read replies false deadline) (said : read <+: spoken replies)
    (news : List Reply) :
    Hears ((news.map Sign.reply).foldl (notice wait) l) read (replies ++ news) false deadline := by
  induction news generalizing l replies with
  | nil =>
    rw [List.append_nil]
    exact h
  | cons reply rest ih =>
    have first : Hears (l.notice wait (.reply reply)) read (replies ++ [reply]) false deadline :=
      h.reply said reply
    have next := ih first (said.trans (spoken_mono (List.prefix_append _ _)))
    rwa [List.append_assoc] at next

theorem Hears.closing (h : Hears l read replies closed deadline) :
    Hears (l.notice wait .closing) read replies true deadline := by
  rcases h.stop_cases with going | stopped
  · rw [notice_going going, hear]
    exact ⟨h.heard, rfl, nofun⟩
  · rw [notice_stopped stopped]
    exact ⟨h.heard, stopped, fun going => by simp [going] at stopped⟩

theorem heard_look (l : Listening) (wait now : Nat) :
    (l.notice wait (.look now)).heard = l.heard := by
  cases stopped : l.stop with
  | some stop => rw [notice_stopped stopped]
  | none => rw [notice_going stopped, hear]

theorem Hears.due_eq (h : Hears l read replies closed deadline) (going : l.stop = none)
    {rest : List Reply} (all : read ++ rest = l.heard) (now : Nat) :
    l.due wait now = if rest = [] then deadline else now + wait := by
  obtain ⟨isDeadline, anew⟩ := h.waits going
  have nothing : rest = [] ↔ l.anew = false := by
    rw [← Bool.not_eq_true, anew, ← all]
    simp
  rw [due, isDeadline]
  cases fresh : l.anew <;> simp [nothing, fresh]

theorem Hears.looked (h : Hears l read replies closed deadline) {now : Nat}
    (going : l.stop = none) (early : ¬l.due wait now ≤ now) :
    Hears (l.notice wait (.look now)) l.heard replies closed (l.due wait now) := by
  rw [notice_going going, hear, if_neg early]
  refine ⟨h.heard, going.symm.trans h.stop, fun _ => ⟨rfl, ?_⟩⟩
  exact iff_of_false nofun fun differs => differs rfl

end Signs

end Listening

namespace ReplyStream

variable {s : ReplyStream} {b : Bus ν}

theorem next_visit (s : ReplyStream) (b : Bus ν) :
    Visit (fun _ => True) [] [s.id] b (s.next b).1 := by
  have unposted : Visit (fun _ => True) [] [] b (b.unpost s.box) :=
    .unnoticed (telling.aside rfl rfl rfl rfl rfl) (.read trivial) rfl
  have read := s.next_read b
  generalize s.next b = result at read ⊢
  cases read with
  | after => exact (Visit.refl b).mono (List.nil_subset _)
  | found => exact unposted.mono (List.nil_subset _)
  | last => exact unposted.trans (.unsubscribe _ s.id)
  | lost => exact .unsubscribe b s.id
  | wait => exact (Visit.refl b).mono (List.nil_subset _)

theorem drain_visit (n : Nat) (s : ReplyStream) (b : Bus ν) :
    Visit (fun _ => True) [] [s.id] b (s.drain n b).1 := by
  induction n generalizing s b with
  | zero => exact (Visit.refl b).mono (List.nil_subset _)
  | succ n ih =>
    have first := s.next_visit b
    have same := s.next_id b
    unfold drain
    rcases polled : s.next b with ⟨c, t, _ | _ | reply⟩
    · rw [polled] at first
      exact first
    · rw [polled] at first
      exact first
    · rw [polled] at first same
      have later := ih t c
      rw [show t.id = s.id from same] at later
      exact (first.trans later).mono (by simp)

theorem drain_going (n : Nat) (s : ReplyStream) (b : Bus ν) (going : (s.drain n b).2.2.2 = false) :
    (s.drain n b).2.1 = s ∧ (s.drain n b).1.journal = b.journal := by
  induction n generalizing b with
  | zero => exact ⟨rfl, rfl⟩
  | succ n ih =>
    have read := s.next_read b
    unfold drain at going ⊢
    generalize s.next b = result at read going ⊢
    cases read with
    | after => cases going
    | found reply rest => exact ih (b.unpost s.box) going
    | last => cases going
    | lost => cases going
    | wait => exact ⟨rfl, rfl⟩

end ReplyStream

namespace Bus

theorem output_conversing : Conversing fun b c : Bus ν => c.output = b.output where
  refl _ := rfl
  trans first later := later.trans first
  converse _ _ _ _ := rfl
  read _ _ := rfl
  unsubscribe b id := by
    unfold unsubscribe disownFree
    split
    · split <;> rfl
    · rfl

theorem foldl_print (replies : List Reply) (b : Bus ν) :
    replies.foldl (fun b reply => b.print (reply.line ++ "\n")) b =
      { b with output := b.output ++ replies.map fun reply => reply.line ++ "\n" } := by
  induction replies generalizing b with
  | nil => rw [List.map_nil, List.append_nil]; rfl
  | cons reply rest ih =>
    rw [List.foldl_cons, ih]
    simp [print]

end Bus

def Poll.value? {α : Type} : Poll α → Option α
  | .pending => none
  | .ready value => some value

/-- A command on its way: how far it has come, what it has printed, and its result. -/
structure Performance where
  progress : Progress
  printed : List String := []
  result : Option (Except CommandFailure Unit) := none

namespace Performance

def poll (command : Command) (wait now : Nat) (p : Performance) (b : Bus ν) :
    Bus ν × Performance :=
  let (c, progress, result) := command.poll wait now p.progress b
  (c, ⟨progress, p.printed ++ c.output.drop b.output.length, result.value?.or p.result⟩)

def stream? (p : Performance) : Option ReplyStream :=
  match p.progress with
  | .streaming _ s _ _ => some s
  | _ => none

section Turns

variable {policy : Policy} {topic message : String} {wait now deadline : Nat} {s : ReplyStream}
  {l : Listening} {b : Bus ν} {read : List Reply}

/-- A bus on which a stream was read until nothing was there, and printed. -/
def shown (s : ReplyStream) (b : Bus ν) : Bus ν :=
  let drained := s.drain ((b.box s.box).length + 1) b
  { drained.1 with output := b.output ++ drained.2.2.1.map fun reply => reply.line ++ "\n" }

theorem printing_moves {reads : Nat → Prop} (b : Bus ν) (output : List String) :
    Moves reads b { b with output } :=
  fun _ h => h.aside rfl rfl rfl

theorem shown_visit (s : ReplyStream) (b : Bus ν) :
    Visit (fun _ => True) [] [s.id] b (shown s b) := by
  have drained := s.drain_visit ((b.box s.box).length + 1) b
  have printed : Visit (fun _ => True) [] [] (s.drain ((b.box s.box).length + 1) b).1 (shown s b) :=
    .unnoticed (telling.aside rfl rfl rfl rfl rfl) (printing_moves _ _) rfl
  exact drained.trans printed

theorem isOver_iff {s : ReplyStream} (unfinished : s.finished = false)
    (unremoved : .unsubscribed s.id ∉ b.journal) :
    IsOver s (spoken (repliesTo s.id b.journal)) b ↔
      Listening.stopOf (repliesTo s.id b.journal) b.isClosed = some .ended := by
  have told : Listening.stopOf (repliesTo s.id b.journal) b.isClosed = some .ended ↔
      b.isClosed = true ∨ ∃ reply ∈ repliesTo s.id b.journal, reply.isEnd = true := by
    unfold Listening.stopOf
    split
    · rename_i ends
      exact iff_of_true rfl (by simpa using ends)
    · rename_i goesOn
      exact iff_of_false nofun (by simpa using goesOn)
  rw [told]
  constructor
  · rintro (finished | ⟨last, rest, whole, ends⟩ | closed | removed)
    · rw [unfinished] at finished
      cases finished
    · refine .inr ⟨last, ?_, ends⟩
      rw [whole]
      exact List.mem_append_right _ List.mem_cons_self
    · exact .inl closed
    · exact absurd removed unremoved
  · rintro (closed | ended)
    · exact .inr (.inr (.inl closed))
    · exact .inr (.inl (exists_first_end ended))

variable (topic wait now s l b) in
/-- What a poll of the command does when its listener has heard so much and takes notice of the
look: it ends with the listener, or it goes on waiting. -/
inductive Goes : Command.Turn ν → Prop
  | ended (result : Except CommandFailure Unit) :
    (l.notice wait (.look now)).outcome topic wait = some result →
    Goes (Command.finishWith result ((shown s b).unsubscribe s.id))
  | on : (l.notice wait (.look now)).stop = none →
    Listening.Hears (l.notice wait (.look now)) l.heard (repliesTo s.id b.journal) b.isClosed
      (l.due wait now) →
    Follows s l.heard (shown s b) → (shown s b).journal = b.journal →
    Goes (shown s b, .streaming topic s (l.due wait now) (l.heard.any Reply.isError), .pending)

theorem follows_shown (working : b.IsWorking policy)
    (follows : Follows s read (s.drain ((b.box s.box).length + 1) b).1) :
    Follows s read (shown s b) := by
  have accounted : (s.drain ((b.box s.box).length + 1) b).1.IsAccounted :=
    ((s.drain_visit _ b).isWorking working).accounted
  have printing : Moves (fun _ => False) (s.drain ((b.box s.box).length + 1) b).1 (shown s b) :=
    printing_moves _ _
  exact follows.move accounted printing id

variable (topic wait now) in
theorem pollStreaming_goes (working : b.IsWorking policy) (unfinished : s.finished = false)
    (follows : Follows s read b) (unremoved : .unsubscribed s.id ∉ b.journal)
    (hears : l.Hears read (repliesTo s.id b.journal) b.isClosed deadline) :
    Goes topic wait now s l b
        (Command.pollStreaming topic wait now s deadline (read.any Reply.isError) b) ∧
      ∃ rest, read ++ rest = l.heard ∧
        (shown s b).output = b.output ++ rest.map fun reply => reply.line ++ "\n" := by
  have enough : (b.box s.box).length < (b.box s.box).length + 1 := Nat.lt_succ_self _
  obtain ⟨follows', all, isOver, -⟩ := follows.drain working.accounted _ enough
  have still := s.drain_going ((b.box s.box).length + 1) b
  have unprinted := output_conversing.drain b ((b.box s.box).length + 1) s
  have own : Moves (fun _ => True) b (s.drain ((b.box s.box).length + 1) b).1 ∧ _ ∧
      (s.drain ((b.box s.box).length + 1) b).2.1.id = s.id := s.drain_moves _ trivial
  rw [isOver_iff unfinished unremoved, ← hears.stop] at isOver
  rw [← hears.heard] at all
  refine ⟨?_, _, all, rfl⟩
  have failed : (read.any Reply.isError ||
      (s.drain ((b.box s.box).length + 1) b).2.2.1.any Reply.isError) =
        l.heard.any Reply.isError := by
    rw [← all, List.any_append]
  have printed : (s.drain ((b.box s.box).length + 1) b).2.2.1.foldl
      (fun b reply => b.print (reply.line ++ "\n")) (s.drain ((b.box s.box).length + 1) b).1 =
        shown s b := by
    rw [foldl_print, unprinted]
    rfl
  simp only [Command.pollStreaming, failed, printed, ReplyStream.drop, own.2.2]
  generalize (s.drain ((b.box s.box).length + 1) b).2.2.1 = rest at all follows' ⊢
  cases ended : (s.drain ((b.box s.box).length + 1) b).2.2.2 with
  | true =>
    have stopped : l.stop = some .ended := isOver.mp ended
    rw [if_pos rfl]
    refine .ended _ ?_
    rw [Listening.notice_stopped stopped, Listening.outcome, stopped]
    rfl
  | false =>
    have going : l.stop = none := by
      refine hears.stop_cases.resolve_right fun stopped => ?_
      rw [isOver.mpr stopped] at ended
      cases ended
    obtain ⟨same, journal⟩ := still ended
    rw [if_neg Bool.false_ne_true, ← hears.due_eq going all now, same]
    by_cases late : l.due wait now ≤ now
    · rw [if_pos late]
      refine .ended _ ?_
      rw [Listening.notice_going going, Listening.outcome, Listening.hear, if_pos late]
      rfl
    · rw [if_neg late]
      rw [same, all] at follows'
      refine .on ?_ (hears.looked going late) (follows_shown working follows') journal
      rw [Listening.notice_going going, Listening.hear, if_neg late]

end Turns

/-- How it stands with a command that streams a topic by a subscription, after what its listener has
made of the signs: it has printed what was read and goes on, or it is over and so is its
subscription. -/
inductive Streams (topic : String) (wait : Nat) (id : SubscriptionId) (l : Listening)
    (b : Bus ν) : Performance → Prop
  | going (s : ReplyStream) (deadline : Nat) (read : List Reply) : s.id = id →
    s.finished = false → Follows s read b → .subscribed id topic .persistent ∈ b.journal →
    .unsubscribed id ∉ b.journal → l.Hears read (repliesTo id b.journal) b.isClosed deadline →
    Streams topic wait id l b ⟨.streaming topic s deadline (read.any Reply.isError),
      read.map fun reply => reply.line ++ "\n", none⟩
  | done : l.stop.isSome → b.registry.get? id = none → id.number ≤ b.registry.lastNumber →
    Streams topic wait id l b ⟨.finished, l.heard.map fun reply => reply.line ++ "\n",
      l.outcome topic wait⟩

theorem Streams.gone {topic : String} {wait : Nat} {id : SubscriptionId} {l : Listening}
    {b : Bus ν} {p : Performance} (streams : Streams topic wait id l b p)
    (found : p.result.isSome) : b.registry.contains id = false := by
  cases streams with
  | going => cases found
  | done stopped gone => exact Registry.contains_eq_false.mpr gone

section Polls

variable {policy : Policy} {topic : String} {wait : Nat} {id : SubscriptionId}
  {l : Listening} {b : Bus ν} {p : Performance}

theorem Streams.poll (working : b.IsWorking policy) (streams : Streams topic wait id l b p)
    (message : String) (now : Nat) :
    let polled := p.poll (.stream topic message) wait now b
    let l' := l.notice wait (.look now)
    Visit (fun _ => True) [] [id] b polled.1 ∧ Streams topic wait id l' polled.1 polled.2 ∧
      polled.2.printed = (l'.heard.map fun reply => reply.line ++ "\n") ∧
      polled.2.result = l'.outcome topic wait := by
  intro polled l'
  cases streams with
  | done stopped gone issued =>
    obtain ⟨stop, isStop⟩ := Option.isSome_iff_exists.mp stopped
    have idle : polled = (b, ⟨.finished, l.heard.map fun reply => reply.line ++ "\n",
        l.outcome topic wait⟩) := by
      simp [polled, Performance.poll, Command.poll, Poll.value?]
    have same : l' = l := Listening.notice_stopped isStop _
    rw [idle, same]
    exact ⟨(Visit.refl b).mono (List.nil_subset _), .done stopped gone issued, rfl, rfl⟩
  | going s deadline read same unfinished follows entered unremoved hears =>
    subst same
    have visit := shown_visit s b
    obtain ⟨goes, rest, all, output⟩ :=
      pollStreaming_goes topic wait now working unfinished follows unremoved hears
    have heard : l'.heard = l.heard := l.heard_look wait now
    have polls {d : Bus ν} {progress : Progress} {outcome : Poll (Except CommandFailure Unit)}
        (turned : Command.pollStreaming topic wait now s deadline (read.any Reply.isError) b =
          (d, progress, outcome)) (same : d.output = (shown s b).output) : polled =
        (d, ⟨progress, l'.heard.map fun reply => reply.line ++ "\n", outcome.value?⟩) := by
      simp only [polled, Performance.poll, Command.poll, turned, same, output, List.drop_left,
        ← List.map_append, all, heard, Option.or_none]
    generalize turned : Command.pollStreaming topic wait now s deadline (read.any Reply.isError) b =
      turn at goes polls
    cases goes with
    | ended result isResult =>
      -- the subscription goes when the listener stops
      have leaves : Visit (fun _ => True) [] [s.id] b ((shown s b).unsubscribe s.id) :=
        (visit.trans (.unsubscribe _ s.id)).mono (by simp)
      have issued : s.id.number ≤ ((shown s b).unsubscribe s.id).registry.lastNumber :=
        Nat.le_trans (working.accounted.issued entered).2 leaves.moves.continues.1
      have stopped : l'.stop.isSome :=
        Option.isSome_map.symm.trans (Option.isSome_of_eq_some isResult)
      have done : Streams topic wait s.id l' ((shown s b).unsubscribe s.id) _ :=
        .done stopped (unsubscribe_gone (shown s b) s.id) issued
      rw [polls rfl (output_conversing.unsubscribe _ _)]
      rw [show l'.outcome topic wait = some result from isResult] at done ⊢
      exact ⟨leaves, done, rfl, rfl⟩
    | on going hears' follows' journal =>
      have result : l'.outcome topic wait = none := Option.map_eq_none_iff.mpr going
      rw [polls rfl rfl, heard, result]
      rw [← visit.isClosed_eq, ← journal] at hears'
      exact ⟨visit, .going s _ _ rfl unfinished follows' (journal ▸ entered) (journal ▸ unremoved)
        hears', rfl, rfl⟩

end Polls

/-- Others go about their business: nobody dispatches on its own, removes the subscription of the
stream, or reads what has come for it. -/
structure Unhindered (s : Scene ν Performance) (act : Act ν) : Prop where
  tame : act.IsTame
  unremoved : ∀ stream, s.party.stream? = some stream →
    .unsubscribed stream.id ∉ s.bus.entriesSince (act.apply s.bus)
  elsewhere : ∀ stream, s.party.stream? = some stream → act.box? ≠ some stream.box

theorem Unhindered.of_silent {s : Scene ν Performance} {act : Act ν} (tame : act.IsTame)
    (silent : removalsIn (s.bus.entriesSince (act.apply s.bus)) = 0) (unread : act.box? = none) :
    Unhindered s act where
  tame := tame
  unremoved _ _ := unremoved_of_removalsIn silent
  elsewhere _ _ := by simp [unread]

section Course

variable {policy : Policy} {topic message : String} {wait : Nat} {id : SubscriptionId}
  {l : Listening} {s : Scene ν Performance} {act : Act ν}

/-- While others go about their business the listener takes notice of the signs on its topic. -/
theorem Streams.notices (working : s.bus.IsWorking policy)
    (streams : Streams topic wait id l s.bus s.party) (unhindered : Unhindered s act) :
    Streams topic wait id
      ((s.signsOf policy topic (.act act)).foldl (Listening.notice wait) l)
      (act.apply s.bus) s.party := by
  obtain ⟨b, p⟩ := s
  obtain ⟨tame, spared, elsewhere⟩ := unhindered
  have moves := b.apply_moves_box act
  cases streams with
  | done stopped gone issued =>
    obtain ⟨stop, isStop⟩ := Option.isSome_iff_exists.mp stopped
    have still := moves.keeps (gone_lasting id) (fun _ _ => trivial) ⟨gone, issued⟩
    rw [Listening.foldl_stopped isStop]
    exact .done stopped still.1 still.2
  | going stream deadline read same unfinished follows entered unremoved hears =>
    subst same
    obtain ⟨entered', unremoved'⟩ := apply_stays entered unremoved (spared stream rfl)
    have follows' : Follows stream read (act.apply b) :=
      follows.move working.accounted moves (elsewhere stream rfl)
    have heard : repliesTo stream.id (act.apply b).journal =
        repliesTo stream.id b.journal ++ b.arriving policy topic act :=
      apply_heard working.setUp working.accounted tame entered unremoved' nofun
    refine .going stream deadline read rfl unfinished follows' entered' unremoved' ?_
    rw [heard]
    cases closed : b.isClosed with
    | true =>
      rw [closed] at hears
      simpa [Scene.signsOf, arriving_closed closed, closed, isClosed_apply tame closed] using hears
    | false =>
      rw [closed] at hears
      have arrived : Listening.Hears
          (((b.arriving policy topic act).map Sign.reply).foldl (Listening.notice wait) l) read
          (repliesTo stream.id b.journal ++ b.arriving policy topic act) false deadline :=
        hears.more follows.said _
      rw [Scene.signsOf, List.foldl_append]
      cases closed' : (act.apply b).isClosed with
      | true => simpa [closed] using arrived.closing
      | false => simpa [closed] using arrived

theorem poll_opening {b : Bus ν} (isOpen : b.line.phase = .open) (deadline first : Nat) :
    (⟨.opening deadline, [], none⟩ : Performance).poll (.stream topic message) wait first b =
      (⟨.streaming topic (ReplyStream.openOn topic (.string message) b).2 (first + wait) false, [],
        none⟩ : Performance).poll (.stream topic message) wait first
        (ReplyStream.openOn topic (.string message) b).1 := by
  have quiet := output_conversing.openOn b topic (.string message)
  simp [Performance.poll, Command.poll, readiness, isOpen, Command.start, quiet]

theorem Streams.after (working : s.bus.IsWorking policy)
    (streams : Streams topic wait id l s.bus s.party) {moments : List (Moment ν)}
    (admits : s.Admits (Performance.poll (.stream topic message) wait) Unhindered moments) :
    let poll : Polling ν Performance := Performance.poll (.stream topic message) wait
    let last := s.after poll moments
    last.bus.IsWorking policy ∧ s.made poll moments = [] ∧
      Streams topic wait id
        ((s.signs poll policy topic moments).foldl (Listening.notice wait) l) last.bus
        last.party := by
  intro poll
  refine s.keeps (P := fun moments => (s.after poll moments).bus.IsWorking policy ∧
    s.made poll moments = [] ∧ Streams topic wait id
      ((s.signs poll policy topic moments).foldl (Listening.notice wait) l)
      (s.after poll moments).bus (s.after poll moments).party) ?_ ?_ ?_ admits
  · exact ⟨working, rfl, streams⟩
  · rintro past act ⟨working, unmade, streams⟩ unhindered
    have next := streams.notices working unhindered
    have working' := working.apply unhindered.tame
    simp only [Scene.after_append, Scene.made_append, Scene.signs_append, unmade,
      List.foldl_append]
    simpa [Scene.after, Scene.step, Scene.made, Scene.makes, Scene.signs] using ⟨working', next⟩
  · rintro past now ⟨working, unmade, streams⟩
    obtain ⟨visit, next, -⟩ := streams.poll working message now
    have working' := visit.isWorking working
    have makes := visit.made
    simp only [Scene.after_append, Scene.made_append, Scene.signs_append, unmade,
      List.foldl_append]
    simpa [Scene.after, Scene.step, Scene.made, Scene.makes, Scene.signs, Scene.signsOf, poll,
      makes] using ⟨working', next⟩

variable (topic message wait) in
theorem streams_opening {b : Bus ν} (working : b.IsWorking policy) (isOpen : b.line.phase = .open)
    (deadline first : Nat) :
    let polled := (⟨.opening deadline, [], none⟩ : Performance).poll (.stream topic message) wait
      first b
    polled.1.IsWorking policy ∧ madeIn (b.entriesSince polled.1) = [b.registry.nextId] ∧
      Streams topic wait b.registry.nextId (Listening.after wait [.look first]) polled.1
        polled.2 := by
  intro polled
  have same : polled = _ := poll_opening isOpen deadline first
  obtain ⟨owns, entered, unremoved, unheard⟩ :=
    working.begins topic .persistent (.payload topic (.string message))
  have opened : Visit (fun _ => True) [b.registry.nextId] [] b
      (ReplyStream.openOn topic (.string message) b).1 := .converse b topic .persistent _
  have follows := Desk.openOn_follows working.accounted working.known topic (.string message)
  have hears : Listening.Hears { deadline := first + wait, anew := false } []
      (repliesTo b.registry.nextId (ReplyStream.openOn topic (.string message) b).1.journal)
      (ReplyStream.openOn topic (.string message) b).1.isClosed (first + wait) := by
    have closed : (ReplyStream.openOn topic (.string message) b).1.isClosed = false := by
      rw [opened.isClosed_eq, Bool.eq_false_iff, Ne, isClosed_eq_true, isOpen]
      nofun
    rw [closed, show repliesTo b.registry.nextId
      (ReplyStream.openOn topic (.string message) b).1.journal = [] from unheard]
    exact ⟨rfl, rfl, fun _ => ⟨rfl, iff_of_false nofun fun differs => differs rfl⟩⟩
  have begun : Streams topic wait b.registry.nextId { deadline := first + wait, anew := false }
      (ReplyStream.openOn topic (.string message) b).1 ⟨.streaming topic
        (ReplyStream.openOn topic (.string message) b).2 (first + wait) false, [], none⟩ :=
    .going _ (first + wait) [] rfl rfl follows entered unremoved hears
  obtain ⟨visit, next, -⟩ := begun.poll (opened.isWorking working) message first
  have whole := opened.trans visit
  rw [same]
  exact ⟨whole.isWorking working, whole.made, next⟩

end Course

/-- The command that streams a topic, on a line that is open, polled for the first and the last
time. It has printed one line for each reply that its listener has heard, in order, and nothing
else, and these are the replies before the first sign that stops a listener; it comes to a result
when its listener stops, and that is a failure if the listener was kept waiting or heard an error.
With its result its one subscription is gone. -/
theorem prints_conversation (settings : Settings) (onClose : Bool) {past : List (Act ν)}
    (tame : ∀ act ∈ past, act.IsTame) (topic message : String) (wait deadline first now : Nat)
    {moments : List (Moment ν)} :
    let start : Scene ν Performance :=
      ⟨(create settings onClose).after past, ⟨.opening deadline, [], none⟩⟩
    let poll : Polling ν Performance := Performance.poll (.stream topic message) wait
    let run : List (Moment ν) := .look first :: moments ++ [.look now]
    start.bus.line.phase = .open →
    start.Admits poll Unhindered run →
    let last := start.after poll run
    let signs := start.signs poll settings.policy topic run
    let listener := Listening.after wait signs
    last.party.printed =
      (listener.heard.map fun reply => reply.code ++ "\t" ++ reply.valueText ++ "\n") ∧
    (∃ before rest, signs = before ++ rest ∧ (Listening.after wait before).stop = none ∧
      listener.heard = before.filterMap Sign.reply? ∧
      (∀ sign ∈ rest.head?, (Listening.after wait before).IsStoppedBy wait sign) ∧
      (listener.stop = none ↔ rest = [])) ∧
    last.party.result = listener.outcome topic wait ∧
    (∀ result, last.party.result = some result →
      ((∃ failure, result = .error failure) ↔
        listener.stop = some .late ∨ ∃ reply ∈ listener.heard, reply.code = errorCode)) ∧
    start.made poll run = [start.bus.registry.nextId] ∧
    (last.party.result.isSome → last.bus.registry.contains start.bus.registry.nextId = false) := by
  intro start poll run isOpen admits last signs listener
  have working : start.bus.IsWorking settings.policy :=
    (create_isWorking settings onClose).after tame
  obtain ⟨opened, made, streams⟩ :=
    streams_opening topic message wait working isOpen deadline first
  obtain ⟨working, unmade, streams⟩ := streams.after opened (start.admits_between moments admits)
  change (start.step poll (.look first)).made poll moments = [] at unmade
  obtain ⟨visit, streams, printed, result⟩ := streams.poll working message now
  have makes : start.makes poll (.look first) = [start.bus.registry.nextId] := made
  have lastMakes :
      ((start.step poll (.look first)).after poll moments).makes poll (.look now) = [] :=
    visit.made
  have hears : listener = (((start.step poll (.look first)).signs poll settings.policy topic
      moments).foldl (Listening.notice wait) (Listening.after wait [.look first])).notice wait
        (.look now) := by
    simp only [listener, signs, run, Scene.signs_between, Scene.signsOf, Listening.after_append_single]
    rw [Listening.after, List.foldl_append]
    rfl
  rw [← hears] at streams printed result
  simp only [last, run, Scene.after_between, Scene.made_between]
  refine ⟨printed, Listening.after_split wait signs, result, fun outcome found => ?_, ?_,
    streams.gone⟩
  · exact Listening.outcome_error_iff (result.symm.trans found)
  · rw [makes, unmade, lastMakes, List.append_nil, List.append_nil]

/-- An error among the replies is printed like the others and fails the command, though a reply
follows; what comes on another topic or behind the end is not printed. -/
theorem prints_conversation_reported :
    let past : List (Act Unit) := [.step .established]
    let start : Scene Unit Performance :=
      ⟨(create (.withEndpoint "ws://host") false).after past, ⟨.opening 1000, [], none⟩⟩
    let poll : Polling Unit Performance := Performance.poll (.stream "job" "go") 1000
    let reply (topic code text : String) : Moment Unit :=
      .act (.receive (.text (Frame.toText ⟨topic, code, .string text⟩)))
    let moments : List (Moment Unit) := [reply "job" errorCode "a", .look 10,
      reply "news" payloadCode "b", reply "job" payloadCode "c", reply "job" endCode "",
      reply "job" payloadCode "d"]
    let run : List (Moment Unit) := .look 0 :: moments ++ [.look 20]
    let last := start.after poll run
    (∀ act ∈ past, act.IsTame) ∧ start.bus.line.phase = .open ∧ start.Admits poll Unhindered run ∧
      last.party.printed = ["error\ta\n", "payload\tc\n"] ∧
      last.party.result = some (.error (.reportedError "job")) ∧
      last.bus.registry.contains ⟨1⟩ = false := by
  intro past start poll reply moments run last
  have tame : ∀ act ∈ past, act.IsTame := by simp [past, Act.IsTame]
  have isOpen : start.bus.line.phase = .open := by decide +kernel
  have admits : start.Admits poll Unhindered run := by
    refine ⟨?_, ?_, ?_, ?_, ?_, trivial⟩
    all_goals exact .of_silent trivial (by decide +kernel) rfl
  obtain ⟨printed, -, result, -, -, gone⟩ := prints_conversation (.withEndpoint "ws://host") false tame
    "job" "go" 1000 1000 0 20 isOpen admits
  have hears : Listening.after 1000 (start.signs poll .strict "job" run) =
      ⟨[⟨errorCode, .string "a"⟩, ⟨payloadCode, .string "c"⟩], 1010, true, some .ended⟩ := by
    decide +kernel
  -- both sides in one form, so that nothing is run to compare them
  simp only [start, poll, run] at hears
  rw [show (Settings.withEndpoint "ws://host").policy = .strict from rfl, hears] at printed result
  have isFirst : start.bus.registry.nextId = ⟨1⟩ := by decide +kernel
  simp only [start] at isFirst
  rw [isFirst] at gone
  simp only [last, start, poll, run]
  rw [printed, result]
  exact ⟨tame, isOpen, admits, by decide, rfl, gone (by rw [result]; rfl)⟩

end Performance

end Switchboard
