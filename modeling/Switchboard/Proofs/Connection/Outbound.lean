import Mathlib.Data.List.Infix
import Switchboard.Connection.Line
/-!
The way of outbound texts. A line with one waiter in front of it, to which all texts are given,
hands them to its socket in the order in which they were given, each at most once. As long as the
line has not closed, every text is still somewhere: handed over, accepted, in the hand of the flush
or in the queue, in this order.

The account of a line carries this through every step. It holds that there is a flush exactly while
the waiter is flushing, never two, and that a flush of a line that has not closed either waits for
it to open or has seen it open; so nothing is given up before the end.
-/

set_option autoImplicit false
set_option relaxedAutoImplicit false

namespace Switchboard

/-- The text that an entry tells to have been handed to the socket, whether it was taken or not. -/
def Event.handed? : Event → Option String
  | .wrote text => some text
  | .writeFailed text => some text
  | _ => none

def handedTexts (events : List Event) : List String := events.filterMap Event.handed?

def Flush.text? : Flush → Option String
  | .holding _ text => some text
  | _ => none

def Waiter.inHand (w : Waiter) : List String := w.flushes.filterMap Flush.text?

/-- Whether a flush still waits, or went on because the line had opened. -/
def Flush.isHopeful : Flush → Bool
  | .awaiting => true
  | .draining opened => opened
  | .holding opened _ => opened

namespace Line

/-- The texts that a signal gives to a waiter; a caller without a handle gives none. -/
def given (line : Line) : Signal → List String
  | .defer i text =>
    match line.waiters[i]? with
    | some w => if w.handles = 0 then [] else [text]
    | none => []
  | _ => []

def givenIn (line : Line) : List Signal → List String
  | [] => []
  | signal :: rest => line.given signal ++ givenIn (line.step signal).1 rest

/-- Whether the line had opened before the first text was handed over. -/
def OpenedFirst (events : List Event) : Prop :=
  ∀ earlier e later, events = earlier ++ e :: later → e.handed?.isSome → .opened ∈ earlier

/-- The account of a line with one waiter: what has happened to the texts that were given. -/
structure Account (line : Line) (w : Waiter) (events : List Event) (given : List String) :
    Prop where
  waiter : line.waiters = [w]
  flushing : w.flushing = true → ∃ flush, w.flushes = [flush]
  resting : w.flushing = false → w.flushes = [] ∧ w.queue = []
  waiting : line.phase = .connecting →
    handedTexts events = [] ∧ line.accepted = [] ∧ ∀ flush ∈ w.flushes, flush = .awaiting
  opened : line.phase = .open → .opened ∈ events
  hopeful : line.phase = .open → ∀ flush ∈ w.flushes, flush.isHopeful = true
  first : OpenedFirst events
  conserved : line.phase ≠ .closed →
    handedTexts events ++ line.accepted ++ w.inHand ++ w.queue = given
  ordered : handedTexts events <+: given

variable {line : Line} {w : Waiter} {events : List Event} {given : List String}

private theorem handedTexts_append (a b : List Event) :
    handedTexts (a ++ b) = handedTexts a ++ handedTexts b := List.filterMap_append

private theorem OpenedFirst.append {later : List Event} (h : OpenedFirst events)
    (late : .opened ∈ events ∨ handedTexts later = []) : OpenedFirst (events ++ later) := by
  intro before e after split handed
  have inLater (member : e ∈ later) : .opened ∈ events := by
    rcases late with isOpen | nothing
    · exact isOpen
    · simp [List.filterMap_eq_nil_iff.mp nothing e member] at handed
  rcases List.append_eq_append_iff.mp split with ⟨more, rfl, rest⟩ | ⟨more, whole, rest⟩
  · exact List.mem_append_left _ (inLater (by simp [rest]))
  · cases more with
    | nil =>
      have isOpen := inLater (by simp [← show e :: after = later from rest])
      simpa [whole] using isOpen
    | cons f more =>
      obtain ⟨rfl, -⟩ := List.cons.inj rest
      exact h before e more whole handed

/-! What the parts of a step hand to the socket. -/

private theorem handedTexts_finish (line : Line) (ending : Ending) :
    handedTexts (line.finish ending).2 =
      match ending with
      | .writeFailed _ => line.accepted.take 1
      | _ => [] := by
  have told : handedTexts (.closed ending.closeReason ::
      if line.setup.onClose then [.notified ending.closeReason] else []) = [] := by
    split <;> rfl
  rw [finish, handedTexts_append, told, List.append_nil]
  unfold endingEvents
  cases ending with
  | writeFailed detail =>
    cases line.accepted <;> rfl
  | peerClosed code reason => rfl
  | readFailed detail => rfl
  | streamEnded => rfl
  | cancelled | timedOut seconds | refused detail | requested | abandoned =>
    dsimp only
    split <;> rfl

private theorem handedTexts_finishPolitely (line : Line) (ending : Ending)
    (h : ∀ detail, ending ≠ .writeFailed detail) :
    handedTexts (line.finishPolitely ending).2 = [] := by
  rw [finishPolitely, handedTexts_append, handedTexts_finish]
  cases ending with
  | writeFailed detail => exact absurd rfl (h detail)
  | _ => split <;> rfl

private theorem handedTexts_receive (line : Line) (message : Message) :
    handedTexts (line.receive message).2 = [] := by
  cases message with
  | text content => simp only [receive]; split <;> rfl
  | binary octets => simp only [receive]; split <;> rfl
  | ping octets => simp only [receive]; split <;> rfl
  | pong octets => rfl
  | close code reason => exact handedTexts_finish line _
  | broken detail => exact handedTexts_finish line _
  | ended => exact handedTexts_finish line _

/-! What an account keeps through the parts of a step. -/

private theorem Account.tell (h : Account line w events given) {told : List Event}
    (nothing : handedTexts told = []) : Account line w (events ++ told) given := by
  have same : handedTexts (events ++ told) = handedTexts events := by
    rw [handedTexts_append, nothing, List.append_nil]
  exact {
    waiter := h.waiter
    flushing := h.flushing
    resting := h.resting
    waiting := by rw [same]; exact h.waiting
    opened := fun isOpen => List.mem_append_left _ (h.opened isOpen)
    hopeful := h.hopeful
    first := h.first.append (.inr nothing)
    conserved := by rw [same]; exact h.conserved
    ordered := by rw [same]; exact h.ordered }

private theorem Account.closed (h : Account line w events given) {closed : Line}
    (same : closed.waiters = line.waiters) (phase : closed.phase = .closed) :
    Account closed w events given where
  waiter := same.trans h.waiter
  flushing := h.flushing
  resting := h.resting
  waiting early := by simp [phase] at early
  opened isOpen := by simp [phase] at isOpen
  hopeful isOpen := by simp [phase] at isOpen
  first := h.first
  conserved alive := absurd phase alive
  ordered := h.ordered

private theorem Account.finish (h : Account line w events given) (ending : Ending) :
    Account (line.finish ending).1 w events given :=
  h.closed rfl rfl

private theorem Account.finishPolitely (h : Account line w events given) (ending : Ending) :
    Account (line.finishPolitely ending).1 w events given :=
  h.closed rfl rfl

private theorem Account.regardless (h : Account line w events given) {other : Line} (v : Waiter)
    (waiter : other.waiters = [v]) (phase : other.phase = line.phase)
    (accepted : other.accepted = line.accepted) (flushing : v.flushing = w.flushing)
    (queue : v.queue = w.queue) (flushes : v.flushes = w.flushes) :
    Account other v events given where
  waiter := waiter
  flushing := by rw [flushing, flushes]; exact h.flushing
  resting := by rw [flushing, flushes, queue]; exact h.resting
  waiting := by rw [phase, accepted, flushes]; exact h.waiting
  opened := by rw [phase]; exact h.opened
  hopeful := by rw [phase, flushes]; exact h.hopeful
  first := h.first
  conserved := by
    rw [phase, accepted, queue, Waiter.inHand, flushes]
    exact h.conserved
  ordered := h.ordered

private theorem Account.handOver (h : Account line w events given) {text : String}
    {rest : List String} (isOpen : line.phase = .open) (oldest : line.accepted = text :: rest)
    {told : List Event} (handed : handedTexts told = [text]) :
    Account { line with accepted := rest } w (events ++ told) given := by
  have whole := h.conserved (by simp [isOpen])
  rw [oldest] at whole
  exact {
    waiter := h.waiter
    flushing := h.flushing
    resting := h.resting
    waiting := fun early => by simp [isOpen] at early
    opened := fun _ => List.mem_append_left _ (h.opened isOpen)
    hopeful := h.hopeful
    first := h.first.append (.inl (h.opened isOpen))
    conserved := fun _ => by
      rw [handedTexts_append, handed, ← whole]
      simp
    ordered := by
      rw [handedTexts_append, handed]
      exact ⟨rest ++ w.inHand ++ w.queue, by rw [← whole]; simp⟩ }

private theorem inHand_alone {v : Waiter} {flush : Flush} (alone : v.flushes = [flush]) :
    v.inHand = flush.text?.toList := by
  rw [Waiter.inHand, alone]
  cases flush <;> rfl

/-- The only flush goes on from one stage to another, and no text gets lost on the way. -/
private theorem Account.flushOn (h : Account line w events given) {other : Line} (v : Waiter)
    {flush : Flush} (next : Flush) (alone : w.flushes = [flush]) (goesOn : v.flushes = [next])
    (busy : v.flushing = true) (waiter : other.waiters = [v]) (phase : other.phase = line.phase)
    (late : line.phase ≠ .connecting) (hopeful : line.phase = .open → next.isHopeful = true)
    (kept : line.phase ≠ .closed →
      other.accepted ++ next.text?.toList ++ v.queue =
        line.accepted ++ flush.text?.toList ++ w.queue) :
    Account other v events given where
  waiter := waiter
  flushing _ := ⟨next, goesOn⟩
  resting idle := by simp [busy] at idle
  waiting early := absurd (phase.symm.trans early) late
  opened isOpen := h.opened (phase.symm.trans isOpen)
  hopeful isOpen := by
    rw [goesOn]
    simpa using hopeful (phase.symm.trans isOpen)
  first := h.first
  conserved alive := by
    rw [phase] at alive
    have whole := h.conserved alive
    rw [inHand_alone alone] at whole
    rw [inHand_alone goesOn, ← whole]
    simpa using kept alive
  ordered := h.ordered

private theorem Account.flushEnds (h : Account line w events given) {flush : Flush}
    (alone : w.flushes = [flush]) (empty : flush.text? = none) (drained : w.queue = [])
    (late : line.phase ≠ .connecting) {v : Waiter} (gone : v.flushes = [])
    (idle : v.flushing = false) (queue : v.queue = w.queue) :
    Account (line.setWaiter 0 v) v events given where
  waiter := by simp [setWaiter, h.waiter]
  flushing busy := by simp [idle] at busy
  resting _ := ⟨gone, queue.trans drained⟩
  waiting early := absurd early late
  opened := h.opened
  hopeful _ := by simp [gone]
  first := h.first
  conserved alive := by
    have whole := h.conserved alive
    rw [inHand_alone alone, empty] at whole
    rw [Waiter.inHand, gone, queue]
    exact whole
  ordered := h.ordered

private theorem Account.flushStep (h : Account line w events given) (place : Nat) :
    ∃ v, Account (line.flushStep 0 w place).1 v (events ++ (line.flushStep 0 w place).2) given := by
  have quiet {other : Line} {v : Waiter} {told : List Event}
      (account : Account other v events given) (nothing : handedTexts told = []) :
      ∃ v, Account other v (events ++ told) given :=
    ⟨v, account.tell nothing⟩
  unfold Line.flushStep
  cases found : w.flushes[place]? with
  | none => exact quiet h rfl
  | some flush =>
    -- the flush is the only one there is, in the first place
    have busy : w.flushing = true := by
      by_contra idle
      simp [h.resting (by simpa using idle)] at found
    obtain ⟨only, alone⟩ := h.flushing busy
    obtain ⟨rfl, rfl⟩ : place = 0 ∧ only = flush := by
      cases place <;> simp_all
    have early := fun connecting => (h.waiting connecting).2.2 only (by simp [alone])
    have hopeful := fun isOpen => h.hopeful isOpen only (by simp [alone])
    cases only with
    | awaiting =>
      dsimp only
      split
      · exact quiet h rfl
      · rename_i late
        let next : Flush := .draining (line.phase = .open)
        refine quiet (h.flushOn { w with flushes := w.flushes.set 0 next } next alone
          (by simp [alone]) busy (by simp [setWaiter, h.waiter, next]) rfl late ?_ fun _ => rfl) rfl
        simp [next, Flush.isHopeful]
    | draining opened =>
      have late : line.phase ≠ .connecting := fun connecting => by simpa using early connecting
      dsimp only
      split
      · rename_i drained
        exact quiet (h.flushEnds alone rfl drained late (by simp [alone]) rfl rfl) rfl
      · rename_i text queue waiting
        let next : Flush := .holding opened text
        refine quiet (h.flushOn { w with queue, flushes := w.flushes.set 0 next } next alone
          (by simp [alone]) busy (by simp [setWaiter, h.waiter, next]) rfl late hopeful
          fun _ => ?_) rfl
        simp [next, Flush.text?, waiting, setWaiter]
    | holding opened text =>
      have late : line.phase ≠ .connecting := fun connecting => by simpa using early connecting
      let v : Waiter := { w with flushes := w.flushes.set 0 (.draining opened) }
      have goesOn : v.flushes = [.draining opened] := by simp [v, alone]
      have waiter : (line.setWaiter 0 v).waiters = [v] := by simp [setWaiter, h.waiter]
      cases opened with
      | false =>
        -- the flush gives its text up, but only once the line has closed
        have closed : line.phase = .closed := by
          cases phase : line.phase with
          | connecting => exact absurd phase late
          | «open» => simpa [Flush.isHopeful] using hopeful phase
          | closed => rfl
        exact quiet (h.flushOn v _ alone goesOn busy waiter rfl late hopeful (absurd closed)) rfl
      | true =>
        dsimp only
        rw [if_pos rfl, Line.accept]
        split
        · refine quiet (h.flushOn v _ alone goesOn busy waiter rfl late hopeful fun _ => ?_) rfl
          simp [Flush.text?, setWaiter, v]
        · rename_i shut
          refine quiet (h.flushOn v _ alone goesOn busy waiter rfl late hopeful fun alive => ?_) rfl
          cases phase : line.phase with
          | connecting => exact absurd phase late
          | «open» => exact absurd phase shut
          | closed => exact absurd phase alive

private theorem Account.accept (h : Account line w events given) (text : String)
    (isOpen : line.phase = .open) (idle : w.flushing = false) :
    Account { line with accepted := line.accepted ++ [text] } w events (given ++ [text]) where
  waiter := h.waiter
  flushing := h.flushing
  resting := h.resting
  waiting early := by simp [isOpen] at early
  opened := h.opened
  hopeful := h.hopeful
  first := h.first
  conserved alive := by
    have whole := h.conserved alive
    obtain ⟨noFlush, noQueue⟩ := h.resting idle
    rw [Waiter.inHand, noFlush, noQueue] at whole ⊢
    rw [← whole]
    simp
  ordered := h.ordered.trans (List.prefix_append _ _)

private theorem Account.enqueue (h : Account line w events given) (text : String) {v : Waiter}
    (queue : v.queue = w.queue ++ [text]) (busy : v.flushing = true)
    (flushes : v.flushes = if w.flushing then w.flushes else w.flushes ++ [.awaiting]) :
    Account (line.setWaiter 0 v) v events (given ++ [text]) := by
  have either : v.flushes = w.flushes ∨ w.flushes = [] ∧ v.flushes = [.awaiting] := by
    cases flushing : w.flushing with
    | true => exact .inl (by simpa [flushing] using flushes)
    | false =>
      have none := (h.resting flushing).1
      exact .inr ⟨none, by simpa [flushing, none] using flushes⟩
  have inHand : v.inHand = w.inHand := by
    rcases either with same | ⟨none, one⟩
    · rw [Waiter.inHand, same, Waiter.inHand]
    · rw [Waiter.inHand, one, Waiter.inHand, none]
      rfl
  exact {
    waiter := by simp [setWaiter, h.waiter]
    flushing := fun _ => by
      rcases either with same | ⟨-, one⟩
      · cases flushing : w.flushing with
        | true => exact same ▸ h.flushing flushing
        | false => simp [flushing, (h.resting flushing).1] at flushes; exact ⟨_, flushes⟩
      · exact ⟨.awaiting, one⟩
    resting := fun idle => by simp [busy] at idle
    waiting := fun early => by
      obtain ⟨nothing, empty, awaiting⟩ := h.waiting early
      refine ⟨nothing, empty, ?_⟩
      rcases either with same | ⟨-, one⟩
      · exact same ▸ awaiting
      · simp [one]
    opened := h.opened
    first := h.first
    hopeful := fun isOpen => by
      rcases either with same | ⟨-, one⟩
      · exact same ▸ h.hopeful isOpen
      · simp [one, Flush.isHopeful]
    conserved := fun alive => by
      rw [inHand, queue, ← h.conserved alive]
      simp [setWaiter]
    ordered := h.ordered.trans (List.prefix_append _ _) }

private theorem Account.deferText (h : Account line w events given) (text : String) :
    ∃ v, Account (line.deferText 0 w text).1 v (events ++ (line.deferText 0 w text).2)
      (given ++ [text]) := by
  unfold Line.deferText
  split
  · rename_i direct
    have idle : w.flushing = false := by simpa using direct.1
    rw [Line.accept, if_pos direct.2]
    exact ⟨w, (h.accept text direct.2 idle).tell rfl⟩
  · exact ⟨_, (h.enqueue text rfl rfl rfl).tell rfl⟩

private theorem Account.withWaiter (h : Account line w events given) (i : Nat)
    {change : Waiter → Line × List Event} {more : List String} (elsewhere : i ≠ 0 → more = [])
    (here : i = 0 → ∃ v, Account (change w).1 v (events ++ (change w).2) (given ++ more)) :
    ∃ v, Account (line.withWaiter i change).1 v (events ++ (line.withWaiter i change).2)
      (given ++ more) := by
  rw [Line.withWaiter, h.waiter]
  cases i with
  | zero => exact here rfl
  | succ i =>
    rw [elsewhere (Nat.succ_ne_zero i), List.append_nil]
    exact ⟨w, h.tell rfl⟩

private theorem Account.opens (h : Account line w events given) (early : line.phase = .connecting) :
    Account { line with phase := .open } w (events ++ [.opened]) given := by
  obtain ⟨nothing, empty, awaiting⟩ := h.waiting early
  have silent : handedTexts [.opened] = [] := rfl
  exact {
    waiter := h.waiter
    flushing := h.flushing
    resting := h.resting
    waiting := fun early => by simp at early
    opened := fun _ => by simp
    hopeful := fun _ flush member => by rw [awaiting flush member]; rfl
    first := h.first.append (.inr rfl)
    conserved := fun _ => by
      rw [handedTexts_append, silent, List.append_nil]
      exact h.conserved (by simp [early])
    ordered := by
      rw [handedTexts_append, nothing]
      exact List.nil_prefix }

private theorem Account.write (h : Account line w events given) :
    Account (line.step .write).1 w (events ++ (line.step .write).2) given := by
  simp only [Line.step]
  split
  · rename_i text rest isOpen oldest
    split
    · exact h.handOver isOpen oldest rfl
    · rename_i detail _
      have failing : handedTexts (line.finish (.writeFailed detail)).2 = [text] := by
        simp [handedTexts_finish, oldest]
      exact (h.handOver isOpen oldest failing).closed rfl rfl
  · exact h.tell rfl

/-- Every step keeps an account, unless a text goes past the waiter. -/
theorem Account.step (h : Account line w events given) (signal : Signal)
    (deferred : ∀ text, signal ≠ .send text) :
    ∃ v, Account (line.step signal).1 v (events ++ (line.step signal).2)
      (given ++ line.given signal) := by
  have quiet {other : Line} {v : Waiter} {told : List Event}
      (account : Account other v events given) (nothing : handedTexts told = []) :
      ∃ v, Account other v (events ++ told) (given ++ []) :=
    ⟨v, by rw [List.append_nil]; exact account.tell nothing⟩
  cases signal with
  | connect => exact quiet h rfl
  | established =>
    simp only [Line.step]
    split
    · rename_i early
      exact ⟨w, by simpa [Line.given] using h.opens early⟩
    · exact quiet h rfl
  | refused detail =>
    simp only [Line.step]
    split
    · exact quiet (h.finish _) (handedTexts_finish line _)
    · exact quiet h rfl
  | timedOut seconds =>
    simp only [Line.step]
    split
    · exact quiet (h.finish _) (handedTexts_finish line _)
    · exact quiet h rfl
  | received message =>
    simp only [Line.step]
    split
    · refine quiet (v := w) ?_ (handedTexts_receive line message)
      cases message with
      | close code reason => exact h.finish _
      | broken detail => exact h.finish _
      | ended => exact h.finish _
      | _ => exact h
    · exact quiet h rfl
  | write => exact ⟨w, by simpa [Line.given] using h.write⟩
  | notice =>
    simp only [Line.step]
    split
    · split
      · exact quiet (h.finish _) (handedTexts_finish line _)
      · exact quiet (h.finishPolitely _) (handedTexts_finishPolitely line _ (by simp))
      · exact quiet h rfl
    · exact quiet h rfl
  | abandon =>
    simp only [Line.step]
    split
    · exact quiet (h.finishPolitely _) (handedTexts_finishPolitely line _ (by simp))
    · exact quiet h rfl
  | close =>
    simp only [Line.step]
    split
    · exact quiet h rfl
    · exact quiet (h.regardless w h.waiter rfl rfl rfl rfl rfl) rfl
  | send text => exact absurd rfl (deferred text)
  | defer i text =>
    refine h.withWaiter i (fun elsewhere => ?_) fun here => ?_
    · cases i with
      | zero => exact absurd rfl elsewhere
      | succ i => simp [Line.given, h.waiter]
    · subst here
      simp only [Line.given, h.waiter, List.getElem?_cons_zero]
      split
      · exact quiet h rfl
      · exact h.deferText text
  | flush i place =>
    refine h.withWaiter i (fun _ => rfl) fun here => ?_
    subst here
    simpa [Line.given] using h.flushStep place
  | retain =>
    simp only [Line.step]
    split
    · exact quiet h rfl
    · exact quiet (h.regardless w h.waiter rfl rfl rfl rfl rfl) rfl
  | release => exact quiet (h.regardless w h.waiter rfl rfl rfl rfl rfl) rfl
  | retainWaiter i =>
    refine h.withWaiter i (fun _ => rfl) fun here => ?_
    subst here
    split
    · exact quiet h rfl
    · exact quiet (h.regardless { w with handles := w.handles + 1 }
        (by simp [setWaiter, h.waiter]) rfl rfl rfl rfl rfl) rfl
  | releaseWaiter i =>
    refine h.withWaiter i (fun _ => rfl) fun here => ?_
    subst here
    exact quiet (h.regardless { w with handles := w.handles - 1 }
      (by simp [setWaiter, h.waiter]) rfl rfl rfl rfl rfl) rfl
  | setFault fault => exact quiet (h.regardless w h.waiter rfl rfl rfl rfl rfl) rfl

theorem Account.run (h : Account line w events given) (signals : List Signal)
    (deferred : ∀ text, .send text ∉ signals) :
    ∃ v, Account (line.run signals).1 v (events ++ (line.run signals).2)
      (given ++ line.givenIn signals) := by
  induction signals generalizing line w events given with
  | nil => exact ⟨w, by simpa [Line.run, givenIn] using h⟩
  | cons signal rest ih =>
    obtain ⟨u, next⟩ := h.step signal fun text same => deferred text (by simp [same])
    obtain ⟨v, last⟩ := ih next fun text member => deferred text (List.mem_cons_of_mem _ member)
    refine ⟨v, ?_⟩
    simpa only [Line.run, givenIn, List.append_assoc] using last

theorem account_new (setup : LineSetup) : Account { setup } {} [] [] where
  waiter := rfl
  flushing busy := by simp at busy
  resting _ := ⟨rfl, rfl⟩
  waiting _ := ⟨rfl, rfl, by simp⟩
  opened isOpen := by simp at isOpen
  hopeful isOpen := by simp at isOpen
  first earlier e later split := by simp at split
  conserved _ := rfl
  ordered := List.nil_prefix

/-- However the steps of a line, of its flush, of its callers and of the world outside interleave,
texts that go through the waiter are handed to the socket in the order in which they were given,
each at most once and none before the line has opened; until the line closes, none gets lost. -/
theorem handed_in_order (setup : LineSetup) (signals : List Signal)
    (deferred : ∀ text, .send text ∉ signals) :
    let start : Line := { setup }
    let line := (start.run signals).1
    let events := (start.run signals).2
    handedTexts events <+: start.givenIn signals ∧ OpenedFirst events ∧
      ∃ w, line.waiters = [w] ∧ (line.phase ≠ .closed →
        handedTexts events ++ line.accepted ++ w.inHand ++ w.queue = start.givenIn signals) := by
  intro start line events
  obtain ⟨w, account⟩ := (account_new setup).run signals deferred
  simp only [List.nil_append] at account
  exact ⟨account.ordered, account.first, w, account.waiter, account.conserved⟩

/-- Two texts are given before the line opens, and a third while the flush is at the first. -/
theorem handed_in_order_crossing :
    let start : Line := { setup := ⟨"ws://host", none, true, true⟩ }
    let signals : List Signal := [.defer 0 "a", .defer 0 "b", .established, .flush 0 0,
      .flush 0 0, .defer 0 "c", .flush 0 0, .write, .flush 0 0]
    (∀ text, .send text ∉ signals) ∧ start.givenIn signals = ["a", "b", "c"] ∧
      handedTexts (start.run signals).2 = ["a"] ∧
      handedTexts (start.run signals).2 <+: start.givenIn signals :=
  ⟨by simp, by decide, by decide, (handed_in_order _ _ (by simp)).1⟩

end Line

end Switchboard
