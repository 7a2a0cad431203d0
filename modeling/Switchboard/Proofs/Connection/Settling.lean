import Mathlib.Algebra.Ring.Nat
import Switchboard.Proofs.Connection.Outbound
import Switchboard.Proofs.Connection.Stride
/-!
How a line comes to rest. Its own task and the flushes of its waiters need nothing from outside to
go on, and each of their steps leaves less to do, so they come to rest; and when they have, no text
waits in a queue any more unless the line is still connecting.
-/

set_option autoImplicit false
set_option relaxedAutoImplicit false

namespace Switchboard

/-- Whether a signal is a step of the line's task or of a flush, for which nothing need come in. -/
def Signal.isTaskStep : Signal → Bool
  | .write | .notice | .abandon | .flush .. => true
  | _ => false

def Event.written? : Event → Option String
  | .wrote text => some text
  | _ => none

def writtenTexts (events : List Event) : List String := events.filterMap Event.written?

/-- What is left to do of the life of a line: to close, which it does once. -/
def Phase.labor : Phase → Nat
  | .closed => 0
  | _ => 1

/-- How many steps a flush has before it at most, and the line's task for the text it holds. -/
def Flush.labor : Flush → Nat
  | .awaiting => 2
  | .draining _ => 1
  | .holding .. => 3

def Waiter.labor (w : Waiter) : Nat := 3 * w.queue.length + (w.flushes.map Flush.labor).sum

namespace Line

/-- No task can take a further step. -/
def IsSettled (line : Line) : Prop :=
  ∀ signal : Signal, signal.isTaskStep = true → line.step signal = (line, [])

/-- The tasks take these steps, each of which does something. -/
def Works (line : Line) : List Signal → Prop
  | [] => True
  | signal :: rest =>
    signal.isTaskStep = true ∧ line.step signal ≠ (line, []) ∧ Works (line.step signal).1 rest

def labor (line : Line) : Nat :=
  line.phase.labor + line.accepted.length + (line.waiters.map Waiter.labor).sum

variable {line : Line} {w : Waiter}

/-! Every step of a task leaves less to do. -/

private theorem sum_map_set {α : Type} (f : α → Nat) {l : List α} {i : Nat} {a : α} (b : α)
    (found : l[i]? = some a) : ((l.set i b).map f).sum + f a = (l.map f).sum + f b := by
  induction l generalizing i with
  | nil => simp at found
  | cons c rest ih =>
    cases i with
    | zero =>
      obtain rfl : c = a := by simpa using found
      simp only [List.set_cons_zero, List.map_cons, List.sum_cons]
      omega
    | succ i =>
      have later := ih (i := i) (by simpa using found)
      simp only [List.set_cons_succ, List.map_cons, List.sum_cons]
      omega

private theorem sum_map_eraseIdx {α : Type} (f : α → Nat) {l : List α} {i : Nat} {a : α}
    (found : l[i]? = some a) : ((l.eraseIdx i).map f).sum + f a = (l.map f).sum := by
  induction l generalizing i with
  | nil => simp at found
  | cons c rest ih =>
    cases i with
    | zero =>
      obtain rfl : c = a := by simpa using found
      simp only [List.eraseIdx_cons_zero, List.map_cons, List.sum_cons]
      omega
    | succ i =>
      have later := ih (i := i) (by simpa using found)
      simp only [List.eraseIdx_cons_succ, List.map_cons, List.sum_cons]
      omega

private theorem labor_setWaiter {i : Nat} (found : line.waiters[i]? = some w) (v : Waiter) :
    (line.setWaiter i v).labor + w.labor = line.labor + v.labor := by
  have total := sum_map_set Waiter.labor v found
  simp only [labor, setWaiter]
  omega

private theorem labor_finish (alive : line.phase ≠ .closed) (ending : Ending) :
    (line.finish ending).1.labor < line.labor := by
  have once : line.phase.labor = 1 := by
    cases phase : line.phase with
    | connecting => rfl
    | «open» => rfl
    | closed => exact absurd phase alive
  simp only [finish, labor, List.length_nil, Phase.labor]
  omega

private theorem labor_finishPolitely (alive : line.phase ≠ .closed) (ending : Ending) :
    (line.finishPolitely ending).1.labor < line.labor :=
  labor_finish alive ending

private theorem labor_accept (line : Line) (text : String) :
    (line.accept text).1.labor ≤ line.labor + 1 := by
  unfold accept
  split
  · simp only [labor, List.length_append, List.length_singleton]
    omega
  · exact Nat.le_succ _

private theorem flushStep_labor {i : Nat} (found : line.waiters[i]? = some w) (place : Nat) :
    line.flushStep i w place = (line, []) ∨ (line.flushStep i w place).1.labor < line.labor := by
  unfold flushStep
  cases stage : w.flushes[place]? with
  | none => exact .inl rfl
  | some flush =>
    cases flush with
    | awaiting =>
      dsimp only
      split
      · exact .inl rfl
      · refine .inr ?_
        have shorter := sum_map_set Flush.labor (.draining (line.phase = .open)) stage
        have total := labor_setWaiter found
          { w with flushes := w.flushes.set place (.draining (line.phase = .open)) }
        simp only [Flush.labor, Waiter.labor] at shorter total ⊢
        omega
    | draining opened =>
      dsimp only
      refine .inr ?_
      split
      · have shorter := sum_map_eraseIdx Flush.labor stage
        have total := labor_setWaiter found
          { w with flushing := false, flushes := w.flushes.eraseIdx place }
        simp only [Flush.labor, Waiter.labor] at shorter total ⊢
        omega
      · rename_i text queue waiting
        have taken := sum_map_set Flush.labor (.holding opened text) stage
        have total := labor_setWaiter found
          { w with queue, flushes := w.flushes.set place (.holding opened text) }
        simp only [Flush.labor, Waiter.labor, waiting, List.length_cons] at taken total ⊢
        omega
    | holding opened text =>
      dsimp only
      refine .inr ?_
      have passedOn := sum_map_set Flush.labor (.draining opened) stage
      have total := labor_setWaiter found
        { w with flushes := w.flushes.set place (.draining opened) }
      have accepted := labor_accept
        (line.setWaiter i { w with flushes := w.flushes.set place (.draining opened) }) text
      simp only [Flush.labor, Waiter.labor] at passedOn total
      split
      · omega
      · dsimp only
        omega

/-- A step of a task that does something leaves less to do. -/
theorem labor_step {signal : Signal} (own : signal.isTaskStep = true)
    (works : line.step signal ≠ (line, [])) : (line.step signal).1.labor < line.labor := by
  cases signal with
  | write =>
    simp only [step] at works ⊢
    split
    · rename_i text rest isOpen oldest
      split
      · simp only [labor, oldest, List.length_cons]
        omega
      · exact labor_finish (by simp [isOpen]) _
    · rename_i nothing
      split at works
      · rename_i text rest isOpen oldest
        exact absurd oldest (nothing text rest isOpen)
      · exact absurd rfl works
  | notice =>
    simp only [step] at works ⊢
    split at works
    · rename_i closing
      rw [if_pos closing]
      split at works
      · rename_i early
        exact labor_finish (by simp [early]) _
      · rename_i isOpen
        exact labor_finishPolitely (by simp [isOpen]) _
      · exact absurd rfl works
    · exact absurd rfl works
  | abandon =>
    simp only [step] at works ⊢
    split at works
    · rename_i left
      rw [if_pos left]
      exact labor_finishPolitely (by simp [left.1]) _
    · exact absurd rfl works
  | flush i place =>
    simp only [step, withWaiter] at works ⊢
    split
    · rename_i w found
      rw [found] at works
      exact (flushStep_labor found place).resolve_left works
    · rename_i found
      rw [found] at works
      exact absurd rfl works
  | _ => simp [Signal.isTaskStep] at own

theorem Works.length_le {steps : List Signal} (works : line.Works steps) :
    steps.length ≤ line.labor := by
  induction steps generalizing line with
  | nil => exact Nat.zero_le _
  | cons signal rest ih =>
    obtain ⟨own, effective, later⟩ := works
    exact Nat.succ_le_of_lt (Nat.lt_of_le_of_lt (ih later) (labor_step own effective))

/-- The tasks of a line come to rest by themselves. -/
theorem exists_settled (line : Line) :
    ∃ steps, line.Works steps ∧ (line.run steps).1.IsSettled := by
  by_cases settled : line.IsSettled
  · exact ⟨[], trivial, settled⟩
  · obtain ⟨signal, own, works⟩ : ∃ signal : Signal, signal.isTaskStep = true ∧
        line.step signal ≠ (line, []) := by
      simpa [IsSettled] using settled
    have less := labor_step own works
    obtain ⟨steps, later, rest⟩ := exists_settled (line.step signal).1
    exact ⟨signal :: steps, ⟨own, works, later⟩, rest⟩
termination_by line.labor

/-! A line that has not closed has told of no failed write, so all it handed over was written. -/

theorem handedTexts_eq_written {events : List Event}
    (none : ∀ text, .writeFailed text ∉ events) : handedTexts events = writtenTexts events := by
  refine List.filterMap_congr fun e member => ?_
  cases e with
  | writeFailed text => exact absurd member (none text)
  | _ => rfl

theorem handedTexts_late (closed : line.phase = .closed) (signals : List Signal) :
    handedTexts (line.run signals).2 = [] := by
  refine List.filterMap_eq_nil_iff.mpr fun e member => ?_
  have allowed := (run_closed closed signals).2 e member
  cases e with
  | wrote text => cases allowed
  | writeFailed text => cases allowed
  | _ => rfl

theorem writtenTexts_late (closed : line.phase = .closed) (signals : List Signal) :
    writtenTexts (line.run signals).2 = [] := by
  rw [← handedTexts_eq_written fun text member =>
    Bool.noConfusion ((run_closed closed signals).2 _ member)]
  exact handedTexts_late closed signals

/-! What has to be done in a line that is late enough gets done. -/

variable {events : List Event} {given : List String}

theorem flush_goesOn (late : line.phase ≠ .connecting) {i : Nat}
    (found : line.waiters[i]? = some w) {flush : Flush} (alone : w.flushes = [flush]) :
    line.step (.flush i 0) ≠ (line, []) := by
  intro still
  have same : (line.flushStep i w 0).1.waiters[i]? = some w := by
    have step : line.step (.flush i 0) = line.flushStep i w 0 := by
      simp [Line.step, Line.withWaiter, found]
    rw [← step, still, found]
  have waiter : ∀ v, (line.setWaiter i v).waiters[i]? = some v := fun v => by
    simp [setWaiter, (List.getElem?_eq_some_iff.mp found).1]
  have kept : ∀ (other : Line) (text : String), (other.accept text).1.waiters = other.waiters := by
    intro other text
    unfold Line.accept
    split <;> rfl
  have stage : w.flushes[0]? = some flush := by simp [alone]
  unfold Line.flushStep at same
  rw [stage] at same
  cases flush with
  | awaiting =>
    simp only [if_neg late, waiter] at same
    have flushes := congrArg Waiter.flushes (Option.some.inj same)
    simp [alone] at flushes
  | draining opened =>
    dsimp only at same
    split at same
    · rw [waiter] at same
      have flushes := congrArg Waiter.flushes (Option.some.inj same)
      simp [alone] at flushes
    · rw [waiter] at same
      have flushes := congrArg Waiter.flushes (Option.some.inj same)
      simp [alone] at flushes
  | holding opened text =>
    dsimp only at same
    have after : some ({ w with flushes := w.flushes.set 0 (.draining opened) } : Waiter) =
        some w := by
      split at same
      · rwa [kept, waiter] at same
      · rwa [waiter] at same
    have flushes := congrArg Waiter.flushes (Option.some.inj after)
    simp [alone] at flushes

private theorem Account.settled_idle (h : Account line w events given) (settled : line.IsSettled)
    (late : line.phase ≠ .connecting) : w.flushes = [] ∧ w.queue = [] := by
  cases flushing : w.flushing with
  | false => exact h.resting flushing
  | true =>
    obtain ⟨flush, alone⟩ := h.flushing flushing
    have found : line.waiters[0]? = some w := by simp [h.waiter]
    exact absurd (settled (.flush 0 0) rfl) (flush_goesOn late found alone)

theorem accepted_of_settled (settled : line.IsSettled) (isOpen : line.phase = .open) :
    line.accepted = [] := by
  cases accepted : line.accepted with
  | nil => rfl
  | cons text rest =>
    have still := congrArg Prod.fst (settled .write rfl)
    simp only [step, isOpen, accepted] at still
    split at still
    · have shorter := congrArg Line.accepted still
      simp [accepted] at shorter
    · have closed := congrArg Line.phase still
      simp [finish, isOpen] at closed

private theorem Account.queued (h : Account line w events given) :
    line.queued 0 = w.queue.length := by
  simp [Line.queued, h.waiter]

private theorem Account.queue_early (h : Account line w events given)
    (early : line.phase = .connecting) : handedTexts events = [] ∧ w.queue = given := by
  obtain ⟨nothing, empty, awaiting⟩ := h.waiting early
  have inHand : w.inHand = [] := by
    refine List.filterMap_eq_nil_iff.mpr fun flush member => ?_
    rw [awaiting flush member]
    rfl
  have whole := h.conserved (by simp [early])
  rw [nothing, empty, inHand] at whole
  exact ⟨nothing, by simpa using whole⟩

/-- An open line at rest has handed over all that was given to its waiter. -/
private theorem Account.handed_settled (h : Account line w events given)
    (settled : line.IsSettled) (isOpen : line.phase = .open) :
    w.queue = [] ∧ handedTexts events = given := by
  obtain ⟨noFlush, noQueue⟩ := h.settled_idle settled (by simp [isOpen])
  have whole := h.conserved (by simp [isOpen])
  rw [accepted_of_settled settled isOpen, Waiter.inHand, noFlush, noQueue] at whole
  exact ⟨noQueue, by simpa using whole⟩

/-- However the steps of a line, of its flush, of its callers and of the world outside interleave:
a waiter is flushing exactly while it has one flush, it never has two, and nothing queues in it
without one. The tasks come to rest after so many steps by themselves. At rest, a line that is
connecting still has every text in its queue; one that is open has written them all; and the queue
of one that has closed is empty, and will be empty again after every further text, of which none is
written. -/
theorem none_stranded (setup : LineSetup) (signals : List Signal)
    (deferred : ∀ text, .send text ∉ signals) :
    let start : Line := { setup }
    let line := (start.run signals).1
    let events := (start.run signals).2
    (∃ w, line.waiters = [w] ∧ (w.flushing = true ↔ w.flushes.length = 1) ∧
      w.flushes.length ≤ 1 ∧ (w.queue ≠ [] → w.flushing = true)) ∧
    (∀ steps, line.Works steps → steps.length ≤ line.labor) ∧
    (line.IsSettled →
      (line.phase = .connecting →
        handedTexts events = [] ∧ line.queued 0 = (start.givenIn signals).length) ∧
      (line.phase = .open → line.queued 0 = 0 ∧ writtenTexts events = start.givenIn signals) ∧
      (line.phase = .closed → line.queued 0 = 0 ∧ ∀ text steps,
        (∀ step ∈ steps, step.isTaskStep = true) →
        let again := line.run (.defer 0 text :: steps)
        handedTexts again.2 = [] ∧ (∀ more, again.1.Works more → more.length ≤ again.1.labor) ∧
          (again.1.IsSettled → again.1.queued 0 = 0))) := by
  intro start line events
  obtain ⟨w, account⟩ := (account_new setup).run signals deferred
  simp only [List.nil_append] at account
  refine ⟨⟨w, account.waiter, ?_, ?_, ?_⟩, fun steps works => works.length_le, fun settled =>
    ⟨fun early => ?_, fun isOpen => ?_, fun closed => ⟨?_, ?_⟩⟩⟩
  · cases flushing : w.flushing with
    | false => simp [(account.resting flushing).1]
    | true =>
      obtain ⟨flush, alone⟩ := account.flushing flushing
      simp [alone]
  · cases flushing : w.flushing with
    | false => simp [(account.resting flushing).1]
    | true =>
      obtain ⟨flush, alone⟩ := account.flushing flushing
      simp [alone]
  · intro queues
    by_contra idle
    exact queues (account.resting (by simpa using idle)).2
  · obtain ⟨nothing, queue⟩ := account.queue_early early
    exact ⟨nothing, by rw [account.queued, queue]⟩
  · obtain ⟨noQueue, handed⟩ := account.handed_settled settled isOpen
    have alive : (start.run signals).1.phase ≠ .closed := by
      rw [show (start.run signals).1.phase = .open from isOpen]
      nofun
    refine ⟨by rw [account.queued, noQueue]; rfl, ?_⟩
    rw [← handedTexts_eq_written fun text member => Bool.noConfusion ((run_alive alive).2 _ member)]
    exact handed
  · have late : (start.run signals).1.phase ≠ .connecting := by
      rw [show (start.run signals).1.phase = .closed from closed]
      nofun
    rw [account.queued, (account.settled_idle settled late).2]
    rfl
  · intro text steps own again
    have after := (run_closed closed (.defer 0 text :: steps)).1
    refine ⟨handedTexts_late closed _, fun more works => works.length_le, fun settled' => ?_⟩
    obtain ⟨v, account'⟩ := account.run (.defer 0 text :: steps) fun sent member => by
      rcases List.mem_cons.mp member with same | member
      · cases same
      · exact absurd (own _ member) (by simp [Signal.isTaskStep])
    have late : again.1.phase ≠ .connecting := by
      rw [show again.1.phase = .closed from after]
      nofun
    rw [account'.queued, (account'.settled_idle settled' late).2]
    rfl

/-- A text is given just before the flush finds the queue empty, and is written like the others. -/
theorem none_stranded_late :
    let start : Line := { setup := ⟨"ws://host", none, true, true⟩ }
    let signals : List Signal := [.defer 0 "a", .established, .flush 0 0, .flush 0 0, .flush 0 0,
      .defer 0 "b", .flush 0 0, .flush 0 0, .write, .flush 0 0, .write]
    (∀ text, .send text ∉ signals) ∧ (start.run signals).1.phase = .open ∧
      (start.run signals).1.IsSettled ∧ (start.run signals).1.queued 0 = 0 ∧
      writtenTexts (start.run signals).2 = ["a", "b"] := by
  intro start signals
  have deferred : ∀ text, .send text ∉ signals := by simp [signals]
  have settled : (start.run signals).1.IsSettled := by
    intro signal own
    cases signal with
    | write => rfl
    | notice => rfl
    | abandon => rfl
    | flush i place =>
      cases i with
      | zero => rfl
      | succ i => rfl
    | _ => cases own
  obtain ⟨-, -, rest⟩ := none_stranded start.setup signals deferred
  obtain ⟨queued, written⟩ := (rest settled).2.1 rfl
  exact ⟨deferred, rfl, settled, queued, written.trans (by decide)⟩

end Line

end Switchboard
