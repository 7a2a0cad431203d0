import Switchboard.Proofs.Connection.Settling
import Switchboard.Proofs.Connection.Waiters
/-!
A line that nobody is left to use. Its task closes it then, but not before all that had been given
to its waiters was written: a flush holds a handle of its own, so that the line is not abandoned
while a text still queues.

The custody of a line carries this through every step until it closes. A trail says which texts have
come to the line, and from where; the texts of a waiter are on the trail, in the hand of its flush
or in its queue, in this order.
-/

set_option autoImplicit false
set_option relaxedAutoImplicit false

namespace Switchboard

/-- Signals that neither ask for a line to be closed nor end it from outside. -/
def Signal.isPeaceful : Signal → Bool
  | .close | .refused _ | .timedOut _ | .setFault (some _) => false
  | .received (.close ..) | .received (.broken _) | .received .ended => false
  | _ => true

/-- The texts on a trail that came from one source: from a waiter, or past all of them. -/
def textsFrom (source : Option Nat) (trail : List (Option Nat × String)) : List String :=
  (trail.filter fun entry => entry.1 = source).map Prod.snd

private theorem textsFrom_append (source : Option Nat) (trail more : List (Option Nat × String)) :
    textsFrom source (trail ++ more) = textsFrom source trail ++ textsFrom source more := by
  simp [textsFrom]

private theorem textsFrom_own (source : Option Nat) (texts : List String) :
    textsFrom source (texts.map (source, ·)) = texts := by
  induction texts with
  | nil => rfl
  | cons text rest ih => simpa [textsFrom] using ih

private theorem textsFrom_other {source other : Option Nat} (h : other ≠ source)
    (texts : List String) : textsFrom source (texts.map (other, ·)) = [] := by
  simp [textsFrom, h]

namespace Line

structure IsForsaken (line : Line) : Prop where
  handles : line.handles = 0
  waiters : ∀ w ∈ line.waiters, w.handles = 0

/-- Nor is there anything left to be passed on or written. -/
structure IsDeserted (line : Line) : Prop extends IsForsaken line where
  accepted : line.accepted = []
  passedOn : ∀ w ∈ line.waiters, w.flushes = [] ∧ w.queue = []

/-- Where the texts are that were given to the waiters of a line, or past them. -/
structure Custody (line : Line) (handed : List String) (trail : List (Option Nat × String))
    (given : Option Nat → List String) : Prop where
  whole : trail.map Prod.snd = handed ++ line.accepted
  direct : textsFrom none trail = given none
  waiting : ∀ i w, line.waiters[i]? = some w →
    textsFrom (some i) trail ++ w.inHand ++ w.queue = given (some i)
  nobody : ∀ i, line.waiters[i]? = none → textsFrom (some i) trail = given (some i)

variable {line : Line} {handed : List String} {trail : List (Option Nat × String)}
  {given : Option Nat → List String}

/-- Every step keeps custody, unless the line closes in it. -/
theorem Custody.step (h : line.Custody handed trail given) (orderly : line.IsOrderly)
    {signal : Signal} (alive : (line.step signal).1.phase ≠ .closed) :
    ∃ trail', (line.step signal).1.Custody (handed ++ handedTexts (line.step signal).2) trail'
      fun source => given source ++ line.givenTo source signal := by
  cases line.step_transit signal with
  | apart keeps waiters nothing kept =>
    refine ⟨trail ++ (line.givenTo none signal).map (none, ·), ?_, ?_, ?_, ?_⟩
    · rw [List.append_assoc, kept alive, List.map_append, h.whole]
      simp [Function.comp_def]
    · rw [textsFrom_append, textsFrom_own, h.direct]
    · intro i w found
      rw [waiters] at found
      rw [textsFrom_append, textsFrom_other (by simp), nothing i, List.append_nil, List.append_nil]
      exact h.waiting i w found
    · intro i absent
      rw [waiters] at absent
      rw [textsFrom_append, textsFrom_other (by simp), nothing i, List.append_nil, List.append_nil]
      exact h.nobody i absent
  | @turns i w v texts passed found turn same silent whose =>
    refine ⟨trail ++ passed.map (some i, ·), ?_, ?_, ?_, ?_⟩
    · rw [silent, same, List.map_append, h.whole]
      simp [Function.comp_def]
    · rw [textsFrom_append, textsFrom_other (by simp), whose, if_neg (by simp), h.direct]
    · intro j u there
      rw [same] at there
      by_cases here : j = i
      · subst here
        obtain rfl : v = u := by
          have inRange := (List.getElem?_eq_some_iff.mp found).1
          simpa [inRange] using there
        -- what the waiter passes on goes to the trail, the rest stays with it
        have conserved :=
          turn.conserves (orderly w (List.mem_of_getElem? found)) (step_alive alive).1
        rw [textsFrom_append, textsFrom_own, whose, if_pos rfl, ← h.waiting j w found]
        simp only [List.append_assoc] at conserved ⊢
        rw [conserved]
      · have other : some i ≠ some j := fun eq => here (Option.some.inj eq).symm
        rw [List.getElem?_set_ne (Ne.symm here)] at there
        rw [textsFrom_append, textsFrom_other other, whose, if_neg (Ne.symm other),
          List.append_nil, List.append_nil]
        exact h.waiting j u there
    · intro j absent
      have other : some i ≠ some j := by
        rintro ⟨⟩
        rw [same] at absent
        have inRange := (List.getElem?_eq_some_iff.mp found).1
        simp [inRange] at absent
      rw [same] at absent
      have before : line.waiters[j]? = none := by simpa using absent
      rw [textsFrom_append, textsFrom_other other, whose, if_neg (Ne.symm other), List.append_nil,
        List.append_nil]
      exact h.nobody j before

theorem Custody.run (h : line.Custody handed trail given) (orderly : line.IsOrderly)
    {signals : List Signal} (alive : (line.run signals).1.phase ≠ .closed) :
    ∃ trail', (line.run signals).1.Custody (handed ++ handedTexts (line.run signals).2) trail'
      fun source => given source ++ line.givenToIn source signals := by
  induction signals generalizing line handed trail given with
  | nil => exact ⟨trail, by simpa [Line.run, givenToIn, handedTexts] using h⟩
  | cons signal rest ih =>
    have last : ((line.step signal).1.run rest).1.phase ≠ .closed := alive
    obtain ⟨between, next⟩ := h.step orderly (run_alive last).1
    obtain ⟨trail', last⟩ := ih next (orderly.step signal) last
    refine ⟨trail', ?_⟩
    simpa only [Line.run, givenToIn, handedTexts, List.filterMap_append, List.append_assoc]
      using last

/-! A line that is forsaken stays so, and nothing more is given to it. -/

theorem IsForsaken.step (h : line.IsForsaken) (signal : Signal) :
    (line.step signal).1.IsForsaken := by
  refine ⟨(line.step_keeps signal).unused h.handles, fun u member => ?_⟩
  cases line.step_transit signal with
  | apart keeps waiters =>
    rw [waiters] at member
    exact h.waiters u member
  | turns i found turn same =>
    rw [same] at member
    rcases List.mem_or_eq_of_mem_set member with old | rfl
    · exact h.waiters u old
    · exact turn.unused (h.waiters _ (List.mem_of_getElem? found))

theorem IsForsaken.run (h : line.IsForsaken) (signals : List Signal) :
    (line.run signals).1.IsForsaken := by
  induction signals generalizing line with
  | nil => exact h
  | cons signal rest ih => exact ih (h.step signal)

private theorem IsForsaken.givenTo (h : line.IsForsaken) (source : Option Nat) (signal : Signal) :
    line.givenTo source signal = [] := by
  cases signal with
  | send text => simp [Line.givenTo, h.handles]
  | defer i text =>
    simp only [Line.givenTo, Line.given]
    split
    · split
      · rename_i w found
        rw [if_pos (h.waiters w (List.mem_of_getElem? found))]
      · rfl
    · rfl
  | _ => rfl

private theorem IsForsaken.givenToIn (h : line.IsForsaken) (source : Option Nat)
    (signals : List Signal) : line.givenToIn source signals = [] := by
  induction signals generalizing line with
  | nil => rfl
  | cons signal rest ih => rw [Line.givenToIn, h.givenTo, ih (h.step signal), List.append_nil]

private theorem givenToIn_append (line : Line) (source : Option Nat) (signals later : List Signal) :
    line.givenToIn source (signals ++ later) =
      line.givenToIn source signals ++ (line.run signals).1.givenToIn source later := by
  induction signals generalizing line with
  | nil => rfl
  | cons signal rest ih => simp only [List.cons_append, givenToIn, ih, Line.run, List.append_assoc]

/-- When a line is deserted, all that was given is on the trail, and all of the trail was handed
over. -/
private theorem Custody.delivered (h : line.Custody handed trail given) (left : line.IsDeserted) :
    trail.map Prod.snd = handed ∧ ∀ source, textsFrom source trail = given source := by
  refine ⟨by rw [h.whole, left.accepted, List.append_nil], fun source => ?_⟩
  cases source with
  | none => exact h.direct
  | some i =>
    cases found : line.waiters[i]? with
    | none => exact h.nobody i found
    | some w =>
      have all := h.waiting i w found
      obtain ⟨noFlush, noQueue⟩ := left.passedOn w (List.mem_of_getElem? found)
      simpa [Waiter.inHand, noFlush, noQueue] using all

private theorem IsOrderly.deserted (orderly : line.IsOrderly) (unused : line.isAbandoned = true)
    (written : line.accepted = []) : line.IsDeserted := by
  simp only [isAbandoned, decide_eq_true_eq, List.all_eq_true] at unused
  obtain ⟨handles, waiters⟩ := unused
  have holds : ∀ w ∈ line.waiters, w.handles = 0 ∧ w.flushes = [] := fun w member =>
    (Nat.add_eq_zero_iff.mp (waiters w member)).imp_right List.length_eq_zero_iff.mp
  refine ⟨⟨handles, fun w member => (holds w member).1⟩, written,
    fun w member => ⟨(holds w member).2, ?_⟩⟩
  cases flushing : w.flushing with
  | false => exact ((orderly w member).resting flushing).2
  | true =>
    obtain ⟨flush, one⟩ := (orderly w member).flushing flushing
    simp [(holds w member).2] at one

/-! A run in which nobody asks for the end of a line, and nothing outside brings it about. -/

private structure IsSerene (line : Line) : Prop where
  unasked : line.closing = false
  intact : line.fault = none

private theorem IsSerene.step (h : line.IsSerene) {signal : Signal}
    (peaceful : signal.isPeaceful = true) : (line.step signal).1.IsSerene := by
  have keeps := line.step_keeps signal
  refine ⟨(keeps.closing ?_).trans h.unasked, ?_⟩
  · rintro rfl
    cases peaceful
  · by_cases sets : ∃ fault, signal = .setFault fault
    · obtain ⟨fault, rfl⟩ := sets
      cases fault with
      | none => rfl
      | some detail => cases peaceful
    · exact (keeps.fault fun fault same => sets ⟨fault, same⟩).trans h.intact

private theorem IsSerene.run (h : line.IsSerene) {signals : List Signal}
    (peaceful : ∀ signal ∈ signals, signal.isPeaceful = true) :
    (line.run signals).1.IsSerene := by
  induction signals generalizing line with
  | nil => exact h
  | cons signal rest ih =>
    exact ih (h.step (peaceful signal List.mem_cons_self))
      fun s member => peaceful s (List.mem_cons_of_mem _ member)

/-- Nothing but being abandoned ends a line in peace. -/
private theorem IsSerene.ends (h : line.IsSerene) {signal : Signal}
    (peaceful : signal.isPeaceful = true) (alive : line.phase ≠ .closed)
    (closed : (line.step signal).1.phase = .closed) :
    signal = .abandon ∧ line.phase = .open ∧ line.accepted = [] ∧ line.isAbandoned = true := by
  cases line.step_stride signal with
  | stays setup phase => exact absurd (phase.symm.trans closed) alive
  | opens setup begun early isOpen => simp [closed] at isOpen
  | ends setup reason last cause =>
    cases cause with
    | abandoned isOpen written unused => exact ⟨rfl, isOpen, written, unused⟩
    | cancelled early asked => simp [h.unasked] at asked
    | requested isOpen asked => simp [h.unasked] at asked
    | writeFailed isOpen accepted detail refuses => simp [h.intact] at refuses
    | _ => cases peaceful

private theorem abandon_told (isOpen : line.phase = .open) (written : line.accepted = [])
    (unused : line.isAbandoned = true) (intact : line.fault = none) :
    ∃ more, (line.step .abandon).2 =
        .wroteClose :: .closed ⟨some 1000, "all handles dropped"⟩ :: more ∧
      writtenTexts more = [] := by
  refine ⟨if line.setup.onClose then [.notified ⟨some 1000, "all handles dropped"⟩] else [],
    ?_, ?_⟩
  · simp [Line.step, isOpen, written, unused, finishPolitely, finish, endingEvents, writable,
      intact, Ending.closeReason, normalCloseCode]
  · split <;> rfl

theorem IsOrderly.settled_idle (orderly : line.IsOrderly) (settled : line.IsSettled)
    (late : line.phase ≠ .connecting) {w : Waiter} (member : w ∈ line.waiters) :
    w.flushes = [] ∧ w.queue = [] := by
  cases flushing : w.flushing with
  | false => exact (orderly w member).resting flushing
  | true =>
    obtain ⟨flush, alone⟩ := (orderly w member).flushing flushing
    obtain ⟨i, found⟩ := List.mem_iff_getElem?.mp member
    exact absurd (settled (.flush i 0) rfl) (flush_goesOn late found alone)

theorem IsOrderly.queued_settled (orderly : line.IsOrderly) (settled : line.IsSettled)
    (late : line.phase ≠ .connecting) (i : Nat) : line.queued i = 0 := by
  unfold queued
  split
  · rename_i w found
    rw [(orderly.settled_idle settled late (List.mem_of_getElem? found)).2]
    rfl
  · rfl

private theorem IsForsaken.closed_of_settled (h : line.IsForsaken) (orderly : line.IsOrderly)
    (settled : line.IsSettled) (late : line.phase ≠ .connecting) : line.phase = .closed := by
  have unused : line.isAbandoned = true := by
    simp only [isAbandoned, decide_eq_true_eq, List.all_eq_true]
    exact ⟨h.handles, fun w member => by
      simp [Waiter.holds, h.waiters w member, (orderly.settled_idle settled late member).1]⟩
  cases phase : line.phase with
  | connecting => exact absurd phase late
  | «open» =>
    have still := congrArg (fun out => out.1.phase) (settled .abandon rfl)
    simp [Line.step, phase, accepted_of_settled settled phase, unused, finishPolitely, finish]
      at still
  | closed => rfl

private theorem late_step (late : line.phase ≠ .connecting) (signal : Signal) :
    (line.step signal).1.phase ≠ .connecting := by
  cases line.step_stride signal with
  | stays setup phase => rwa [phase]
  | opens setup begun early => exact absurd early late
  | ends setup reason last cause closed => simp [closed]

private theorem late_run (late : line.phase ≠ .connecting) (signals : List Signal) :
    (line.run signals).1.phase ≠ .connecting := by
  induction signals generalizing line with
  | nil => exact late
  | cons signal rest ih => exact ih (late_step late signal)

private theorem late_of_established {signals : List Signal} (begun : .established ∈ signals) :
    (line.run signals).1.phase ≠ .connecting := by
  obtain ⟨before, after, rfl⟩ := List.append_of_mem begun
  have now : ((line.run before).1.step .established).1.phase ≠ .connecting := by
    simp only [Line.step]
    split
    · simp
    · assumption
  rw [run_append]
  exact late_run now after

private theorem isOrderly_new (setup : LineSetup) (handles : Nat) (shares : List Nat) :
    IsOrderly { setup, handles, waiters := shares.map fun share => { handles := share } } := by
  intro w member
  obtain ⟨share, -, rfl⟩ := List.mem_map.mp member
  exact {
    flushing := fun busy => by simp at busy
    resting := fun _ => ⟨rfl, rfl⟩
    waiting := fun _ => by simp
    hopeful := fun _ => by simp }

private theorem custody_new (setup : LineSetup) (handles : Nat) (shares : List Nat) :
    Custody { setup, handles, waiters := shares.map fun share => { handles := share } } [] []
      fun _ => [] where
  whole := rfl
  direct := rfl
  waiting i w found := by
    obtain ⟨share, -, rfl⟩ := List.mem_map.mp (List.mem_of_getElem? found)
    rfl
  nobody _ _ := rfl

/-- However the steps of a line that nobody asks to close interleave with those of its waiters, of
its callers and of the world outside, which takes all that is written: if the line has closed, then
it was the task that found no handle, no flush and no text left; what was written by then is just
what was given, to each waiter and past them, each text once and in order; a close frame follows,
and nothing is written any more. And if all handles are dropped, whenever that is, the tasks of a
line whose handshake succeeds come to rest by themselves, and the line has closed then. -/
theorem written_before_abandoned (setup : LineSetup) (handles : Nat) (shares : List Nat)
    (signals : List Signal) (peaceful : ∀ signal ∈ signals, signal.isPeaceful = true) :
    let start : Line := { setup, handles, waiters := shares.map fun share => { handles := share } }
    let line := (start.run signals).1
    (∀ before signal after, signals = before ++ signal :: after →
      (start.run before).1.phase ≠ .closed →
      ((start.run before).1.step signal).1.phase = .closed →
        signal = .abandon ∧ (start.run before).1.IsDeserted) ∧
    (line.phase = .closed → ∃ told later trail,
      (start.run signals).2 =
        told ++ .wroteClose :: .closed ⟨some 1000, "all handles dropped"⟩ :: later ∧
      trail.map Prod.snd = writtenTexts told ∧ writtenTexts later = [] ∧
      ∀ source, textsFrom source trail = start.givenToIn source signals) ∧
    (.established ∈ signals → line.IsForsaken →
      (∃ steps, line.Works steps ∧ (line.run steps).1.IsSettled) ∧
      ∀ steps, line.Works steps → steps.length ≤ line.labor ∧
        ((line.run steps).1.IsSettled → (line.run steps).1.phase = .closed)) := by
  intro start line
  have orderly : start.IsOrderly := isOrderly_new setup handles shares
  have serene {before after : List Signal} {signal : Signal}
      (split : signals = before ++ signal :: after) : (start.run before).1.IsSerene :=
    IsSerene.run ⟨rfl, rfl⟩ fun s member => peaceful s (by simp [split, member])
  have ended : ∀ before signal after, signals = before ++ signal :: after →
      (start.run before).1.phase ≠ .closed →
      ((start.run before).1.step signal).1.phase = .closed →
        signal = .abandon ∧ (start.run before).1.phase = .open ∧
          (start.run before).1.isAbandoned = true ∧ (start.run before).1.IsDeserted := by
    intro before signal after split alive closed
    obtain ⟨abandons, isOpen, written, unused⟩ :=
      (serene split).ends (peaceful signal (by simp [split])) alive closed
    exact ⟨abandons, isOpen, unused, (orderly.run before).deserted unused written⟩
  refine ⟨fun before signal after split alive closed => ?_, fun closed => ?_,
    fun begun forsaken => ⟨line.exists_settled, fun steps works => ⟨works.length_le, fun settled =>
      ?_⟩⟩⟩
  · obtain ⟨abandons, -, -, deserted⟩ := ended before signal after split alive closed
    exact ⟨abandons, deserted⟩
  · obtain ⟨before, signal, after, split, alive, closes⟩ := exists_end (by simp [start]) closed
    obtain ⟨rfl, isOpen, unused, deserted⟩ := ended before signal after split alive closes
    obtain ⟨more, told, silent⟩ :=
      abandon_told isOpen deserted.accepted unused (serene split).intact
    obtain ⟨trail, kept⟩ := (custody_new setup handles shares).run orderly alive
    obtain ⟨whole, each⟩ := kept.delivered deserted
    refine ⟨(start.run before).2,
      more ++ (((start.run before).1.step .abandon).1.run after).2, trail, ?_, ?_, ?_, ?_⟩
    · rw [split, run_append]
      simp only [Line.run, told, List.cons_append]
    · rw [whole, List.nil_append]
      exact handedTexts_eq_written fun text member =>
        Bool.noConfusion ((run_alive alive).2 _ member)
    · rw [writtenTexts, List.filterMap_append]
      exact List.append_eq_nil_iff.mpr ⟨silent, writtenTexts_late closes after⟩
    · intro source
      have nothing := deserted.toIsForsaken.givenToIn source (.abandon :: after)
      rw [split, givenToIn_append, nothing, List.append_nil, each, List.nil_append]
  · exact (forsaken.run steps).closed_of_settled ((orderly.run signals).run steps) settled
      (late_run (late_of_established begun) steps)

/-- All handles are dropped while the line is connecting and three texts queue in two waiters. -/
theorem written_before_abandoned_early :
    let start : Line :=
      { setup := ⟨"ws://host", none, false, false⟩
        waiters := [1, 1].map fun share => { handles := share } }
    let signals : List Signal := [.connect, .defer 0 "a", .defer 1 "x", .defer 0 "b", .release,
      .releaseWaiter 0, .releaseWaiter 1, .abandon, .established, .flush 1 0, .flush 0 0,
      .flush 1 0, .flush 0 0, .flush 1 0, .flush 0 0, .abandon, .write, .flush 0 0, .write,
      .flush 1 0, .flush 0 0, .abandon, .write, .flush 0 0, .abandon]
    (start.run (signals.take 8)).1.queued 0 = 2 ∧
      (start.run signals).2.getLast? = some (.closed ⟨some 1000, "all handles dropped"⟩) ∧
      writtenTexts (start.run signals).2 = ["x", "a", "b"] ∧
      ∃ told later trail, (start.run signals).2 =
          told ++ .wroteClose :: .closed ⟨some 1000, "all handles dropped"⟩ :: later ∧
        trail.map Prod.snd = writtenTexts told ∧ writtenTexts later = [] ∧
        ∀ source, textsFrom source trail = start.givenToIn source signals := by
  intro start signals
  have outcome := written_before_abandoned start.setup 1 [1, 1] signals (by decide)
  exact ⟨by decide +kernel, by decide +kernel, by decide +kernel, outcome.2.1 (by decide +kernel)⟩

end Line

end Switchboard
