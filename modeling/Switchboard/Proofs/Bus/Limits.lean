import Switchboard.Proofs.Bus.Tame
import Switchboard.Proofs.Connection.Waiters
/-!
What a bus undergoes from within: the steps of programs and callbacks, one by one, and whatever is
done to conversations. The line stays in its phase meanwhile and is asked to close by a program at
most; and where no callback keeps the bus in use, nothing but its strong handles does.
-/

set_option autoImplicit false
set_option relaxedAutoImplicit false

namespace Switchboard

variable {ν : Type}

structure Thread (ν : Type) where
  depth : Nat := 0
  activity : Activity ν := .ended none
  waiting : List (Waiting ν) := []

namespace Thread

def on (t : Thread ν) (b : Bus ν) : Machine ν Trunk := ⟨b, t.depth, t.activity, t.waiting⟩

def ofMachine (m : Machine ν Trunk) : Thread ν := ⟨m.depth, m.activity, m.waiting⟩

def isIdle (t : Thread ν) : Bool :=
  match t.activity, t.waiting with
  | .ended _, [] => true
  | _, _ => false

end Thread

section Programs

variable (dispatches owns : Prop)

/-- A program that calls for dispatches only if it `dispatches`, and makes subscriptions that keep
the outlet in use only if it `owns`; so it is with the callbacks that it subscribes. -/
def Program.IsLimited : Program ν → Prop
  | .done _ | .panic => True
  | .note _ next | .print _ next | .send _ _ next | .close next => next.IsLimited
  | .reread next => ∀ notes, (next notes).IsLimited
  | .subscribe _ _ owner run next =>
    (owner = true → owns) ∧ (∀ id reply, (run id reply).IsLimited) ∧ ∀ id, (next id).IsLimited
  | .unsubscribe _ next | .contains _ next => ∀ live, (next live).IsLimited
  | .delivery _ next => ∀ delivery, (next delivery).IsLimited
  | .census next => ∀ size lastNumber, (next size lastNumber).IsLimited
  | .topicCount _ next => ∀ count, (next count).IsLimited
  | .dispatch _ next => dispatches ∧ ∀ count, (next count).IsLimited
  | .route _ next => dispatches ∧ ∀ outcome, (next outcome).IsLimited
  | .request _ _ run next => (∀ id reply, (run id reply).IsLimited) ∧ ∀ id, (next id).IsLimited

/-- A callback within the same limits; that of a conversation only fills its box. -/
def Callback.IsLimited : Callback ν → Prop
  | .program owner run =>
    (owner = true → owns) ∧ ∀ id reply, (run id reply).IsLimited dispatches owns
  | .box _ => True

/-- What a machine is at keeps the limits of its programs, and it serves only if it `serves`. -/
def Activity.IsLimited (serves : Prop) : Activity ν → Prop
  | .running program => program.IsLimited dispatches owns
  | .ended _ => True
  | .serving .. | .served _ => serves
  | .returning frames => frames = []

def Waiting.IsLimited (serves : Prop) : Waiting ν → Prop
  | .callback .. => serves
  | .dispatched next => ∀ count, (next count).IsLimited dispatches owns
  | .routed _ next => ∀ outcome, (next outcome).IsLimited dispatches owns
  | .returned _ => False
  | .published next => next.IsLimited dispatches owns

structure Thread.IsLimited (serves : Prop) (t : Thread ν) : Prop where
  activity : t.activity.IsLimited dispatches owns serves
  waiting : ∀ w ∈ t.waiting, w.IsLimited dispatches owns serves

end Programs

theorem Program.IsTame.isLimited {program : Program ν} (tame : program.IsTame) :
    program.IsLimited False True := by
  induction program with
  | done answer => trivial
  | panic => trivial
  | note entry next ih => exact ih tame
  | reread next ih => exact fun notes => ih notes (tame notes)
  | print text next ih => exact ih tame
  | subscribe topic delivery owner run next ihRun ihNext =>
    exact ⟨fun _ => trivial, fun id reply => ihRun id reply (tame.1 id reply),
      fun id => ihNext id (tame.2 id)⟩
  | unsubscribe id next ih => exact fun live => ih live (tame live)
  | contains id next ih => exact fun live => ih live (tame live)
  | delivery id next ih => exact fun delivery => ih delivery (tame delivery)
  | census next ih => exact fun size lastNumber => ih size lastNumber (tame size lastNumber)
  | topicCount topic next ih => exact fun count => ih count (tame count)
  | dispatch frame next ih => cases tame
  | route text next ih => cases tame
  | send topic message next ih => exact ih tame
  | request topic message run next ihRun ihNext =>
    exact ⟨fun id reply => ihRun id reply (tame.1 id reply), fun id => ihNext id (tame.2 id)⟩
  | close next ih => exact ih tame

namespace Bus

open Exchange

def IsLimited (dispatches owns : Prop) (b : Bus ν) : Prop :=
  ∀ id s, b.registry.get? id = some s → s.callback.IsLimited dispatches owns

/-- What a bus undergoes as long as its line stays in its phase. Callbacks start only if it
`starts` them. -/
structure Undergoes (dispatches owns starts : Prop) (b c : Bus ν) : Prop where
  phase : c.line.phase = b.line.phase
  orderly : b.line.IsOrderly → c.line.IsOrderly
  limited : b.IsLimited dispatches owns → c.IsLimited dispatches owns
  told : ∃ events, c.journal = b.journal ++ events ∧
    (b.line.phase = .closed → ∀ e ∈ events, Phase.closed.admits e = true) ∧
    (¬starts → ∀ id, repliesTo id events = [])

/-- No callback keeps a bus in use: it is there as long as a strong handle to it is, has a handle on
its line meanwhile, and has asked the line to close when it is gone. -/
structure IsHeld (b : Bus ν) : Prop where
  unowned : b.owners = 0
  alive : b.outlet.alive = true ↔ 0 < b.outlet.handles
  line : b.outlet.alive = true → 0 < b.line.handles
  closing : b.outlet.alive = false → b.line.closing = true

/-- What a bus undergoes from within: its handles are left alone, and its line is asked to close
only if something `closes` it. -/
structure Sustains (dispatches owns starts closes : Prop) (b c : Bus ν) : Prop extends
    Undergoes dispatches owns starts b c where
  held : ¬owns → b.IsHeld → c.IsHeld ∧ c.outlet.handles = b.outlet.handles ∧
    (c.line.closing = true ↔ b.line.closing = true ∨ closes)

variable {dispatches owns starts closes : Prop} {b c d : Bus ν}

/-! ### Stretches -/

theorem Undergoes.refl (b : Bus ν) : Undergoes dispatches owns starts b b :=
  ⟨rfl, id, id, [], (List.append_nil _).symm, fun _ => List.forall_mem_nil _, fun _ _ => rfl⟩

theorem Undergoes.trans (first : Undergoes dispatches owns starts b c)
    (later : Undergoes dispatches owns starts c d) : Undergoes dispatches owns starts b d := by
  obtain ⟨events, journal, admits, silent⟩ := first.told
  obtain ⟨events', journal', admits', silent'⟩ := later.told
  refine ⟨later.phase.trans first.phase, later.orderly ∘ first.orderly,
    later.limited ∘ first.limited, events ++ events', ?_, fun closed e member => ?_,
    fun none id => ?_⟩
  · rw [journal', journal, List.append_assoc]
  · rcases List.mem_append.mp member with member | member
    · exact admits closed e member
    · exact admits' (first.phase.trans closed) e member
  · rw [repliesTo_append, silent none, silent' none, List.append_nil]

theorem Undergoes.mono {starts' : Prop} (h : Undergoes dispatches owns starts b c)
    (also : starts → starts') : Undergoes dispatches owns starts' b c := by
  obtain ⟨events, journal, admits, silent⟩ := h.told
  exact ⟨h.phase, h.orderly, h.limited, events, journal, admits, fun never => silent (never ∘ also)⟩

theorem Sustains.mono {starts' : Prop} (h : Sustains dispatches owns starts closes b c)
    (also : starts → starts') : Sustains dispatches owns starts' closes b c :=
  ⟨h.toUndergoes.mono also, h.held⟩

theorem Sustains.refl (b : Bus ν) : Sustains dispatches owns starts False b b :=
  ⟨.refl b, fun _ held => ⟨held, rfl, by rw [or_false]⟩⟩

theorem Sustains.trans (first : Sustains dispatches owns starts False b c)
    (later : Sustains dispatches owns starts False c d) :
    Sustains dispatches owns starts False b d := by
  refine ⟨first.toUndergoes.trans later.toUndergoes, fun unowned held => ?_⟩
  obtain ⟨held, handles, closing⟩ := first.held unowned held
  obtain ⟨held, handles', closing'⟩ := later.held unowned held
  exact ⟨held, handles'.trans handles, by rw [closing', closing, or_false]⟩

theorem Sustains.congr {closes' : Prop} (h : Sustains dispatches owns starts closes b c)
    (same : closes ↔ closes') : Sustains dispatches owns starts closes' b c :=
  ⟨h.toUndergoes, by simpa only [same] using h.held⟩

/-! ### Operations -/

theorem owners_eq_zero :
    b.owners = 0 ↔ b.ownersRunning = 0 ∧
      ∀ id s, b.registry.get? id = some s → s.callback.isOwner = false := by
  rw [owners, Nat.add_eq_zero_iff, List.countP_eq_zero]
  refine and_congr_right fun _ => ⟨fun none id s found => ?_, fun none entry member => ?_⟩
  · simpa using none (id, s) (Registry.get?_eq_some.mp found)
  · simpa using none entry.1 entry.2 (Registry.get?_eq_some.mpr member)

private theorem Sustains.beside {events : List Event} (outlet : c.outlet = b.outlet)
    (journal : c.journal = b.journal ++ events)
    (admits : ∀ e ∈ events, Phase.closed.admits e = true)
    (silent : ¬starts → ∀ id, repliesTo id events = [])
    (limited : b.IsLimited dispatches owns → c.IsLimited dispatches owns)
    (unowned : ¬owns → b.owners = 0 → c.owners = 0) :
    Sustains dispatches owns starts False b c where
  phase := by rw [line, line, outlet]
  orderly := by rw [line, line, outlet]; exact id
  limited := limited
  told := ⟨events, journal, fun _ => admits, silent⟩
  held none held := by
    refine ⟨⟨unowned none held.unowned, ?_, ?_, ?_⟩, ?_, ?_⟩
    · rw [outlet]
      exact held.alive
    · rw [line, outlet]
      exact held.line
    · rw [line, outlet]
      exact held.closing
    · rw [outlet]
    · rw [line, line, outlet, or_false]

private theorem Sustains.aside {events : List Event} (outlet : c.outlet = b.outlet)
    (journal : c.journal = b.journal ++ events)
    (admits : ∀ e ∈ events, Phase.closed.admits e = true)
    (silent : ∀ id, repliesTo id events = [])
    (registry : c.registry = b.registry) (running : c.ownersRunning ≤ b.ownersRunning) :
    Sustains dispatches owns starts False b c := by
  refine .beside outlet journal admits (fun _ => silent) ?_ fun _ => ?_
  · unfold IsLimited
    rw [registry]
    exact id
  · rw [owners_eq_zero, owners_eq_zero, registry]
    exact fun none => ⟨Nat.le_zero.mp (none.1 ▸ running), none.2⟩

private theorem Sustains.untold (outlet : c.outlet = b.outlet) (journal : c.journal = b.journal)
    (registry : c.registry = b.registry) (running : c.ownersRunning ≤ b.ownersRunning) :
    Sustains dispatches owns starts False b c :=
  .aside outlet (journal.trans (List.append_nil _).symm) (List.forall_mem_nil _) (fun _ => rfl)
    registry running

private theorem enter_sustains (b : Bus ν) {e : Event} (admits : Phase.closed.admits e = true)
    (quiet : e.isQuiet = true) : Sustains dispatches owns starts False b (b.enter [e]) :=
  .aside rfl rfl (by simpa using admits) (fun _ => repliesTo_quiet (by simpa using quiet)) rfl
    (Nat.le_refl _)

private theorem subscribe_sustains (b : Bus ν) (topic : String) (delivery : Delivery)
    {callback : Callback ν} (within : callback.IsLimited dispatches owns) :
    Sustains dispatches owns starts False b (b.subscribe ⟨topic, delivery, callback⟩) := by
  refine .beside rfl rfl (by simp [Phase.admits]) (fun _ _ => rfl) (fun limited id s found => ?_)
    fun none unowned => ?_
  · change (b.registry.insert _).get? id = some s at found
    rw [Registry.get?_insert] at found
    split at found
    · cases found
      exact within
    · exact limited id s found
  · rw [owners_eq_zero] at unowned ⊢
    refine ⟨unowned.1, fun id s found => ?_⟩
    change (b.registry.insert _).get? id = some s at found
    rw [Registry.get?_insert] at found
    split at found
    · cases found
      cases callback with
      | program owner run => exact Bool.eq_false_iff.mpr fun isOwner => none (within.1 isOwner)
      | box number => rfl
    · exact unowned.2 id s found

theorem signal_undergoes (b : Bus ν) {signal : Signal}
    (same : (b.line.step signal).1.phase = b.line.phase) :
    Undergoes dispatches owns starts b (b.signal signal) where
  phase := same
  orderly orderly := orderly.step signal
  limited := id
  told := ⟨(b.line.step signal).2, rfl,
    fun closed => (Line.step_closed closed signal).2,
    fun _ _ => repliesTo_quiet fun e member =>
      Event.isQuiet_of_isOutward (b.line.step_outward signal e member)⟩

theorem signal_held (b : Bus ν) {signal : Signal}
    (line : b.outlet.alive = true → 0 < (b.line.step signal).1.handles) (held : b.IsHeld) :
    (b.signal signal).IsHeld ∧ (b.signal signal).outlet.handles = b.outlet.handles ∧
      ((b.signal signal).line.closing = true ↔ b.line.closing = true ∨ signal = .close) := by
  have closing : (b.line.step signal).1.closing = true ↔
      b.line.closing = true ∨ signal = .close := by
    by_cases close : signal = .close
    · subst close
      simp only [or_true, iff_true, Line.step]
      split
      · rename_i unused
        refine held.closing (Bool.eq_false_iff.mpr fun alive => ?_)
        exact Nat.lt_irrefl 0 (unused ▸ held.line alive)
      · rfl
    · rw [(b.line.step_keeps signal).closing close, or_iff_left close]
  exact ⟨⟨held.unowned, held.alive, line, fun gone => closing.mpr (.inl (held.closing gone))⟩, rfl,
    closing⟩

theorem signal_sustains (b : Bus ν) {signal : Signal} (steady : signal.isSteady = true)
    (retain : signal ≠ .retain) (release : signal ≠ .release) :
    Sustains dispatches owns starts (signal = .close) b (b.signal signal) :=
  ⟨b.signal_undergoes (b.line.step_phase steady), fun _ held => b.signal_held (fun alive =>
    Nat.lt_of_lt_of_eq (held.line alive)
      ((b.line.step_keeps signal).handles retain release).symm) held⟩

private theorem emit_sustains (b : Bus ν) (frame : Frame) :
    Sustains dispatches owns starts False b (b.emit frame).1 := by
  have published : Sustains dispatches owns starts False b (b.enter [.published frame]) :=
    b.enter_sustains rfl rfl
  have same : (b.emit frame).1 =
      Bus.signal (b.enter [.published frame]) (.defer 0 frame.toText) := by
    simp [emit, enter, Outlet.publish, Bus.signal]
  rw [same]
  have deferred : Sustains dispatches owns starts (Signal.defer 0 frame.toText = .close) _ _ :=
    signal_sustains (b.enter [.published frame]) rfl (by simp) (by simp)
  exact published.trans (deferred.congr (by simp))

theorem close_eq (b : Bus ν) : b.close = b.signal .close := by
  have silent : (b.line.step .close).2 = [] := by
    simp only [Line.step]
    split <;> rfl
  change _ = ({ b with outlet := (b.outlet.signal .close).1 }.enter (b.line.step .close).2)
  simp [silent, Exchange.close, enter, Outlet.close]

private theorem disownFree_undergoes (b : Bus ν) :
    Undergoes dispatches owns starts b b.disownFree := by
  unfold disownFree
  split
  · simp only [Outlet.disown, Trunk.expire]
    split
    · -- the line is asked to close, which leaves it in its phase for now
      refine ⟨?_, fun orderly => orderly.run _, id, _, rfl, fun _ => ?_, fun _ _ => rfl⟩
      · simp only [line, enter, Line.run]
        rw [Line.step_phase _ rfl, Line.step_phase _ rfl, Line.step_phase _ rfl]
      · simp [Phase.admits]
    · exact ⟨rfl, id, id, [], rfl, fun _ => List.forall_mem_nil _, fun _ _ => rfl⟩
  · exact .refl b

private theorem counted_undergoes (b : Bus ν) (handles : Nat) :
    Undergoes dispatches owns starts b { b with outlet := { b.outlet with handles } } :=
  ⟨rfl, id, id, [], (List.append_nil _).symm, fun _ => List.forall_mem_nil _, fun _ _ => rfl⟩

theorem retain_undergoes (b : Bus ν) : Undergoes dispatches owns starts b (Bus.retain b) := by
  unfold Bus.retain
  split
  · exact b.counted_undergoes _
  · exact .refl b

theorem release_undergoes (b : Bus ν) : Undergoes dispatches owns starts b (Bus.release b) :=
  (b.counted_undergoes _).trans (disownFree_undergoes _)

private theorem disownFree_sustains (b : Bus ν) :
    Sustains dispatches owns starts False b b.disownFree := by
  refine ⟨b.disownFree_undergoes, fun _ held => ?_⟩
  have kept : ¬(b.outlet.alive = true ∧ b.outlet.handles = 0) := fun gone =>
    Nat.lt_irrefl 0 (gone.2 ▸ held.alive.mp gone.1)
  have same : b.disownFree = b.enter [] := by
    simp only [disownFree, Outlet.disown, Trunk.expire, if_neg kept]
    split
    · rfl
    · simp [enter]
  rw [same]
  exact ⟨⟨held.unowned, held.alive, held.line, held.closing⟩, rfl, by rw [or_false]; rfl⟩

private theorem unsubscribe_sustains (b : Bus ν) (id : SubscriptionId) :
    Sustains dispatches owns starts False b (b.unsubscribe id) := by
  unfold unsubscribe
  split
  · have erased : Sustains dispatches owns starts False b
        ({ b with registry := b.registry.erase id }.enter [.unsubscribed id]) := by
      refine .beside rfl rfl (by simp [Phase.admits]) (fun _ _ => rfl) ?_ fun _ => ?_
      · exact fun limited id s found => limited id s (Registry.get?_of_erase found).1
      · rw [owners_eq_zero, owners_eq_zero]
        exact fun none => ⟨none.1, fun id s found => none.2 id s (Registry.get?_of_erase found).1⟩
    exact erased.trans (disownFree_sustains _)
  · exact .refl b

private theorem dismiss_sustains (b : Bus ν) (callback : Callback ν) (id : SubscriptionId)
    (topic : String) (failed : Bool) :
    Sustains dispatches owns starts False b (b.dismiss callback id topic failed) := by
  have finished : Sustains dispatches owns starts False b (b.enter [.finished id]) :=
    .aside rfl rfl (by simp [Phase.admits]) (fun _ => rfl) rfl (Nat.le_refl _)
  have lighter : ∀ c : Bus ν, Sustains dispatches owns starts False c
      { c with ownersRunning := c.ownersRunning - callback.weight } := fun c =>
    .untold rfl rfl rfl (Nat.sub_le _ _)
  cases failed with
  | false => exact (finished.trans (lighter _)).trans (disownFree_sustains _)
  | true =>
    have panicked := finished.trans (enter_sustains _ (rfl : Phase.closed.admits
      (.panicked id topic) = true) rfl)
    exact (panicked.trans (lighter _)).trans (disownFree_sustains _)

private theorem commence_sustains (may : starts) {id : SubscriptionId}
    {s : Subscription (Callback ν)} {rest : Registry (Callback ν)}
    (taken : b.registry.take id = some (s, rest)) (reply : Reply) :
    Sustains dispatches owns starts False b
      ({ b with registry := rest }.commence s.callback id reply) := by
  refine .beside rfl rfl (by simp [Phase.admits]) (fun never => absurd may never) ?_
    fun _ unowned => ?_
  · exact fun limited other t found => limited other t (Registry.get?_of_take taken found)
  · rw [owners_eq_zero] at unowned ⊢
    refine ⟨?_, fun other t found => unowned.2 other t (Registry.get?_of_take taken found)⟩
    have free := unowned.2 id s (Registry.take_eq_some.mp taken).1
    simp [commence, enter, Callback.weight, free, unowned.1]

theorem sustains_conversing :
    Conversing (Sustains dispatches owns starts False : Bus ν → Bus ν → Prop) where
  refl := .refl
  trans first later := first.trans later
  converse b topic delivery frame := by
    have boxed : Sustains dispatches owns starts False b b.addBox :=
      .untold rfl rfl rfl (Nat.le_refl _)
    have callback : (Callback.box b.nextBox : Callback ν).IsLimited dispatches owns := trivial
    have begun := boxed.trans (subscribe_sustains b.addBox topic delivery callback)
    exact begun.trans (emit_sustains _ frame)
  read b box := .untold rfl rfl rfl (Nat.le_refl _)
  unsubscribe b id := unsubscribe_sustains b id

end Bus

open Bus

variable {dispatches owns serves : Prop} {b : Bus ν} {depth : Nat} {waiting : List (Waiting ν)}

namespace Machine

structure Proceeds (dispatches owns serves : Prop) (b : Bus ν) (m : Machine ν Trunk) : Prop where
  sustains : Sustains dispatches owns serves False b m.exchange
  limited : (Thread.ofMachine m).IsLimited dispatches owns serves

private theorem Proceeds.behind {c : Bus ν} {m : Machine ν Trunk}
    (first : Sustains dispatches owns serves False b c)
    (later : Proceeds dispatches owns serves c m) : Proceeds dispatches owns serves b m :=
  ⟨first.trans later.sustains, later.limited⟩

private theorem Proceeds.beginPass (serving : serves) (b : Bus ν) (depth : Nat) (frame : Frame)
    (below : ∀ w ∈ waiting, w.IsLimited dispatches owns serves) :
    Proceeds dispatches owns serves b (beginPass b depth frame waiting) := by
  cases depth with
  | zero =>
    exact ⟨.untold rfl rfl rfl (Nat.le_refl _),
      serving, below⟩
  | succ depth => exact ⟨.refl b, serving, below⟩

private theorem Proceeds.emit (b : Bus ν) (frame : Frame)
    (below : ∀ w ∈ waiting, w.IsLimited dispatches owns serves) :
    Proceeds dispatches owns serves b (emit b depth frame waiting) :=
  ⟨emit_sustains b frame, rfl, below⟩

private theorem Proceeds.ask (reaches : dispatches → serves) (program : Program ν)
    (within : program.IsLimited dispatches owns)
    (below : ∀ w ∈ waiting, w.IsLimited dispatches owns serves)
    (never : ∀ next, program ≠ .close next) :
    Proceeds dispatches owns serves b (ask b depth waiting program) := by
  have aside {c : Bus ν} {next : Program ν} (outlet : c.outlet = b.outlet)
      (journal : c.journal = b.journal) (registry : c.registry = b.registry)
      (running : c.ownersRunning = b.ownersRunning)
      (within : next.IsLimited dispatches owns) :
      Proceeds dispatches owns serves b ⟨c, depth, .running next, waiting⟩ :=
    ⟨.untold outlet journal registry (Nat.le_of_eq running), within, below⟩
  cases program with
  | done answer => exact ⟨.refl b, trivial, below⟩
  | panic => exact ⟨.refl b, trivial, below⟩
  | note entry next => exact aside rfl rfl rfl rfl within
  | reread next => exact aside rfl rfl rfl rfl (within _)
  | print text next => exact aside rfl rfl rfl rfl within
  | subscribe topic delivery owner run next =>
    have callback : (Callback.program owner run).IsLimited dispatches owns :=
      ⟨within.1, within.2.1⟩
    exact ⟨subscribe_sustains b topic delivery callback, within.2.2 _, below⟩
  | unsubscribe id next => exact ⟨unsubscribe_sustains b id, within _, below⟩
  | contains id next => exact aside rfl rfl rfl rfl (within _)
  | delivery id next => exact aside rfl rfl rfl rfl (within _)
  | census next => exact aside rfl rfl rfl rfl (within _ _)
  | topicCount topic next => exact aside rfl rfl rfl rfl (within _)
  | dispatch frame next =>
    exact .beginPass (reaches within.1) b depth frame (List.forall_mem_cons.mpr ⟨within.2, below⟩)
  | route text next =>
    simp only [Machine.ask]
    split
    · exact ⟨enter_sustains b rfl rfl, within.2 _, below⟩
    · exact .beginPass (reaches within.1) b depth _ (List.forall_mem_cons.mpr ⟨within.2, below⟩)
  | send topic message next =>
    simp only [Machine.ask]
    split
    · exact .emit b _ (List.forall_mem_cons.mpr ⟨within, below⟩)
    · exact aside rfl rfl rfl rfl within
  | request topic message run next =>
    simp only [Machine.ask]
    split
    · have callback : (Callback.program false run).IsLimited dispatches owns := ⟨by simp, within.1⟩
      exact .behind (subscribe_sustains b topic .once callback)
        (.emit _ _ (List.forall_mem_cons.mpr ⟨within.2 _, below⟩))
    · exact aside rfl rfl rfl rfl (within.2 _)
  | close next => exact absurd rfl (never next)

private theorem Proceeds.serve (serving : serves) (limited : b.IsLimited dispatches owns)
    (frame : Frame) (id : SubscriptionId) (rest : List SubscriptionId) (invoked : Nat)
    (below : ∀ w ∈ waiting, w.IsLimited dispatches owns serves) :
    Proceeds dispatches owns serves b (serve b depth waiting frame id rest invoked) := by
  unfold Machine.serve
  split
  · exact ⟨.refl b, serving, below⟩
  · rename_i s registry taken
    have within := limited id s (Registry.take_eq_some.mp taken).1
    have started : Sustains dispatches owns serves False b
        ({ b with registry }.commence s.callback id frame.reply) :=
      commence_sustains serving taken frame.reply
    have above : ∀ w ∈ Waiting.callback id s.callback frame rest invoked :: waiting,
        w.IsLimited dispatches owns serves := List.forall_mem_cons.mpr ⟨serving, below⟩
    cases kind : s.callback with
    | program owner run =>
      rw [kind] at within started above
      exact ⟨started, within.2 id frame.reply, above⟩
    | box number =>
      rw [kind] at started above
      refine ⟨started.trans ?_, trivial, above⟩
      exact .untold rfl rfl rfl (Nat.le_refl _)

theorem Proceeds.route (b : Bus ν) (text : String) : Proceeds dispatches owns True b
    (Machine.ask b b.nesting [] (.route text fun outcome => .done (.outcome outcome))) := by
  simp only [Machine.ask]
  split
  · exact ⟨enter_sustains b rfl rfl, trivial, List.forall_mem_nil _⟩
  · exact .beginPass trivial b b.nesting _ (List.forall_mem_singleton.mpr fun _ => trivial)

end Machine

open Machine

theorem Thread.IsLimited.advance {t : Thread ν}
    (h : t.IsLimited dispatches owns serves) (limited : b.IsLimited dispatches owns)
    (reaches : dispatches → serves) :
    Sustains dispatches owns serves (∃ next, t.activity = .running (.close next)) b
      (t.on b).advance.exchange ∧
    (Thread.ofMachine (t.on b).advance).IsLimited dispatches owns serves := by
  obtain ⟨depth, activity, waiting⟩ := t
  obtain ⟨within, below⟩ := h
  -- whatever the thread does next, unless it is about to close the bus
  have onward {n : Machine ν Trunk} (proceeds : Proceeds dispatches owns serves b n)
      (never : ∀ next, activity ≠ .running (.close next)) :
      Sustains dispatches owns serves (∃ next, activity = .running (.close next)) b n.exchange ∧
        (Thread.ofMachine n).IsLimited dispatches owns serves :=
    ⟨proceeds.sustains.congr (iff_of_false id fun ⟨next, same⟩ => never next same),
      proceeds.limited⟩
  have same : Proceeds dispatches owns serves b ⟨b, depth, activity, waiting⟩ :=
    ⟨.refl b, within, below⟩
  have rests := onward same
  cases activity with
  | running program =>
    by_cases closes : ∃ next, program = .close next
    · obtain ⟨next, rfl⟩ := closes
      refine ⟨?_, within, below⟩
      have closed : Sustains dispatches owns serves (Signal.close = .close) b b.close := by
        rw [close_eq]
        exact signal_sustains b rfl nofun nofun
      exact closed.congr (iff_of_true rfl ⟨next, rfl⟩)
    · refine onward (.ask reaches program within below fun next same => closes ⟨next, same⟩)
        fun next same => ?_
      cases same
      exact closes ⟨next, rfl⟩
  | ended answer =>
    cases waiting with
    | nil => exact rests nofun
    | cons w rest =>
      obtain ⟨top, above⟩ := List.forall_mem_cons.mp below
      cases w with
      | callback id callback frame ids invoked =>
        exact onward ⟨dismiss_sustains b callback id frame.topic answer.isNone, top, above⟩ nofun
      | _ => exact rests nofun
  | serving frame ids invoked =>
    cases ids with
    | nil => exact onward ⟨.refl b, within, below⟩ nofun
    | cons id ids => exact onward (.serve within limited frame id ids invoked below) nofun
  | served invoked =>
    cases waiting with
    | nil => exact rests nofun
    | cons w rest =>
      obtain ⟨top, above⟩ := List.forall_mem_cons.mp below
      cases w with
      | dispatched next => exact onward ⟨.refl b, top invoked, above⟩ nofun
      | routed frame next =>
        have quiet := Event.isQuiet_routed frame invoked
        exact onward ⟨enter_sustains b (by unfold Event.routed; split <;> rfl) quiet,
          top (.ofCount invoked), above⟩ nofun
      | returned frames => cases top
      | _ => exact rests nofun
  | returning frames =>
    cases within
    cases waiting with
    | nil => exact rests nofun
    | cons w rest =>
      obtain ⟨top, above⟩ := List.forall_mem_cons.mp below
      cases w with
      | published next => exact onward ⟨.refl b, top, above⟩ nofun
      | _ => exact rests nofun

end Switchboard
