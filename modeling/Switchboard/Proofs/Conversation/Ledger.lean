import Switchboard.Proofs.Conversation.Course
/-!
The ledger of a desk: which subscriptions are live is told by what programs and callbacks did and by
which conversations go on, and by nothing else. Nobody leaves a subscription behind, and nobody
removes one that is not its own.
-/

set_option autoImplicit false
set_option relaxedAutoImplicit false

namespace Switchboard

def ReplyStream.stake (s : ReplyStream) : Option Delivery :=
  if s.finished then none else some .persistent

/-- The subscription of a conversation, with the delivery that it is entitled to, if any: a call for
as long as it waits, and a stream until it ends. -/
def Conversation.stake? : Conversation → Option (SubscriptionId × Option Delivery)
  | .call (.waiting id _) => some (id, some .once)
  | .stream s => some (s.id, s.stake)
  | .collecting c => some (c.stream.id, c.stream.stake)
  | _ => none

theorem Conversation.id?_eq_map (c : Conversation) : c.id? = c.stake?.map Prod.fst := by
  cases c with
  | call call => cases call <;> rfl
  | stream s => rfl
  | collecting c => rfl
  | collected => rfl

theorem Conversation.id?_of_stake {c : Conversation} {id : SubscriptionId} {stake : Option Delivery}
    (has : c.stake? = some (id, stake)) : c.id? = some id := by
  rw [id?_eq_map, has]
  rfl

theorem Conversation.stake_of_id? {c : Conversation} {id : SubscriptionId}
    (has : c.id? = some id) : ∃ stake, c.stake? = some (id, stake) := by
  rw [id?_eq_map] at has
  obtain ⟨⟨_, stake⟩, staked, rfl⟩ := Option.map_eq_some_iff.mp has
  exact ⟨stake, staked⟩

/-- The subscriptions that conversations have, and one more. -/
def Adding (staked : SubscriptionId → Option Delivery → Prop)
    (own : Option (SubscriptionId × Option Delivery)) (id : SubscriptionId)
    (stake : Option Delivery) : Prop :=
  staked id stake ∨ own = some (id, stake)

variable {ν σ : Type}

namespace Exchange

section Definitions

variable (log : List Event) (staked : SubscriptionId → Option Delivery → Prop)

/-- A subscription was made by a program or a callback, or a conversation has it and goes on. -/
def IsGranted (id : SubscriptionId) (delivery : Delivery) : Prop :=
  (∃ topic, .subscribed id topic delivery ∈ log) ∨ staked id (some delivery)

/-- A subscription was granted and no program or callback removed it, and if it is single it has not
been served. -/
def IsEntitled (x : Exchange ν σ) (id : SubscriptionId) (delivery : Delivery) : Prop :=
  IsGranted log staked id delivery ∧ .unsubscribed id ∉ log ∧
    (delivery = .once → startsOf id x.journal = 0)

/-- The books are right: `log` is what programs and callbacks entered in the journal, and what else
is live or was removed belonged to the conversations. -/
structure Ledger (x : Exchange ν σ) : Prop where
  accounted : x.IsAccounted
  entered : ∀ {e}, e ∈ log → e ∈ x.journal
  made : ∀ {id delivery}, staked id (some delivery) →
    ∃ topic, .subscribed id topic delivery ∈ x.journal
  issued : ∀ {id stake}, staked id stake → id.number ≤ x.registry.lastNumber
  foreign : ∀ {id stake topic delivery}, staked id stake → .subscribed id topic delivery ∉ log
  removed : ∀ {id delivery}, IsGranted log staked id delivery → .unsubscribed id ∈ x.journal →
    .unsubscribed id ∈ log
  live : ∀ {id delivery}, x.registry.delivery? id = some delivery →
    IsGranted log staked id delivery

end Definitions

namespace Ledger

variable {log : List Event} {staked rest : SubscriptionId → Option Delivery → Prop}
  {x y : Exchange ν σ} {id : SubscriptionId} {stake : Option Delivery}

theorem delivery?_iff (h : Ledger log staked x) (delivery : Delivery) :
    x.registry.delivery? id = some delivery ↔ IsEntitled log staked x id delivery := by
  rw [h.accounted.delivery?_eq_some]
  constructor
  · rintro ⟨made, unremoved, unstarted⟩
    have live := h.accounted.delivery?_eq_some.mpr ⟨made, unremoved, unstarted⟩
    exact ⟨h.live live, fun removed => unremoved (h.entered removed), unstarted⟩
  · rintro ⟨granted, unremoved, unstarted⟩
    refine ⟨?_, fun removed => unremoved (h.removed granted removed), unstarted⟩
    rcases granted with ⟨topic, made⟩ | staked
    · exact ⟨topic, h.entered made⟩
    · exact h.made staked

theorem mono {staked' : SubscriptionId → Option Delivery → Prop} (h : Ledger log staked x)
    (sub : ∀ id stake, staked' id stake → staked id stake)
    (same : ∀ id delivery, staked id (some delivery) → staked' id (some delivery)) :
    Ledger log staked' x where
  accounted := h.accounted
  entered := h.entered
  made has := h.made (sub _ _ has)
  issued has := h.issued (sub _ _ has)
  foreign has := h.foreign (sub _ _ has)
  removed granted := h.removed (granted.imp_right (sub _ _))
  live found := (h.live found).imp_right (same _ _)

theorem addingNone (h : Ledger log rest x) : Ledger log (Adding rest none) x :=
  h.mono (fun _ _ has => has.resolve_right nofun) fun _ _ => .inl

theorem ofAddingNone (h : Ledger log (Adding rest none) x) : Ledger log rest x :=
  h.mono (fun _ _ => .inl) fun _ _ has => has.resolve_right nofun

theorem swap {a b : Option (SubscriptionId × Option Delivery)}
    (h : Ledger log (Adding (Adding rest a) b) x) : Ledger log (Adding (Adding rest b) a) x :=
  h.mono (fun _ _ => or_right_comm.mp) fun _ _ => or_right_comm.mp

/-- What leaves subscriptions alone leaves the books right. -/
theorem quietly {events : List Event} (h : Ledger log staked x) (registry : y.registry = x.registry)
    (journal : y.journal = x.journal ++ events) (quiet : ∀ e ∈ events, e.isQuiet = true) :
    Ledger log staked y where
  accounted := by
    have told := isAccounted_lasting.tell events quiet h.accounted
    unfold IsAccounted at told ⊢
    rw [registry, journal]
    exact told
  entered member := by
    rw [journal]
    exact List.mem_append_left _ (h.entered member)
  made has := by
    obtain ⟨topic, made⟩ := h.made has
    rw [journal]
    exact ⟨topic, List.mem_append_left _ made⟩
  issued has := by
    rw [registry]
    exact h.issued has
  foreign := h.foreign
  removed granted removed := by
    rw [journal] at removed
    rcases List.mem_append.mp removed with old | new
    · exact h.removed granted old
    · exact nomatch quiet _ new
  live found := by
    rw [registry] at found
    exact h.live found

theorem act {reads : Nat → Prop} (h : Ledger log staked x) (moves : Moves reads x y) :
    Ledger (log ++ x.entriesSince y) staked y := by
  obtain ⟨numbers, journal, new⟩ := moves.continues
  have accounted := moves.keeps isAccounted_lasting (fun _ _ => trivial) h.accounted
  refine ⟨accounted, ?_, ?_, ?_, ?_, ?_, ?_⟩
  · intro e member
    rw [journal]
    exact (List.mem_append.mp member).elim
      (fun old => List.mem_append_left _ (h.entered old)) (List.mem_append_right _)
  · intro id delivery has
    obtain ⟨topic, made⟩ := h.made has
    rw [journal]
    exact ⟨topic, List.mem_append_left _ made⟩
  · intro id stake has
    exact Nat.le_trans (h.issued has) numbers
  · intro id stake topic delivery has member
    rcases List.mem_append.mp member with old | late
    · exact h.foreign has old
    · exact Nat.not_le_of_lt (new id topic delivery late) (h.issued has)
  · intro id delivery granted removed
    rw [journal] at removed
    rcases List.mem_append.mp removed with old | late
    · have before : IsGranted log staked id delivery := by
        rcases granted with ⟨topic, made⟩ | has
        · rcases List.mem_append.mp made with before | since
          · exact .inl ⟨topic, before⟩
          · exact absurd (h.accounted.issued_of_removed old)
              (Nat.not_le_of_lt (new id topic delivery since))
        · exact .inr has
      exact List.mem_append_left _ (h.removed before old)
    · exact List.mem_append_right _ late
  · intro id delivery found
    obtain ⟨⟨topic, made⟩, unremoved, unstarted⟩ := accounted.delivery?_eq_some.mp found
    rw [journal] at made unremoved unstarted
    rcases List.mem_append.mp made with old | since
    · have before : x.registry.delivery? id = some delivery := by
        refine h.accounted.delivery?_eq_some.mpr ⟨⟨topic, old⟩, ?_, fun single => ?_⟩
        · exact fun removed => unremoved (List.mem_append_left _ removed)
        · have none := unstarted single
          rw [startsOf_append] at none
          exact Nat.eq_zero_of_add_eq_zero_right none
      exact (h.live before).imp_left fun ⟨topic, made⟩ => ⟨topic, List.mem_append_left _ made⟩
    · exact .inl ⟨topic, List.mem_append_right _ since⟩

theorem converse (h : Ledger log staked x) (topic : String) (delivery : Delivery) :
    Ledger log (Adding staked (some (x.registry.nextId, some delivery)))
      (x.begun topic delivery) := by
  have unissued : ∀ {id : SubscriptionId}, id.number ≤ x.registry.lastNumber →
      id ≠ x.registry.nextId := by
    rintro _ issued rfl
    exact Nat.not_succ_le_self _ issued
  have journal : (x.begun topic delivery).journal =
      x.journal ++ [.subscribed x.registry.nextId topic delivery] := rfl
  refine ⟨isAccounted_lasting.converse topic delivery h.accounted, ?_, ?_, ?_, ?_, ?_, ?_⟩
  · intro e member
    exact List.mem_append_left _ (h.entered member)
  · rintro id δ (has | own)
    · obtain ⟨topic, made⟩ := h.made has
      exact ⟨topic, List.mem_append_left _ made⟩
    · cases own
      exact ⟨topic, List.mem_append_right _ List.mem_cons_self⟩
  · rintro id stake (has | own)
    · exact Nat.le_succ_of_le (h.issued has)
    · cases own
      exact Nat.le_refl _
  · rintro id stake topic' delivery' (has | own) member
    · exact h.foreign has member
    · cases own
      exact unissued (h.accounted.issued (h.entered member)).2 rfl
  · intro id δ granted removed
    rw [journal] at removed
    simp only [List.mem_append, List.mem_singleton, reduceCtorEq, or_false] at removed
    rcases granted with made | has | own
    · exact h.removed (.inl made) removed
    · exact h.removed (.inr has) removed
    · cases own
      exact absurd rfl (unissued (h.accounted.issued_of_removed removed))
  · intro id δ found
    simp only [begun, subscribe, enter, addBox, Registry.delivery?, Registry.get?_insert] at found
    split at found
    · rename_i isNext
      cases found
      exact .inr (.inr (by rw [isNext]))
    · exact (h.live found).imp_right .inl

variable [Outlet σ]

/-- A conversation cleans up: it removes nobody's subscription but its own. -/
theorem cleanUp (h : Ledger log (Adding rest (some (id, stake))) x)
    (apart : ∀ stake, ¬rest id stake) :
    Ledger log (Adding rest (some (id, none))) (x.unsubscribe id) := by
  obtain ⟨more, journal, only⟩ := x.unsubscribe_journal id
  have moves : Moves (fun _ => False) x (x.unsubscribe id) := .unsubscribe id
  refine ⟨moves.keeps isAccounted_lasting (fun _ _ => trivial) h.accounted, ?_, ?_, ?_, ?_, ?_, ?_⟩
  · intro e member
    rw [journal]
    exact List.mem_append_left _ (h.entered member)
  · rintro other delivery (has | own)
    · obtain ⟨topic, made⟩ := h.made (.inl has)
      rw [journal]
      exact ⟨topic, List.mem_append_left _ made⟩
    · cases own
  · rintro other stake' (has | own)
    · exact Nat.le_trans (h.issued (.inl has)) moves.continues.1
    · cases own
      exact Nat.le_trans (h.issued (.inr rfl)) moves.continues.1
  · rintro other stake' topic delivery (has | own)
    · exact h.foreign (.inl has)
    · cases own
      exact h.foreign (.inr rfl)
  · intro other delivery granted removed
    have isOther : other ≠ id := by
      rintro rfl
      rcases granted with ⟨topic, made⟩ | has | own
      · exact h.foreign (.inr rfl) made
      · exact apart _ has
      · cases own
    have granted : IsGranted log (Adding rest (some (id, stake))) other delivery := by
      rcases granted with made | has | own
      · exact .inl made
      · exact .inr (.inl has)
      · cases own
    rw [journal] at removed
    rcases List.mem_append.mp removed with old | new
    · exact h.removed granted old
    · rcases only _ new with isRemoval | quiet
      · cases isRemoval
        exact absurd rfl isOther
      · cases quiet
  · intro other delivery found
    rw [Registry.delivery?, get?_unsubscribe] at found
    split at found
    · cases found
    · rename_i isOther
      rcases h.live found with made | has | own
      · exact .inl made
      · exact .inr (.inl has)
      · cases own
        exact absurd rfl isOther

theorem giveUp (h : Ledger log (Adding rest (some (id, stake))) x)
    (apart : ∀ stake, ¬rest id stake) :
    Ledger log rest (x.unsubscribe id) := by
  refine (h.cleanUp apart).mono (fun _ _ => .inl) ?_
  rintro other delivery (has | own)
  · exact has
  · cases own

theorem await {box : Nat} (h : Ledger log (Adding rest (some (id, some .once))) x)
    (apart : ∀ stake, ¬rest id stake) :
    Ledger log (Adding rest (Conversation.call (Call.await id box x).2.1).stake?)
      (Call.await id box x).1 := by
  rcases Call.await_cases id box x with ⟨result, concluded⟩ | waits
  · rw [concluded]
    exact (h.giveUp apart).addingNone
  · rw [waits]
    exact h

theorem next {s : ReplyStream} (h : Ledger log (Adding rest (some (s.id, s.stake))) x)
    (apart : ∀ stake, ¬rest s.id stake) :
    Ledger log (Adding rest (some (s.id, (s.next x).2.1.stake))) (s.next x).1 := by
  have read := s.next_read x
  generalize s.next x = result at read ⊢
  have unposted : Ledger log (Adding rest (some (s.id, s.stake))) (x.unpost s.box) :=
    h.quietly rfl (List.append_nil _).symm nofun
  cases read with
  | after => exact h
  | found => exact unposted
  | last => exact unposted.cleanUp apart
  | lost => exact h.cleanUp apart
  | wait => exact h

theorem drain {s : ReplyStream} (n : Nat) (h : Ledger log (Adding rest (some (s.id, s.stake))) x)
    (apart : ∀ stake, ¬rest s.id stake) :
    Ledger log (Adding rest (some (s.id, (s.drain n x).2.1.stake))) (s.drain n x).1 := by
  induction n generalizing s x with
  | zero => exact h
  | succ n ih =>
    have polled := h.next apart
    have sameId := s.next_id x
    unfold ReplyStream.drain
    generalize s.next x = result at polled sameId ⊢
    obtain ⟨y, t, found⟩ := result
    simp only at polled sameId
    cases found with
    | pending => exact polled
    | ready found =>
      cases found with
      | none => exact polled
      | some reply =>
        rw [← sameId] at polled apart ⊢
        exact ih polled apart

theorem release {c : Conversation} (h : Ledger log (Adding rest c.stake?) x)
    (apart : ∀ id stake stake', c.stake? = some (id, stake) → ¬rest id stake') :
    Ledger log rest (Desk.release c x) := by
  have forgotten (nothing : c.stake? = none) : Ledger log rest x := by
    rw [nothing] at h
    exact h.ofAddingNone
  cases c with
  | call call =>
    cases call with
    | fresh topic message => exact forgotten rfl
    | waiting id box => exact h.giveUp (apart id (some .once) · rfl)
    | finished => exact forgotten rfl
  | stream s => exact h.giveUp (apart s.id s.stake · rfl)
  | collecting c => exact h.giveUp (apart c.stream.id c.stream.stake · rfl)
  | collected => exact forgotten rfl

theorem releaseAny {c : Option Conversation}
    (h : Ledger log (Adding rest (c.bind Conversation.stake?)) x)
    (apart : ∀ id stake stake', c.bind Conversation.stake? = some (id, stake) → ¬rest id stake') :
    Ledger log rest (Desk.releaseAny c x) := by
  cases c with
  | none => exact h.ofAddingNone
  | some c => exact h.release apart

end Ledger

end Exchange

open Exchange

namespace Desk

variable [Outlet σ] {desk d e : Desk ν σ} {past : List Stretch} {x y : Exchange ν σ}
  {before after : Option Conversation} {stretch : Stretch} {log : List Event}
  {rest : SubscriptionId → Option Delivery → Prop}

/-- One turn of a conversation leaves the books right. -/
theorem Turn.ledger (turn : Turn x before stretch y after)
    (h : Ledger log (Adding rest (before.bind Conversation.stake?)) x)
    (apart : ∀ id stake stake', before.bind Conversation.stake? = some (id, stake) →
      ¬rest id stake') :
    Ledger (log ++ stretch.callers) (Adding rest (after.bind Conversation.stake?)) y := by
  -- a new subscription is nobody's yet
  have new : ∀ stake, ¬rest x.registry.nextId stake :=
    fun stake has => Nat.not_succ_le_self _ (h.issued (.inl has))
  cases turn with
  | rest =>
    simp only [List.append_nil]
    exact h
  | run _ program =>
    have moves : Moves (fun _ => False) x (x.execute program).1 := .execute program
    exact h.act moves
  | drop c =>
    simp only [List.append_nil]
    exact (h.release apart).addingNone
  | call _ topic message =>
    simp only [List.append_nil]
    exact (h.releaseAny apart).addingNone
  | openStream _ topic message =>
    have published : Moves (fun _ => False) (x.begun topic .persistent)
        (ReplyStream.openOn topic message x).1 := .publish _ _
    have opened := ((h.converse topic .persistent).act published).swap
    refine opened.releaseAny fun id stake stake' own => ?_
    rintro (has | isNew)
    · exact apart id stake stake' own has
    · cases isNew
      exact Nat.not_succ_le_self _ (h.issued (.inr own))
  | collect s =>
    simp only [List.append_nil]
    exact h
  | pollCall call =>
    cases call with
    | fresh topic message =>
      have published : Moves (fun _ => False) (x.begun topic .once)
          (x.addBox.request topic message (.box x.nextBox)).1 := .publish _ _
      exact ((h.ofAddingNone.converse topic .once).act published).await new
    | waiting id box =>
      simp only [Call.callersEntries, List.append_nil]
      exact h.await (apart id _ · rfl)
    | finished =>
      simp only [Call.callersEntries, List.append_nil]
      exact h
  | wait s _ =>
    have polled := h.next (apart s.id _ · rfl)
    rw [← s.next_id x] at polled
    simp only [List.append_nil]
    exact polled
  | next s reply _ =>
    have polled := h.next (apart s.id _ · rfl)
    rw [← s.next_id x] at polled
    simp only [List.append_nil]
    exact polled
  | gather c _ =>
    have polled := h.drain ((x.box c.stream.box).length + 1) (apart c.stream.id _ · rfl)
    rw [← c.poll_id x] at polled
    simp only [List.append_nil]
    exact polled
  | collected c all gathered =>
    have polled := h.drain ((x.box c.stream.box).length + 1) (apart c.stream.id _ · rfl)
    have dropped := polled.giveUp (apart c.stream.id _ · rfl)
    rw [← c.poll_id x] at dropped
    simp only [List.append_nil]
    exact dropped.addingNone

def Stakes (desk : Desk ν σ) (id : SubscriptionId) (stake : Option Delivery) : Prop :=
  ∃ name c, desk.find? name = some c ∧ c.stake? = some (id, stake)

def StakesBut (desk : Desk ν σ) (name : String) (id : SubscriptionId)
    (stake : Option Delivery) : Prop :=
  ∃ other c, other ≠ name ∧ desk.find? other = some c ∧ c.stake? = some (id, stake)

omit [Outlet σ] in
private theorem stakes_iff (desk : Desk ν σ) (name : String) (id : SubscriptionId)
    (stake : Option Delivery) :
    desk.Stakes id stake ↔
      Adding (desk.StakesBut name) ((desk.find? name).bind Conversation.stake?) id stake := by
  constructor
  · rintro ⟨other, c, held, has⟩
    by_cases isName : other = name
    · subst isName
      exact .inr (Option.bind_eq_some_iff.mpr ⟨c, held, has⟩)
    · exact .inl ⟨other, c, isName, held, has⟩
  · rintro (⟨other, c, -, held, has⟩ | own)
    · exact ⟨other, c, held, has⟩
    · obtain ⟨c, held, has⟩ := Option.bind_eq_some_iff.mp own
      exact ⟨name, c, held, has⟩

omit [Outlet σ] in
theorem ledger_ofFresh (fresh : desk.IsFresh) : Ledger [] desk.Stakes desk.exchange := by
  have none : ∀ {id stake}, ¬desk.Stakes id stake := by
    rintro id stake ⟨name, c, held, -⟩
    simp [find?, fresh.held] at held
  refine ⟨fresh.exchange.isAccounted, fun told => absurd told List.not_mem_nil,
    fun has => (none has).elim, fun has => (none has).elim, fun has => (none has).elim, ?_, ?_⟩
  · rintro id delivery (⟨topic, made⟩ | has)
    · cases made
    · exact (none has).elim
  · intro id delivery found
    rw [fresh.exchange.registry] at found
    cases found

theorem ledger_perform (idsApart : d.IdsApart) (h : Ledger (callersIn past) d.Stakes d.exchange)
    (errand : Errand ν) :
    Ledger (callersIn (past ++ [d.stretch errand])) (d.perform errand).1.Stakes
      (d.perform errand).1.exchange := by
  obtain ⟨name, turn, others⟩ := d.perform_turn errand
  have before : Ledger (callersIn past)
      (Adding (d.StakesBut name) ((d.find? name).bind Conversation.stake?)) d.exchange :=
    h.mono (fun _ _ => (d.stakes_iff name _ _).mpr) fun _ _ => (d.stakes_iff name _ _).mp
  have after := turn.ledger before fun id stake stake' own => by
    rintro ⟨other, c, isOther, held, has⟩
    obtain ⟨c', held', has'⟩ := Option.bind_eq_some_iff.mp own
    exact isOther (idsApart.apart held held' (Conversation.id?_of_stake has)
      (Conversation.id?_of_stake has'))
  have same : d.StakesBut name = (d.perform errand).1.StakesBut name := by
    funext id stake
    refine propext (exists_congr fun other => exists_congr fun c =>
      and_congr_right fun isOther => ?_)
    rw [others other isOther]
  rw [same] at after
  rw [callersIn_append, callersIn_singleton]
  exact after.mono (fun _ _ => (stakes_iff _ name _ _).mp) fun _ _ => (stakes_iff _ name _ _).mpr

/-- In the course of a run the books are right. -/
theorem Course.ledger (fresh : desk.IsFresh) (course : Course desk past d) :
    Ledger (callersIn past) d.Stakes d.exchange := by
  induction course with
  | start => exact ledger_ofFresh fresh
  | outside outlet events outward course ih =>
    exact ih.quietly rfl rfl fun e member => Event.isQuiet_of_isOutward (outward e member)
  | perform errand course ih =>
    exact ledger_perform ((IdsApart.ofFresh fresh).reaches course.reaches) ih errand

/-- A subscription that an errand took off the registry was removed or served by programs and
callbacks, or it belonged to a conversation with which the errand had to do. -/
private theorem perform_steals_nothing (fresh : desk.IsFresh) (course : Course desk past d)
    (errand : Errand ν) {id : SubscriptionId} (live : d.exchange.registry.contains id = true)
    (dead : (d.perform errand).1.exchange.registry.contains id = false) :
    (∃ name c, d.find? name = some c ∧ c.id? = some id ∧
      (d.perform errand).1.find? name ≠ some c) ∨
    .unsubscribed id ∈ (d.stretch errand).callers ∨
    ∃ reply, .started id reply ∈ d.exchange.entriesSince (d.perform errand).1.exchange := by
  obtain ⟨s, found⟩ := Registry.contains_eq_true.mp live
  have entitled : IsEntitled (callersIn past) d.Stakes d.exchange id s.delivery :=
    ((course.ledger fresh).delivery?_iff s.delivery).mp (by rw [Registry.delivery?, found]; rfl)
  obtain ⟨granted, unremoved, unstarted⟩ := entitled
  have after := (course.perform errand).ledger fresh
  have unentitled : ¬IsEntitled (callersIn (past ++ [d.stretch errand])) (d.perform errand).1.Stakes
      (d.perform errand).1.exchange id s.delivery := by
    rw [← after.delivery?_iff, Registry.delivery?_eq_none.mpr (Registry.contains_eq_false.mp dead)]
    exact (Option.some_ne_none _).symm
  by_contra otherwise
  simp only [not_or, not_exists, not_and, not_not] at otherwise
  obtain ⟨kept, notRemoved, notStarted⟩ := otherwise
  refine unentitled ⟨?_, ?_, fun single => ?_⟩
  · rcases granted with ⟨topic, made⟩ | ⟨name, c, held, has⟩
    · exact .inl ⟨topic, by rw [callersIn_append]; exact List.mem_append_left _ made⟩
    · exact .inr ⟨name, c, kept name c held (Conversation.id?_of_stake has), has⟩
  · rw [callersIn_append, callersIn_singleton, List.mem_append]
    exact not_or.mpr ⟨unremoved, notRemoved⟩
  · rw [(d.perform_moves errand).continues.2.1, startsOf_append, unstarted single, Nat.zero_add,
      ← repliesTo_eq_nil]
    exact List.eq_nil_iff_forall_not_mem.mpr fun reply member =>
      notStarted reply (mem_repliesTo.mp member)

/-- In every run of a desk, begun with nothing subscribed and nothing held, the live subscriptions
are those that programs and callbacks made and those of the conversations that go on, less what
programs and callbacks removed and what was served once; so it is also at every point of a program
that runs, and at every point of the first publication of a conversation. Conversations share no
subscription with one another or with programs, no errand takes away what has nothing to do with it,
and when no conversation goes on nothing of theirs is left. -/
theorem live_iff_entitled (fresh : desk.IsFresh) (course : Course desk past d) :
    (∀ id delivery, d.exchange.registry.delivery? id = some delivery ↔
      IsEntitled (callersIn past) d.Stakes d.exchange id delivery) ∧
    (∀ program m, Machine.Runs ⟨d.exchange, d.exchange.nesting, .running program, []⟩ m →
      ∀ id delivery, m.exchange.registry.delivery? id = some delivery ↔
        IsEntitled (callersIn past ++ d.exchange.entriesSince m.exchange) d.Stakes m.exchange id
          delivery) ∧
    (∀ topic first message m,
      Machine.Runs (Machine.emit (d.exchange.begun topic first) d.exchange.nesting
        (.payload topic message) [.published (.done .nothing)]) m →
      ∀ id delivery, m.exchange.registry.delivery? id = some delivery ↔
        IsEntitled (callersIn past ++ (d.exchange.begun topic first).entriesSince m.exchange)
          (Adding d.Stakes (some (d.exchange.registry.nextId, some first))) m.exchange id
          delivery) ∧
    (∀ name c id, d.find? name = some c → c.id? = some id →
      (∀ topic delivery, .subscribed id topic delivery ∉ callersIn past) ∧
      ∀ other c', d.find? other = some c' → c'.id? = some id → other = name) ∧
    (∀ errand id, d.exchange.registry.contains id = true →
      (d.perform errand).1.exchange.registry.contains id = false →
      (∃ name c, d.find? name = some c ∧ c.id? = some id ∧
        (d.perform errand).1.find? name ≠ some c) ∨
      .unsubscribed id ∈ (d.stretch errand).callers ∨
      ∃ reply, .started id reply ∈ d.exchange.entriesSince (d.perform errand).1.exchange) ∧
    ((∀ id delivery, ¬d.Stakes id (some delivery)) → ∀ id delivery,
      d.exchange.registry.delivery? id = some delivery ↔
        IsEntitled (callersIn past) (fun _ _ => False) d.exchange id delivery) := by
  have ledger := course.ledger fresh
  have idsApart := (IdsApart.ofFresh fresh).reaches course.reaches
  refine ⟨fun id => ledger.delivery?_iff, fun program m runs id => ?_,
    fun topic first message m runs id => ?_, fun name c id held has => ⟨?_, ?_⟩,
    fun errand id => perform_steals_nothing fresh course errand, fun idle id => ?_⟩
  · have moves : Moves (fun _ => False) d.exchange m.exchange := .runs runs
    exact (ledger.act moves).delivery?_iff
  · have emitted : Moves (fun _ => False) (d.exchange.begun topic first) m.exchange :=
      .trans (.emit _) (.runs runs)
    exact ((ledger.converse topic first).act emitted).delivery?_iff
  · intro topic delivery
    obtain ⟨stake, staked⟩ := Conversation.stake_of_id? has
    exact ledger.foreign ⟨name, c, held, staked⟩
  · intro other c' held' has'
    exact idsApart.apart held' held has' has
  · have nobody : Ledger (callersIn past) (fun _ _ => False) d.exchange :=
      ledger.mono (fun _ _ => False.elim) fun id delivery has => idle id delivery has
    exact nobody.delivery?_iff

/-- A stream that is dropped takes its own subscription along and leaves the one that a program
made. -/
theorem live_iff_entitled_dropped :
    let desk : Desk Unit Recorder :=
      { exchange := { policy := .strict, outlet := { echoes := true }, nesting := 2 } }
    let opened := (desk.perform (.openStream "stream" "news" .null)).1
    let program : Program Unit := .subscribe "news" .persistent false (fun _ _ => .done .nothing)
      fun id => .done (.issued id)
    let subscribed := (opened.perform (.run program)).1
    let dropped := (subscribed.perform (.drop "stream")).1
    ∃ past, Course desk past dropped ∧
      ¬IsEntitled (callersIn past) dropped.Stakes dropped.exchange ⟨1⟩ .persistent ∧
      IsEntitled (callersIn past) dropped.Stakes dropped.exchange ⟨2⟩ .persistent := by
  intro desk opened program subscribed dropped
  have fresh : desk.IsFresh := ⟨⟨rfl, by simp [desk]⟩, rfl⟩
  have opens : Course desk [_] opened := .perform (.openStream "stream" "news" .null) .start
  have subscribes : Course desk [_, _] subscribed := .perform (.run program) opens
  have course : Course desk [_, _, _] dropped := .perform (.drop "stream") subscribes
  have live := (live_iff_entitled fresh course).1
  have gone : dropped.exchange.registry.delivery? ⟨1⟩ = none := rfl
  have kept : dropped.exchange.registry.delivery? ⟨2⟩ = some .persistent := rfl
  refine ⟨_, course, ?_, (live ⟨2⟩ .persistent).mp kept⟩
  rw [← live, gone]
  exact nofun

end Desk

end Switchboard
