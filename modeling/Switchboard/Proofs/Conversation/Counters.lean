import Switchboard.Proofs.Conversation.DeskRun
import Switchboard.Proofs.Exchange.Tally
/-!
The counters of a registry through whole runs. A run here is open to conversations at every point:
in the midst of callbacks too they may begin, publish, be read and be cleaned up after. The runs of
a desk, where this happens between programs, are among these.
-/

set_option autoImplicit false
set_option relaxedAutoImplicit false

namespace Switchboard

open Exchange

variable {ν σ : Type} [Outlet σ]

namespace Machine

/-- What can happen at a point of a run that is open to conversations. -/
inductive OpenStep : Machine ν σ → Machine ν σ → Prop
  | step {m n : Machine ν σ} : Step m n → OpenStep m n
  | converse (m : Machine ν σ) (topic : String) (delivery : Delivery) :
    OpenStep m { m with exchange :=
      m.exchange.addBox.subscribe ⟨topic, delivery, .box m.exchange.nextBox⟩ }
  /-- A program that runs publishes on behalf of a conversation and goes on afterwards. -/
  | publish (x : Exchange ν σ) (depth : Nat) (frame : Frame) (program : Program ν)
    (waiting : List (Waiting ν)) :
    OpenStep ⟨x, depth, .running program, waiting⟩
      (emit x depth frame (.published program :: waiting))
  | read (m : Machine ν σ) (box : Nat) : OpenStep m { m with exchange := m.exchange.unpost box }
  | cleanUp (m : Machine ν σ) (id : SubscriptionId) :
    OpenStep m { m with exchange := m.exchange.unsubscribe id }

/-- A machine can come to a point of a run that is open to conversations. -/
def OpenReaches : Machine ν σ → Machine ν σ → Prop := Relation.ReflTransGen OpenStep

theorem Reaches.openReaches {m n : Machine ν σ} (reached : Reaches m n) : OpenReaches m n := by
  induction reached with
  | refl => exact .refl
  | tail _ step ih => exact ih.tail (.step step)

/-- A machine at rest goes from one exchange to another and is at rest again. -/
def Comes (x y : Exchange ν σ) : Prop :=
  ∀ depth answer, ∃ depth' answer',
    OpenReaches ⟨x, depth, .ended answer, []⟩ ⟨y, depth', .ended answer', []⟩

end Machine

namespace Exchange.Invariant.Lasting

variable {P : Exchange ν σ → Prop} {m n : Machine ν σ}

theorem openStep (h : Lasting P) (step : Machine.OpenStep m n) (hm : P m.exchange) :
    P n.exchange := by
  cases step with
  | step step => exact h.step step hm
  | converse _ topic delivery => exact h.converse topic delivery hm
  | publish x depth frame program waiting => exact h.toInvariant.conduct.emit x frame hm
  | read _ box => exact h.read box trivial hm
  | cleanUp _ id => exact h.toInvariant.conduct.unsubscribe' _ id hm

theorem openReaches (h : Lasting P) (reached : Machine.OpenReaches m n) (hm : P m.exchange) :
    P n.exchange := by
  induction reached with
  | refl => exact hm
  | tail _ step ih => exact h.openStep step ih

end Exchange.Invariant.Lasting

namespace Machine

variable {x y : Exchange ν σ}

private theorem Comes.one {n : Exchange ν σ}
    (step : ∀ depth answer, OpenStep ⟨x, depth, .ended answer, []⟩ ⟨n, depth, .ended answer, []⟩) :
    Comes x n := by
  intro depth answer
  exact ⟨depth, answer, .single (step depth answer)⟩

theorem comes_conversing : Conversing (Comes : Exchange ν σ → Exchange ν σ → Prop) where
  refl x depth answer := ⟨depth, answer, .refl⟩
  trans first later depth answer := by
    obtain ⟨depth', answer', reached⟩ := first depth answer
    obtain ⟨depth'', answer'', reached'⟩ := later depth' answer'
    exact ⟨depth'', answer'', Relation.ReflTransGen.trans reached reached'⟩
  converse x topic delivery frame depth answer := by
    -- the publication ends with a program that has nothing more to do
    have published := Runs.publish x.nesting frame
      (x.addBox.subscribe ⟨topic, delivery, .box x.nextBox⟩) (.done .nothing) []
    have ended := published.reaches.tail (.advance _)
    exact ⟨x.nesting, some .nothing, .head (.converse _ topic delivery)
      (.head (.step (.publish _ depth answer frame)) (Reaches.openReaches ended))⟩
  read x box := .one fun depth answer => .read _ box
  unsubscribe x id := .one fun depth answer => .cleanUp _ id

/-- Whatever is done at a desk can be done by a machine. -/
theorem comes_of_step {desk e : Desk ν σ} (step : Desk.Step desk e) :
    Comes desk.exchange e.exchange := by
  cases step with
  | perform errand =>
    by_cases isRun : ∃ program, errand = .run program
    · obtain ⟨program, rfl⟩ := isRun
      intro depth answer
      exact ⟨_, _, (reaches_execute desk.exchange depth answer program).openReaches⟩
    · exact comes_conversing.perform desk fun program same => isRun ⟨program, same⟩
  | outside outlet events outward => exact .one fun depth answer => .step (.outside _ _ _ outward)

theorem comes_of_reaches {desk e : Desk ν σ} (reached : Desk.Reaches desk e) :
    Comes desk.exchange e.exchange := by
  induction reached with
  | refl => exact comes_conversing.refl _
  | tail _ step ih => exact comes_conversing.trans ih (comes_of_step step)

end Machine

namespace Exchange

/-- Identifiers and counters agree with what has happened. -/
structure IsCounted (x : Exchange ν σ) : Prop where
  numbered : ∀ k (within : k < (madeIn x.journal).length), (madeIn x.journal)[k] = ⟨k + 1⟩
  issued : x.registry.lastNumber = (madeIn x.journal).length
  next : ∀ s, madeIn (x.subscribe s).journal =
      madeIn x.journal ++ [⟨(madeIn x.journal).length + 1⟩] ∧
    (x.subscribe s).registry.get? ⟨(madeIn x.journal).length + 1⟩ = some s
  live : ∀ id, x.registry.contains id = true →
    1 ≤ id.number ∧ id.number ≤ x.registry.lastNumber
  size : x.registry.size + removalsIn x.journal + singleStartsIn x.journal =
    (madeIn x.journal).length
  isEmpty : x.registry.isEmpty = true ↔
    removalsIn x.journal + singleStartsIn x.journal = (madeIn x.journal).length
  /-- A removal is counted exactly when there was something to remove. -/
  removed : ∀ id, removalsIn (x.unsubscribe id).journal =
    removalsIn x.journal + (x.registry.contains id).toNat
  topics : x.registry.liveTopics.Nodup ∧
    (∀ topic, topic ∈ x.registry.liveTopics ↔ 0 < x.registry.topicCount topic) ∧
    (x.registry.liveTopics.map x.registry.topicCount).sum = x.registry.size
  delivery : ∀ id, (x.registry.delivery? id).isSome = x.registry.contains id

theorem removalsIn_unsubscribe (x : Exchange ν σ) (id : SubscriptionId) :
    removalsIn (x.unsubscribe id).journal =
      removalsIn x.journal + (x.registry.contains id).toNat := by
  unfold unsubscribe
  split
  · rename_i live
    obtain ⟨told, journal, quiet⟩ :=
      disownFree_journal ({ x with registry := x.registry.erase id }.enter [.unsubscribed id])
    have none := (untallied fun e member => Event.isTallied_of_isQuiet (quiet e member)).2.2.1
    rw [journal, removalsIn_append, none, live]
    simp [enter, removalsIn]
  · rename_i dead
    rw [Bool.not_eq_true] at dead
    rw [dead]
    rfl

theorem isCounted_of_tally {x : Exchange ν σ} (h : Tally x.registry x.journal) : x.IsCounted := by
  have last : x.registry.lastNumber = (madeIn x.journal).length := by
    rw [h.consecutive, List.length_map, List.length_range']
  have balance := h.balance
  refine ⟨?_, last, ?_, ?_, ?_, ?_, x.removalsIn_unsubscribe, ⟨List.nodup_dedup _, ?_,
    x.registry.sum_topicCount⟩, ?_⟩
  · intro k within
    simp only [h.consecutive, List.getElem_map, List.getElem_range']
    rw [Nat.one_mul, Nat.add_comm]
  · intro s
    rw [← last]
    refine ⟨madeIn_append, ?_⟩
    exact Registry.get?_insert.trans (if_pos rfl)
  · intro id live
    obtain ⟨s, found⟩ := Registry.contains_eq_true.mp live
    exact Registry.number_le_of_get? found
  · rw [← last]
    exact balance
  · rw [Registry.isEmpty_iff, ← last]
    omega
  · intro topic
    exact Registry.mem_liveTopics
  · intro id
    exact Registry.isSome_delivery?

/-- Through every run that begins with nothing subscribed, wherever conversations join in, the
identifiers are issued one after the other and the counters are right; an identifier that has been
issued and is not live any more never is again, so that to unsubscribe it yields false and changes
nothing. What is done at a desk makes such a run. -/
theorem counters_truthful {x : Exchange ν σ} (fresh : x.IsFresh) (depth : Nat)
    (answer : Option Answer) :
    (∀ m, Machine.OpenReaches ⟨x, depth, .ended answer, []⟩ m → m.exchange.IsCounted ∧
      ∀ id ∈ madeIn m.exchange.journal, m.exchange.registry.contains id = false →
        ∀ n, Machine.OpenReaches m n → n.exchange.registry.contains id = false ∧
          n.exchange.unsubscribe id = n.exchange ∧
          ∀ dispatcher next, executeWith dispatcher (.unsubscribe id next) n.exchange =
            executeWith dispatcher (next false) n.exchange) ∧
    ∀ desk, Desk.Reaches ⟨x, []⟩ desk → ∃ m,
      Machine.OpenReaches ⟨x, depth, .ended answer, []⟩ m ∧ m.exchange = desk.exchange := by
  constructor
  · intro m reached
    have tally := tally_lasting.openReaches reached fresh.tally
    refine ⟨isCounted_of_tally tally, fun id made dead n later => ?_⟩
    obtain ⟨topic, delivery, subscribed⟩ := mem_madeIn.mp made
    have gone := ((gone_lasting id).openReaches later
      ⟨Registry.contains_eq_false.mp dead, (tally.issued subscribed).2⟩).1
    have stays := Registry.contains_eq_false.mpr gone
    have same : n.exchange.unsubscribe id = n.exchange := by
      rw [unsubscribe, stays]
      rfl
    refine ⟨stays, same, fun dispatcher next => ?_⟩
    rw [executeWith, stays, same]
  · intro desk reached
    obtain ⟨depth', answer', came⟩ := Machine.comes_of_reaches reached depth answer
    exact ⟨_, came, rfl⟩

/-- A program with a single subscription that renews itself from inside its callback and a request
whose callback dispatches on the topic of the other. -/
private def renewing : Program Unit :=
  .subscribe "news" .once false (fun id _ =>
    .subscribe "news" .persistent false (fun _ _ => .panic) fun _ =>
      .unsubscribe id fun _ => .done .nothing) fun _ =>
    .request "other" .null (fun _ _ => .unsubscribe ⟨7⟩ fun _ =>
      .dispatch ⟨"news", "end", .null⟩ fun _ => .dispatch ⟨"news", "end", .null⟩ fun _ =>
        .done .nothing) fun _ => .done .nothing

private def silent : Exchange Unit Recorder :=
  { policy := .strict, outlet := { echoes := true }, nesting := 3 }

theorem counters_truthful_renewed :
    (silent.execute renewing).1.IsCounted ∧
      madeIn (silent.execute renewing).1.journal = [⟨1⟩, ⟨2⟩, ⟨3⟩] ∧
      (silent.execute renewing).1.registry.size = 1 ∧
      (silent.execute renewing).1.unsubscribe ⟨1⟩ = (silent.execute renewing).1 := by
  have fresh : silent.IsFresh := ⟨rfl, by simp [silent]⟩
  have made : madeIn (silent.execute renewing).1.journal = [⟨1⟩, ⟨2⟩, ⟨3⟩] := by decide +kernel
  have counts : removalsIn (silent.execute renewing).1.journal +
      singleStartsIn (silent.execute renewing).1.journal = 2 := by decide +kernel
  have dead : (silent.execute renewing).1.registry.contains ⟨1⟩ = false := by decide +kernel
  have reached := Machine.reaches_execute silent silent.nesting none renewing
  generalize silent.execute renewing = result at *
  obtain ⟨counted, gone⟩ := (counters_truthful fresh _ _).1 _ reached.openReaches
  have isMade : (⟨1⟩ : SubscriptionId) ∈ madeIn result.1.journal := by
    rw [made]
    decide
  have size := counted.size
  refine ⟨counted, made, ?_, (gone ⟨1⟩ isMade dead _ .refl).2.1⟩
  rw [made, Nat.add_assoc, counts] at size
  exact Nat.add_right_cancel size

end Exchange

end Switchboard
