import Switchboard.Proofs.Conversation.DeskRun
/-!
What comes of a call. However the run of a desk mixes calls, streams, programs and the closing of
the outlet, a poll of a call reports the reply its subscription was invoked with, or else that the
subscription was removed, or else that the outlet has closed; and a call that is no longer waiting
leaves no subscription behind.
-/

set_option autoImplicit false
set_option relaxedAutoImplicit false

namespace Switchboard

open Exchange

variable {ν σ : Type} [Outlet σ]

/-- What a poll of a call has to report, by what became of its subscription and of the outlet. -/
inductive CallVerdict (id : SubscriptionId) (x : Exchange ν σ) : Report → Prop
  | replied (reply : Reply) : .started id reply ∈ x.journal → startsOf id x.journal = 1 →
    CallVerdict id x (.reply reply)
  | cancelled : startsOf id x.journal = 0 → .unsubscribed id ∈ x.journal →
    CallVerdict id x (.failed .cancelled)
  | closed : startsOf id x.journal = 0 → .unsubscribed id ∉ x.journal → x.isClosed = true →
    CallVerdict id x (.failed .closed)
  | pending : startsOf id x.journal = 0 → .unsubscribed id ∉ x.journal → x.isClosed = false →
    x.registry.contains id = true → CallVerdict id x .pending

namespace Call

variable {id : SubscriptionId} {box : Nat} {x : Exchange ν σ}

/-- A look at the box finds the reply, and a look at the registry whether one can still come. -/
theorem await_verdict (awaits : Awaits id box x) (accounted : x.IsAccounted) :
    CallVerdict id x (.ofCall (await id box x).2.2) := by
  obtain ⟨topic, made⟩ := awaits.made
  have content : x.box box = repliesTo id x.journal := awaits.content
  unfold await
  cases replies : x.box box with
  | cons reply rest =>
    have started : .started id reply ∈ x.journal := by
      rw [← mem_repliesTo, ← content, replies]
      exact List.mem_cons_self
    exact .replied reply started (contains_of_started accounted made started).2
  | nil =>
    have unstarted : startsOf id x.journal = 0 := by
      rw [← length_repliesTo, ← content, replies]
      rfl
    rcases accounted.single made with ⟨live, -, kept⟩ | ⟨-, one, -⟩ | ⟨dead, -, removed⟩
    · have notRemoved : .unsubscribed id ∉ x.journal := List.count_eq_zero.mp kept
      simp only [live, Bool.not_true, Bool.false_eq_true, if_false]
      cases closed : x.isClosed with
      | true => exact .closed unstarted notRemoved closed
      | false => exact .pending unstarted notRemoved closed live
    · omega
    · have isRemoved : .unsubscribed id ∈ x.journal := by
        refine List.count_pos_iff.mp ?_
        change 0 < removalsOf id x.journal
        omega
      simp only [dead, Bool.not_false, if_true]
      exact .cancelled unstarted isRemoved

end Call

namespace Desk

variable {desk d e : Desk ν σ} {name : String} {id : SubscriptionId} {box : Nat}

private theorem drop_gone (desk : Desk ν σ)
    (held : desk.find? name = some (.call (.waiting id box))) :
    (desk.drop name).exchange.registry.get? id = none := by
  simp only [drop, held]
  exact unsubscribe_gone desk.exchange id

private theorem Step.leaves (step : Step d e)
    (held : d.find? name = some (.call (.waiting id box)))
    (left : e.find? name ≠ some (.call (.waiting id box))) :
    e.exchange.registry.get? id = none := by
  cases step with
  | outside outlet events outward => exact absurd held left
  | perform errand =>
    cases errand with
    | run program => exact absurd held left
    | call other topic message =>
      simp only [Desk.perform, find?_replace] at left
      split at left
      · rename_i isName
        subst isName
        exact drop_gone d held
      · exact absurd held left
    | openStream other topic message =>
      simp only [Desk.perform, find?_replace] at left
      split at left
      · rename_i isName
        subst isName
        exact drop_gone ⟨(ReplyStream.openOn topic message d.exchange).1, d.held⟩ held
      · exact absurd held left
    | poll other =>
      simp only [Desk.perform] at left ⊢
      by_cases isName : name = other
      · subst isName
        simp only [Desk.poll, held, find?_hold, if_true, Call.poll] at left ⊢
        rcases Call.await_cases id box d.exchange with ⟨result, concluded⟩ | pending
        · rw [concluded]
          exact unsubscribe_gone d.exchange id
        · rw [pending] at left
          exact absurd rfl left
      · rw [find?_poll isName] at left
        exact absurd held left
    | collect other =>
      simp only [Desk.perform] at left ⊢
      split at left
      · rename_i stream isStream
        rw [find?_hold] at left
        split at left
        · rename_i isName
          rw [← isName, held] at isStream
          cases isStream
        · exact absurd held left
      · exact absurd held left
    | describe other =>
      simp only [Desk.perform] at left
      split at left
      · exact absurd held left
      · exact absurd held left
    | drop other =>
      simp only [Desk.perform, find?_drop] at left
      split at left
      · rename_i isName
        subst isName
        exact drop_gone d held
      · exact absurd held left

/-- What a poll of a call does that looks at its box and its subscription in an exchange. -/
structure Polled (desk : Desk ν σ) (name : String) (id : SubscriptionId) (box : Nat)
    (x : Exchange ν σ) : Prop where
  verdict : CallVerdict id x (desk.poll name).2
  waits : (desk.poll name).2 = .pending → (desk.poll name).1.exchange = x ∧
    (desk.poll name).1.find? name = some (.call (.waiting id box))
  ends : (desk.poll name).2 ≠ .pending →
    (desk.poll name).1.find? name = some (.call .finished) ∧
    (desk.poll name).1.exchange = x.unsubscribe id ∧
    ∀ later, Reaches (desk.poll name).1 later → later.exchange.registry.contains id = false

theorem polled_of_await {x : Exchange ν σ} (awaits : Awaits id box x)
    (accounted : x.IsAccounted)
    (polled : desk.poll name =
      (hold ⟨(Call.await id box x).1, desk.held⟩ name (.call (Call.await id box x).2.1),
        .ofCall (Call.await id box x).2.2)) : Polled desk name id box x := by
  refine ⟨?_, ?_, ?_⟩
  · rw [polled]
    exact Call.await_verdict awaits accounted
  · intro pending
    rcases Call.await_cases id box x with ⟨result, concluded⟩ | waits
    · rw [polled, concluded] at pending
      cases result <;> cases pending
    · rw [polled, waits, find?_hold]
      exact ⟨rfl, if_pos rfl⟩
  · intro ready
    rcases Call.await_cases id box x with ⟨result, concluded⟩ | waits
    · rw [polled, concluded, find?_hold]
      refine ⟨if_pos rfl, rfl, fun later reached => ?_⟩
      have unsubscribed : Moves (fun _ => False) x (x.unsubscribe id) := .unsubscribe id
      have issued := (awaits.moves unsubscribed not_false).issued
      exact Registry.contains_eq_false.mpr (reached.gone issued (unsubscribe_gone x id))
    · rw [polled, waits] at ready
      exact absurd rfl ready

private theorem gone_of_left (h : d.Sound) (held : d.find? name = some (.call (.waiting id box)))
    (reached : Reaches d e) (left : e.find? name ≠ some (.call (.waiting id box))) :
    e.exchange.registry.get? id = none := by
  induction reached with
  | refl => exact absurd held left
  | @tail c e before step ih =>
    by_cases still : c.find? name = some (.call (.waiting id box))
    · exact step.leaves still left
    · have sound := h.reaches before
      obtain ⟨topic, made⟩ := (h.calls held).made
      have grown := (Reaches.moves before).keeps (journal_lasting d.exchange.journal)
        (fun _ _ => trivial) List.prefix_rfl
      exact Reaches.gone (.single step) (sound.accounted.issued (grown.subset made)).2 (ih still)

/-- In every run of a desk, begun with nothing subscribed and nothing held: a new call leaves the
exchange alone until it is polled, its first poll subscribes once and then publishes, every poll
reports what the verdict says, and once it no longer waits its subscription is gone for good. -/
theorem call_outcome (fresh : desk.IsFresh) (reached : Reaches desk d) (name : String) :
    (∀ topic message,
      (d.perform (.call name topic message)).1.find? name = some (.call (.fresh topic message)) ∧
      (d.perform (.call name topic message)).1.exchange = (d.drop name).exchange ∧
      (d.find? name = none → (d.perform (.call name topic message)).1.exchange = d.exchange)) ∧
    (∀ topic message, d.find? name = some (.call (.fresh topic message)) →
      (d.drop name).exchange = d.exchange ∧
      (∃ told, (∀ e ∈ told, e.isOutward = true) ∧
        (d.exchange.addBox.ask topic message (.box d.exchange.nextBox)).1.journal =
          d.exchange.journal ++ .subscribed d.exchange.registry.nextId topic .once ::
            .published (.payload topic message) :: told) ∧
      Polled d name d.exchange.registry.nextId d.exchange.nextBox
        (dispatchAll d.exchange.nesting
          (d.exchange.addBox.ask topic message (.box d.exchange.nextBox)).2
          (d.exchange.addBox.ask topic message (.box d.exchange.nextBox)).1)) ∧
    (∀ id box, d.find? name = some (.call (.waiting id box)) →
      Polled d name id box d.exchange ∧
      ∀ e, Reaches d e → e.find? name ≠ some (.call (.waiting id box)) →
        e.exchange.registry.contains id = false) := by
  have sound : d.Sound := (Sound.ofFresh fresh).reaches reached
  refine ⟨fun topic message => ⟨?_, rfl, ?_⟩, fun topic message held => ⟨?_, ?_, ?_⟩,
    fun id box held => ⟨?_, ?_⟩⟩
  · simp only [perform, find?_replace, if_true]
  · intro unheld
    simp only [perform, replace, hold, drop, find?] at unheld ⊢
    rw [unheld]
  · simp only [drop, held]
    rfl
  · exact ask_journal topic message _ d.exchange.addBox
  · have awaits := sound.awaits_begun topic message
    rw [request_eq] at awaits
    refine polled_of_await awaits ?_ (by simp only [poll, held]; rfl)
    have begun : Moves (fun _ => False) d.exchange
        (d.exchange.addBox.request topic message (.box d.exchange.nextBox)).1 :=
      .converse _ topic .once _
    exact begun.keeps isAccounted_lasting (fun _ _ => trivial) sound.accounted
  · exact polled_of_await (sound.calls held) sound.accounted (by simp only [poll, held]; rfl)
  · intro e later left
    exact Registry.contains_eq_false.mpr (gone_of_left sound held later left)

/-- A call whose message comes back at once is answered by its first poll. -/
theorem call_outcome_echoed :
    let desk : Desk Unit Recorder :=
      { exchange := { policy := .strict, outlet := { echoes := true }, nesting := 2 } }
    let d := (desk.perform (.call "call" "news" .null)).1
    (d.poll "call").2 = .reply ⟨payloadCode, .null⟩ ∧
    ∀ later, Reaches (d.poll "call").1 later → later.exchange.registry.contains ⟨1⟩ = false := by
  intro desk d
  have fresh : desk.IsFresh := ⟨⟨rfl, by simp [desk]⟩, rfl⟩
  have reached : Reaches desk d := .single (.perform desk _)
  have held : d.find? "call" = some (.call (.fresh "news" .null)) := rfl
  have replied : (d.poll "call").2 = .reply ⟨payloadCode, .null⟩ := rfl
  have outcome := ((call_outcome fresh reached "call").2.1 "news" .null held).2.2
  exact ⟨replied, (outcome.ends (by rw [replied]; nofun)).2.2⟩

end Desk

end Switchboard
