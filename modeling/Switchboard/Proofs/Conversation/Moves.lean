import Switchboard.Desk
import Switchboard.Proofs.Conversation.Boxes
/-!
What conversations do to an exchange. Whatever is done to a conversation only begins, reads,
publishes and unsubscribes, and reads no other box than its own; so it leaves every property intact
that survives these.
-/

set_option autoImplicit false
set_option relaxedAutoImplicit false

namespace Switchboard

variable {ν σ : Type}

namespace Exchange

/-- An exchange has come from another one by runs and by conversations that read such boxes only. -/
def Moves (reads : Nat → Prop) (x y : Exchange ν σ) : Prop :=
  ∀ P : Exchange ν σ → Prop, Invariant.Survives reads P → P x → P y

namespace Moves

variable {reads : Nat → Prop} {x y z : Exchange ν σ}

theorem refl (x : Exchange ν σ) : Moves reads x x := fun _ _ hx => hx

theorem trans (first : Moves reads x y) (later : Moves reads y z) : Moves reads x z :=
  fun P h hx => later P h (first P h hx)

theorem mono {wider : Nat → Prop} (h : Moves reads x y) (sub : ∀ box, reads box → wider box) :
    Moves wider x y :=
  fun P survives => h P
    { survives with read := fun box allowed => survives.read box (sub box allowed) }

theorem keeps {wider : Nat → Prop} {P : Exchange ν σ → Prop} (h : Moves reads x y)
    (survives : Invariant.Survives wider P) (sub : ∀ box, reads box → wider box) (hx : P x) : P y :=
  h.mono sub P survives hx

theorem read {box : Nat} (allowed : reads box) : Moves reads x (x.unpost box) :=
  fun _ h => h.read box allowed

theorem outside (outlet : σ) {events : List Event} (outward : ∀ e ∈ events, e.isOutward = true) :
    Moves reads x ({ x with outlet }.enter events) :=
  fun _ h => h.toInvariant.outside outlet outward

theorem longer (h : Moves reads x y) : x.boxes.length ≤ y.boxes.length :=
  h (fun y => x.boxes.length ≤ y.boxes.length)
    { aside := fun _ boxes _ hx => by rwa [boxes]
      tell := fun _ _ hx => hx
      subscribe := fun _ _ _ _ hx => hx
      unsubscribe := fun _ hx => hx
      start := fun _ _ _ _ _ hx => hx
      post := fun _ _ _ _ hx => by simpa [post, commence, enter] using hx
      finish := fun _ hx => hx
      converse := fun _ _ hx => by
        simp only [subscribe, enter, addBox, List.length_append]
        exact Nat.le_add_right_of_le hx
      read := fun _ _ hx => by simpa [unpost] using hx }
    (Nat.le_refl _)

variable [Outlet σ]

theorem execute (program : Program ν) : Moves reads x (x.execute program).1 :=
  fun _ h => h.toInvariant.conduct.execute program x

theorem unsubscribe (id : SubscriptionId) : Moves reads x (x.unsubscribe id) :=
  fun _ h => h.toInvariant.conduct.unsubscribe' x id

theorem publish (depth : Nat) (frame : Frame) :
    Moves reads x (publishWith (dispatchWithin depth) frame x) :=
  fun _ h => h.toInvariant.conduct.publishWith (h.toInvariant.conduct.dispatchWithin depth) frame x

theorem emit (frame : Frame) : Moves reads x (x.emit frame).1 :=
  fun _ h => h.toInvariant.conduct.emit x frame

theorem runs {m n : Machine ν σ} (runs : Machine.Runs m n) :
    Moves reads m.exchange n.exchange := by
  induction runs with
  | refl => exact .refl _
  | tail _ stepped ih =>
    subst stepped
    exact ih.trans fun _ h => h.toInvariant.advance

theorem converse (depth : Nat) (topic : String) (delivery : Delivery) (frame : Frame) :
    Moves reads x (publishWith (dispatchWithin depth) frame
      (x.addBox.subscribe ⟨topic, delivery, .box x.nextBox⟩)) :=
  .trans (fun _ h => h.converse topic delivery) (publish depth frame)

end Moves

end Exchange

open Exchange

variable [Outlet σ] {reads : Nat → Prop} {x : Exchange ν σ}

namespace Call

theorem await_cases (id : SubscriptionId) (box : Nat) (x : Exchange ν σ) :
    (∃ result, await id box x = conclude id result x) ∨
      await id box x = (x, .waiting id box, .pending) := by
  unfold await
  split
  · exact .inl ⟨_, rfl⟩
  · split
    · exact .inl ⟨_, rfl⟩
    · split
      · exact .inl ⟨_, rfl⟩
      · exact .inr rfl

theorem await_moves (id : SubscriptionId) (box : Nat) : Moves reads x (await id box x).1 := by
  rcases await_cases id box x with ⟨result, concluded⟩ | waits
  · rw [concluded]
    exact .unsubscribe id
  · rw [waits]
    exact .refl x

theorem poll_moves (call : Call) : Moves reads x (call.poll x).1 := by
  cases call with
  | fresh topic message => exact .trans (.converse _ topic .once _) (await_moves _ _)
  | waiting id box => exact await_moves id box
  | finished => exact .refl x

theorem drop_moves (call : Call) : Moves reads x (call.drop x) := by
  cases call with
  | fresh topic message => exact .refl x
  | waiting id box => exact .unsubscribe id
  | finished => exact .refl x

end Call

namespace ReplyStream

theorem openOn_moves (topic : String) (message : Json) :
    Moves reads x (openOn topic message x).1 :=
  .converse _ topic .persistent _

theorem openOn_box (topic : String) (message : Json) :
    (openOn topic message x).2.box < (openOn topic message x).1.boxes.length := by
  have published : Moves (fun _ => False)
      (x.addBox.subscribe ⟨topic, .persistent, .box x.nextBox⟩) (openOn topic message x).1 :=
    .publish _ _
  refine Nat.lt_of_lt_of_le ?_ published.longer
  simp [openOn, nextBox, addBox, subscribe, enter]

inductive Read (s : ReplyStream) (x : Exchange ν σ) :
    Exchange ν σ × ReplyStream × Poll (Option Reply) → Prop
  | after : s.finished = true → Read s x (x, s, .ready none)
  | found (reply : Reply) (rest : List Reply) : s.finished = false → x.box s.box = reply :: rest →
    reply.isEnd = false → Read s x (x.unpost s.box, s, .ready (some reply))
  | last (reply : Reply) (rest : List Reply) : s.finished = false → x.box s.box = reply :: rest →
    reply.isEnd = true →
    Read s x ((x.unpost s.box).unsubscribe s.id, { s with finished := true }, .ready none)
  | lost : s.finished = false → x.box s.box = [] →
    x.registry.contains s.id = false ∨ x.isClosed = true →
    Read s x (x.unsubscribe s.id, { s with finished := true }, .ready none)
  | wait : s.finished = false → x.box s.box = [] → x.registry.contains s.id = true →
    x.isClosed = false → Read s x (x, s, .pending)

theorem next_read (s : ReplyStream) (x : Exchange ν σ) : s.Read x (s.next x) := by
  unfold next finish
  cases finished : s.finished with
  | true => exact .after finished
  | false =>
    simp only [Bool.false_eq_true, if_false]
    cases content : x.box s.box with
    | cons reply rest =>
      cases ends : reply.isEnd with
      | true => simpa [ends] using Read.last reply rest finished content ends
      | false => simpa [ends] using Read.found reply rest finished content ends
    | nil =>
      cases live : x.registry.contains s.id with
      | false => simpa [live] using Read.lost finished content (.inl live)
      | true =>
        cases closed : x.isClosed with
        | true => simpa [live, closed] using Read.lost finished content (.inr closed)
        | false => simpa [live, closed] using Read.wait finished content live closed

theorem next_moves (s : ReplyStream) (own : reads s.box) :
    Moves reads x (s.next x).1 ∧ (s.next x).2.1.box = s.box ∧ (s.next x).2.1.id = s.id := by
  have read := s.next_read x
  generalize s.next x = result at read ⊢
  cases read with
  | after => exact ⟨.refl x, rfl, rfl⟩
  | found => exact ⟨.read own, rfl, rfl⟩
  | last => exact ⟨.trans (.read own) (.unsubscribe s.id), rfl, rfl⟩
  | lost => exact ⟨.unsubscribe s.id, rfl, rfl⟩
  | wait => exact ⟨.refl x, rfl, rfl⟩

theorem drain_moves (n : Nat) (s : ReplyStream) (own : reads s.box) :
    Moves reads x (drain n s x).1 ∧ (drain n s x).2.1.box = s.box ∧
      (drain n s x).2.1.id = s.id := by
  induction n generalizing s x with
  | zero => exact ⟨.refl x, rfl, rfl⟩
  | succ n ih =>
    obtain ⟨moves, box, id⟩ := s.next_moves (x := x) own
    unfold drain
    rcases polled : s.next x with ⟨y, t, result⟩
    rw [polled] at moves box id
    match result with
    | .pending => exact ⟨moves, box, id⟩
    | .ready none => exact ⟨moves, box, id⟩
    | .ready (some reply) =>
      have sameBox : t.box = s.box := box
      obtain ⟨moves', box', id'⟩ := ih (x := y) t (sameBox ▸ own)
      exact ⟨moves.trans moves', box'.trans box, id'.trans id⟩

end ReplyStream

theorem Collecting.poll_moves (c : Collecting) (own : reads c.stream.box) :
    Moves reads x (c.poll x).1 ∧ (c.poll x).2.1.stream.box = c.stream.box ∧
      (c.poll x).2.1.stream.id = c.stream.id :=
  c.stream.drain_moves (x := x) ((x.box c.stream.box).length + 1) own

theorem Desk.release_moves (conversation : Conversation) :
    Moves reads x (release conversation x) := by
  cases conversation with
  | call call => exact call.drop_moves
  | stream stream => exact .unsubscribe stream.id
  | collecting collecting => exact .unsubscribe collecting.stream.id
  | collected => exact .refl x

/-- A relation between exchanges that holds across everything of which conversations are made. -/
structure Exchange.Conversing (R : Exchange ν σ → Exchange ν σ → Prop) : Prop where
  refl : ∀ x, R x x
  trans : ∀ {x y z}, R x y → R y z → R x z
  converse : ∀ x topic delivery frame,
    R x ((x.addBox.subscribe ⟨topic, delivery, .box x.nextBox⟩).publish frame)
  read : ∀ x box, R x (x.unpost box)
  unsubscribe : ∀ x id, R x (x.unsubscribe id)

namespace Exchange.Conversing

variable {R : Exchange ν σ → Exchange ν σ → Prop} (x : Exchange ν σ)

private theorem await (h : Conversing R) (id : SubscriptionId) (box : Nat) :
    R x (Call.await id box x).1 := by
  rcases Call.await_cases id box x with ⟨result, concluded⟩ | waits
  · rw [concluded]
    exact h.unsubscribe x id
  · rw [waits]
    exact h.refl x

theorem poll (h : Conversing R) (call : Call) : R x (call.poll x).1 := by
  cases call with
  | fresh topic message => exact h.trans (h.converse x topic .once _) (h.await _ _ _)
  | waiting id box => exact h.await x id box
  | finished => exact h.refl x

theorem openOn (h : Conversing R) (topic : String) (message : Json) :
    R x (ReplyStream.openOn topic message x).1 :=
  h.converse x topic .persistent _

theorem next (h : Conversing R) (s : ReplyStream) : R x (s.next x).1 := by
  have read := s.next_read x
  generalize s.next x = result at read ⊢
  cases read with
  | after => exact h.refl x
  | found => exact h.read x s.box
  | last => exact h.trans (h.read x s.box) (h.unsubscribe _ s.id)
  | lost => exact h.unsubscribe x s.id
  | wait => exact h.refl x

theorem drain (h : Conversing R) (n : Nat) (s : ReplyStream) : R x (s.drain n x).1 := by
  induction n generalizing s x with
  | zero => exact h.refl x
  | succ n ih =>
    have first := h.next x s
    unfold ReplyStream.drain
    rcases polled : s.next x with ⟨y, t, result⟩
    rw [polled] at first
    cases result with
    | pending => exact first
    | ready found =>
      cases found with
      | none => exact first
      | some reply => exact h.trans first (ih y t)

theorem collect (h : Conversing R) (c : Collecting) : R x (c.poll x).1 :=
  h.drain x ((x.box c.stream.box).length + 1) c.stream

theorem release (h : Conversing R) (c : Conversation) : R x (Desk.release c x) := by
  cases c with
  | call call =>
    cases call with
    | waiting id box => exact h.unsubscribe x id
    | fresh | finished => exact h.refl x
  | stream s => exact h.unsubscribe x s.id
  | collecting c => exact h.unsubscribe x c.stream.id
  | collected => exact h.refl x

theorem drop (h : Conversing R) (desk : Desk ν σ) (name : String) :
    R desk.exchange (desk.drop name).exchange := by
  unfold Desk.drop
  split
  · exact h.refl _
  · exact h.release _ _

theorem perform (h : Conversing R) (desk : Desk ν σ) {errand : Errand ν}
    (noProgram : ∀ program, errand ≠ .run program) :
    R desk.exchange (desk.perform errand).1.exchange := by
  cases errand with
  | run program => exact absurd rfl (noProgram program)
  | call name topic message => exact h.drop desk name
  | openStream name topic message =>
    exact h.trans (h.openOn desk.exchange topic message)
      (h.drop ⟨(ReplyStream.openOn topic message desk.exchange).1, desk.held⟩ name)
  | poll name =>
    simp only [Desk.perform, Desk.poll]
    split
    · exact h.refl _
    · exact h.refl _
    · exact h.refl _
    · exact h.poll _ _
    · exact h.next _ _
    · rename_i collecting _
      have polled := h.collect desk.exchange collecting
      split
      · rename_i result
        rwa [result] at polled
      · rename_i result
        rw [result] at polled
        exact h.trans polled (h.unsubscribe _ _)
  | collect name =>
    simp only [Desk.perform]
    split <;> exact h.refl _
  | describe name =>
    simp only [Desk.perform]
    split <;> exact h.refl _
  | drop name => exact h.drop desk name

end Exchange.Conversing

end Switchboard
