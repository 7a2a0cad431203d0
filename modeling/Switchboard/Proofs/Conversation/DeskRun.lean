import Mathlib.Logic.Relation
import Switchboard.Proofs.Conversation.Moves
/-!
Runs of a desk. Conversations that are held under different names have different boxes, and a call
that waits owns its box, from which nothing has been read yet.
-/

set_option autoImplicit false
set_option relaxedAutoImplicit false

namespace Switchboard

def Conversation.box? : Conversation → Option Nat
  | .call (.waiting _ box) => some box
  | .stream s => some s.box
  | .collecting c => some c.stream.box
  | _ => none

/-- A single subscription for whose reply a call waits at its box. -/
structure Exchange.Awaits {ν σ : Type} (id : SubscriptionId) (box : Nat) (x : Exchange ν σ) :
    Prop extends Owns id box 0 x where
  made : ∃ topic, .subscribed id topic .once ∈ x.journal

theorem Exchange.Awaits.moves {ν σ : Type} {reads : Nat → Prop} {id : SubscriptionId} {box : Nat}
    {x y : Exchange ν σ} (h : Awaits id box x) (moves : Moves reads x y) (foreign : ¬reads box) :
    Awaits id box y := by
  obtain ⟨topic, made⟩ := h.made
  have owns := moves.keeps (owns_survives id box 0)
    (fun other allowed same => foreign (same ▸ allowed)) h.toOwns
  have grown := moves.keeps (journal_lasting x.journal) (fun _ _ => trivial) List.prefix_rfl
  exact ⟨owns, topic, grown.subset made⟩

namespace Desk

open Exchange

variable {ν σ : Type}

/-- Nothing subscribed yet, and no conversation held. -/
structure IsFresh (desk : Desk ν σ) : Prop where
  exchange : desk.exchange.IsFresh
  held : desk.held = []

section Names

variable {desk : Desk ν σ} {name other : String} {c : Conversation}

private theorem lookup_without (held : List (String × Conversation)) :
    (without name held).lookup other = if other = name then none else held.lookup other := by
  induction held with
  | nil => simp [without]
  | cons entry rest ih =>
    obtain ⟨key, c⟩ := entry
    unfold without at ih ⊢
    by_cases isOther : other = key
    · subst isOther
      by_cases isName : other = name
      · subst isName
        simpa using ih
      · simp [isName]
    · have notKey : (other == key) = false := by simpa using isOther
      by_cases isName : key = name
      · subst isName
        simp only [List.filter_cons, ne_eq, not_true_eq_false, decide_false, Bool.false_eq_true,
          if_false, ih, List.lookup_cons, notKey]
      · simp only [List.filter_cons, ne_eq, isName, not_false_eq_true, decide_true, if_true,
          List.lookup_cons, notKey, ih]

theorem find?_hold :
    (desk.hold name c).find? other = if other = name then some c else desk.find? other := by
  unfold hold find?
  rw [List.lookup_cons, lookup_without]
  by_cases isName : other = name
  · simp [isName]
  · have notName : (other == name) = false := by simpa using isName
    simp [isName, notName]

variable [Outlet σ]

theorem find?_drop :
    (desk.drop name).find? other = if other = name then none else desk.find? other := by
  cases found : desk.find? name with
  | none =>
    simp only [drop, found]
    split
    · rename_i isName
      rw [isName, found]
    · rfl
  | some c =>
    simp only [drop, found]
    exact lookup_without desk.held

theorem find?_replace (x : Exchange ν σ) :
    (desk.replace name c x).find? other = if other = name then some c else desk.find? other := by
  rw [replace, find?_hold, find?_drop]
  split
  · rfl
  · rfl

theorem find?_poll (isOther : other ≠ name) :
    (desk.poll name).1.find? other = desk.find? other := by
  unfold poll
  split
  · rfl
  · rfl
  · rfl
  · rw [find?_hold, if_neg isOther]
    rfl
  · rw [find?_hold, if_neg isOther]
    rfl
  · split
    · rw [find?_hold, if_neg isOther]
      rfl
    · rw [find?_hold, if_neg isOther]
      rfl

end Names

structure Sound (desk : Desk ν σ) : Prop where
  accounted : desk.exchange.IsAccounted
  known : desk.exchange.FillsKnown
  calls : ∀ {name id box}, desk.find? name = some (.call (.waiting id box)) →
    Awaits id box desk.exchange
  bounded : ∀ {name c box}, desk.find? name = some c → c.box? = some box →
    box < desk.exchange.boxes.length
  apart : ∀ {name other c d box}, desk.find? name = some c → desk.find? other = some d →
    c.box? = some box → d.box? = some box → name = other

namespace Sound

variable {desk : Desk ν σ}

theorem ofFresh (fresh : desk.IsFresh) : desk.Sound := by
  have none : ∀ name, desk.find? name = none := fun name => by simp [find?, fresh.held]
  refine ⟨fresh.exchange.isAccounted, ?_, ?_, ?_, ?_⟩
  · intro id s box found
    rw [fresh.exchange.registry] at found
    cases found
  · intro name id box found
    simp [none] at found
  · intro name c box found
    simp [none] at found
  · intro name other c d box found
    simp [none] at found

theorem move {reads : Nat → Prop} {y : Exchange ν σ} (h : desk.Sound)
    (moves : Moves reads desk.exchange y)
    (foreign : ∀ {name id box}, desk.find? name = some (.call (.waiting id box)) → ¬reads box) :
    Sound ⟨y, desk.held⟩ where
  accounted := moves.keeps isAccounted_lasting (fun _ _ => trivial) h.accounted
  known := moves.keeps fillsKnown_lasting (fun _ _ => trivial) h.known
  calls held := (h.calls held).moves moves (foreign held)
  bounded held boxed := Nat.lt_of_lt_of_le (h.bounded held boxed) moves.longer
  apart held held' boxed boxed' := h.apart held held' boxed boxed'

theorem hold (h : desk.Sound) (name : String) (c : Conversation)
    (call : ∀ id box, c = .call (.waiting id box) → Awaits id box desk.exchange)
    (bounded : ∀ box, c.box? = some box → box < desk.exchange.boxes.length)
    (apart : ∀ other d box, other ≠ name → desk.find? other = some d → d.box? = some box →
      c.box? ≠ some box) : (desk.hold name c).Sound := by
  refine ⟨h.accounted, h.known, ?_, ?_, ?_⟩
  · intro other id box held
    rw [find?_hold] at held
    split at held
    · cases held
      exact call id box rfl
    · exact h.calls held
  · intro other d box held boxed
    rw [find?_hold] at held
    split at held
    · cases held
      exact bounded box boxed
    · exact h.bounded held boxed
  · intro first second d e box held held' boxed boxed'
    rw [find?_hold] at held held'
    split at held
    · rename_i isName
      cases held
      split at held'
      · rename_i isName'
        rw [isName, isName']
      · rename_i isOther
        exact absurd boxed (apart second e box isOther held' boxed')
    · rename_i isOther
      split at held'
      · cases held'
        exact absurd boxed' (apart first d box isOther held boxed)
      · exact h.apart held held' boxed boxed'

private theorem goOn {y : Exchange ν σ} {name : String} {c d : Conversation} (h : desk.Sound)
    (held : desk.find? name = some c) (same : ∀ box, d.box? = some box → c.box? = some box)
    (moves : Moves (fun box => c.box? = some box) desk.exchange y)
    (notCall : ∀ id box, c ≠ .call (.waiting id box))
    (notCall' : ∀ id box, d ≠ .call (.waiting id box)) :
    (Desk.hold ⟨y, desk.held⟩ name d).Sound := by
  have moved : Sound ⟨y, desk.held⟩ := by
    refine h.move moves fun {other id box} waits own => ?_
    have isName := h.apart held waits own rfl
    subst isName
    rw [held] at waits
    cases waits
    exact notCall id box rfl
  refine moved.hold name d (fun id box isCall => absurd isCall (notCall' id box)) ?_ ?_
  · intro box boxed
    exact moved.bounded held (same box boxed)
  · intro other e box isOther held' boxed' boxed
    exact isOther (moved.apart held' held boxed' (same box boxed))

private theorem callOn {y : Exchange ν σ} (h : desk.Sound) (name : String) (call : Call)
    (moves : Moves (fun _ => False) desk.exchange y)
    (waits : ∀ id box, call = .waiting id box → Awaits id box y ∧
      ∀ {other d}, other ≠ name → desk.find? other = some d → d.box? ≠ some box) :
    (Desk.hold ⟨y, desk.held⟩ name (.call call)).Sound := by
  have moved : Sound ⟨y, desk.held⟩ := h.move moves nofun
  refine moved.hold name _ ?_ ?_ ?_
  · rintro id box isCall
    cases isCall
    exact (waits id box rfl).1
  · intro box boxed
    cases call with
    | waiting id own =>
      cases boxed
      exact (waits id box rfl).1.there
    | fresh topic message => cases boxed
    | finished => cases boxed
  · intro other d box isOther held boxed' boxed
    cases call with
    | waiting id own =>
      cases boxed
      exact (waits id box rfl).2 isOther held boxed'
    | fresh topic message => cases boxed
    | finished => cases boxed

end Sound

/-- What can happen at a desk: an errand, or something beyond the outlet. -/
inductive Step [Outlet σ] : Desk ν σ → Desk ν σ → Prop
  | perform (desk : Desk ν σ) (errand : Errand ν) : Step desk (desk.perform errand).1
  | outside (desk : Desk ν σ) (outlet : σ) (events : List Event) :
    (∀ e ∈ events, e.isOutward = true) →
    Step desk { desk with exchange := { desk.exchange with outlet }.enter events }

def Reaches [Outlet σ] : Desk ν σ → Desk ν σ → Prop := Relation.ReflTransGen Step

variable [Outlet σ] {desk e : Desk ν σ}

theorem drop_moves (desk : Desk ν σ) (name : String) {reads : Nat → Prop} :
    Moves reads desk.exchange (desk.drop name).exchange := by
  unfold drop
  split
  · exact .refl _
  · exact release_moves _

private theorem moves_conversing :
    Conversing (Moves (fun _ => True) : Exchange ν σ → Exchange ν σ → Prop) where
  refl := .refl
  trans first later := first.trans later
  converse _ topic delivery frame := .converse _ topic delivery frame
  read _ _ := .read trivial
  unsubscribe _ id := .unsubscribe id

theorem perform_moves (desk : Desk ν σ) (errand : Errand ν) :
    Moves (fun _ => True) desk.exchange (desk.perform errand).1.exchange := by
  by_cases isRun : ∃ program, errand = .run program
  · obtain ⟨program, rfl⟩ := isRun
    exact .execute program
  · exact moves_conversing.perform desk fun program same => isRun ⟨program, same⟩

theorem poll_moves (desk : Desk ν σ) (name : String) :
    Moves (fun _ => True) desk.exchange (desk.poll name).1.exchange :=
  desk.perform_moves (.poll name)

theorem Step.moves (step : Step desk e) : Moves (fun _ => True) desk.exchange e.exchange := by
  cases step with
  | perform errand => exact desk.perform_moves errand
  | outside outlet events outward => exact .outside outlet outward

theorem Reaches.moves (reached : Reaches desk e) :
    Moves (fun _ => True) desk.exchange e.exchange := by
  induction reached with
  | refl => exact .refl _
  | tail _ step ih => exact ih.trans step.moves

theorem Reaches.gone {id : SubscriptionId} (reached : Reaches desk e)
    (issued : id.number ≤ desk.exchange.registry.lastNumber)
    (dead : desk.exchange.registry.get? id = none) : e.exchange.registry.get? id = none :=
  (reached.moves.keeps (gone_lasting id) (fun _ _ => trivial) ⟨dead, issued⟩).1

namespace Sound

theorem drop (h : desk.Sound) (name : String) : (desk.drop name).Sound := by
  have moves : Moves (fun _ => False) desk.exchange (desk.drop name).exchange :=
    desk.drop_moves name
  have moved : Sound ⟨(desk.drop name).exchange, desk.held⟩ := h.move moves fun _ => nofun
  have kept : ∀ {other c}, (desk.drop name).find? other = some c → desk.find? other = some c := by
    intro other c held
    rw [find?_drop] at held
    split at held
    · cases held
    · exact held
  exact ⟨moved.accounted, moved.known, fun held => moved.calls (kept held),
    fun held => moved.bounded (kept held),
    fun held held' => moved.apart (kept held) (kept held')⟩

theorem replace {x : Exchange ν σ} (h : Sound ⟨x, desk.held⟩) (name : String) (c : Conversation)
    (notCall : ∀ id box, c ≠ .call (.waiting id box))
    (bounded : ∀ box, c.box? = some box → box < x.boxes.length)
    (apart : ∀ other d box, desk.find? other = some d → d.box? = some box → c.box? ≠ some box) :
    (desk.replace name c x).Sound := by
  have dropped := h.drop name
  refine dropped.hold name c (fun id box same => absurd same (notCall id box)) ?_ ?_
  · intro box boxed
    have moves : Moves (fun _ => False) x (Desk.drop ⟨x, desk.held⟩ name).exchange :=
      drop_moves ⟨x, desk.held⟩ name
    exact Nat.lt_of_lt_of_le (bounded box boxed) moves.longer
  · intro other d box isOther held
    rw [find?_drop, if_neg isOther] at held
    exact apart other d box held

theorem awaits_begun (h : desk.Sound) (topic : String) (message : Json) :
    Awaits desk.exchange.registry.nextId desk.exchange.nextBox
      (desk.exchange.addBox.request topic message (.box desk.exchange.nextBox)).1 := by
  have owns := Owns.converse h.known h.accounted topic .once
  have begun : Awaits desk.exchange.registry.nextId desk.exchange.nextBox
      (desk.exchange.addBox.subscribe ⟨topic, .once, .box desk.exchange.nextBox⟩) :=
    ⟨owns, topic, List.mem_append_right _ List.mem_cons_self⟩
  have published : Moves (fun _ => False)
      (desk.exchange.addBox.subscribe ⟨topic, .once, .box desk.exchange.nextBox⟩)
      (desk.exchange.addBox.request topic message (.box desk.exchange.nextBox)).1 := .publish _ _
  exact begun.moves published id

private theorem await_awaits {id : SubscriptionId} {box : Nat} {y : Exchange ν σ}
    (awaits : Awaits id box y) {id' : SubscriptionId} {box' : Nat}
    (waits : (Call.await id box y).2.1 = .waiting id' box') :
    Awaits id' box' (Call.await id box y).1 ∧ box' = box := by
  rcases Call.await_cases id box y with ⟨result, concluded⟩ | pending
  · rw [concluded] at waits
    cases waits
  · rw [pending] at waits ⊢
    cases waits
    exact ⟨awaits, rfl⟩

theorem poll (h : desk.Sound) (name : String) : (desk.poll name).1.Sound := by
  cases held : desk.find? name with
  | none =>
    simp only [Desk.poll, held]
    exact h
  | some c =>
    cases c with
    | call call =>
      cases call with
      | fresh topic message =>
        simp only [Desk.poll, held]
        refine h.callOn name _ (Call.poll_moves _) fun id box waits => ?_
        obtain ⟨awaits, rfl⟩ := await_awaits (h.awaits_begun topic message) waits
        refine ⟨awaits, fun _ held' boxed => ?_⟩
        exact Nat.lt_irrefl _ (h.bounded held' boxed)
      | waiting id box =>
        simp only [Desk.poll, held]
        refine h.callOn name _ (Call.poll_moves _) fun id' box' waits => ?_
        obtain ⟨awaits, rfl⟩ := await_awaits (h.calls held) waits
        exact ⟨awaits, fun isOther held' boxed => isOther (h.apart held' held boxed rfl)⟩
      | finished =>
        simp only [Desk.poll, held]
        exact h
    | stream s =>
      simp only [Desk.poll, held]
      obtain ⟨moves, own, -⟩ : Moves (fun box => (Conversation.stream s).box? = some box)
          desk.exchange (s.next desk.exchange).1 ∧ (s.next desk.exchange).2.1.box = s.box ∧
          (s.next desk.exchange).2.1.id = s.id := s.next_moves rfl
      refine h.goOn held (fun box boxed => ?_) moves (by simp) (by simp)
      rw [← boxed]
      exact congrArg some own.symm
    | collecting c =>
      simp only [Desk.poll, held]
      obtain ⟨moves, own, -⟩ : Moves (fun box => (Conversation.collecting c).box? = some box)
          desk.exchange (c.poll desk.exchange).1 ∧
          (c.poll desk.exchange).2.1.stream.box = c.stream.box ∧
          (c.poll desk.exchange).2.1.stream.id = c.stream.id := c.poll_moves rfl
      split
      · rename_i polled
        rw [polled] at moves own
        refine h.goOn held (fun box boxed => ?_) moves (by simp) (by simp)
        rw [← boxed]
        exact congrArg some own.symm
      · rename_i polled
        rw [polled] at moves
        exact h.goOn held (by simp [Conversation.box?]) (moves.trans (.unsubscribe _)) (by simp)
          (by simp)
    | collected =>
      simp only [Desk.poll, held]
      exact h

theorem perform (h : desk.Sound) (errand : Errand ν) : (desk.perform errand).1.Sound := by
  cases errand with
  | run program =>
    have moves : Moves (fun _ => False) desk.exchange (desk.exchange.execute program).1 :=
      .execute program
    exact h.move moves nofun
  | call name topic message => exact h.replace name _ nofun nofun nofun
  | openStream name topic message =>
    have opened : Moves (fun _ => False) desk.exchange
        (ReplyStream.openOn topic message desk.exchange).1 := ReplyStream.openOn_moves topic message
    have moved : Sound ⟨(ReplyStream.openOn topic message desk.exchange).1, desk.held⟩ :=
      h.move opened nofun
    refine moved.replace name _ nofun (fun box boxed => ?_) (fun other d box held boxed own => ?_)
    · cases boxed
      exact ReplyStream.openOn_box topic message
    · cases own
      exact Nat.lt_irrefl _ (h.bounded held boxed)
  | poll name => exact h.poll name
  | collect name =>
    simp only [Desk.perform]
    split
    · rename_i s held
      exact h.goOn held (fun box boxed => boxed) (.refl _) (by simp) (by simp)
    · exact h
  | describe name =>
    simp only [Desk.perform]
    split
    · exact h
    · exact h
  | drop name => exact h.drop name

theorem step (h : desk.Sound) (step : Step desk e) : e.Sound := by
  cases step with
  | perform errand => exact h.perform errand
  | outside outlet events outward =>
    have moves : Moves (fun _ => False) desk.exchange
        ({ desk.exchange with outlet }.enter events) := .outside outlet outward
    exact h.move moves nofun

theorem reaches (h : desk.Sound) (reached : Reaches desk e) : e.Sound := by
  induction reached with
  | refl => exact h
  | tail _ step ih => exact ih.step step

end Sound

end Desk

end Switchboard
