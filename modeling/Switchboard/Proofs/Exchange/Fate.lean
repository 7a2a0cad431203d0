import Switchboard.Proofs.Exchange.Account
import Switchboard.Proofs.Exchange.Pass
/-!
What becomes of a subscription that is live when a run begins, on any exchange. It stays as it is or
it goes; a persistent one goes by a removal alone, and a single one that a dispatch finds on its
topic is gone when the dispatch is over.
-/

set_option autoImplicit false
set_option relaxedAutoImplicit false

namespace Switchboard

/-- What has become of a subscription that was live when its removals were so many. -/
structure Fated {κ : Type} (id : SubscriptionId) (s : Subscription κ) (removals : Nat)
    (registry : Registry κ) (journal : List Event) : Prop where
  issued : id.number ≤ registry.lastNumber
  fate : registry.get? id = some s ∧ removalsOf id journal = removals ∨
    registry.get? id = none ∧ (s.delivery = .persistent → removals < removalsOf id journal)

namespace Fated

variable {κ : Type} {id other : SubscriptionId} {s t : Subscription κ} {removals : Nat}
  {registry rest : Registry κ} {journal : List Event}

theorem tell (h : Fated id s removals registry journal) (events : List Event)
    (zero : removalsOf id events = 0) : Fated id s removals registry (journal ++ events) := by
  refine ⟨h.issued, ?_⟩
  rw [removalsOf_append, zero, Nat.add_zero]
  exact h.fate

theorem insert (h : Fated id s removals registry journal) (t : Subscription κ) :
    Fated id s removals (registry.insert t)
      (journal ++ [.subscribed registry.nextId t.topic t.delivery]) := by
  have isOther : id ≠ registry.nextId := by
    rintro rfl
    exact Nat.not_succ_le_self _ h.issued
  have told := h.tell [.subscribed registry.nextId t.topic t.delivery] rfl
  refine ⟨Nat.le_succ_of_le h.issued, ?_⟩
  rw [Registry.get?_insert, if_neg isOther]
  exact told.fate

theorem hand (h : Fated id s removals registry journal)
    (taken : registry.take other = some (t, rest)) (reply : Reply) :
    Fated id s removals rest (journal ++ [.started other reply]) := by
  have told := h.tell [.started other reply] rfl
  refine ⟨by rw [Registry.lastNumber_take taken]; exact h.issued, ?_⟩
  rw [Registry.get?_take taken]
  split
  · rename_i isTaken
    obtain ⟨rfl, single⟩ := isTaken
    refine .inr ⟨rfl, fun persistent => ?_⟩
    rcases told.fate with ⟨live, -⟩ | ⟨-, removed⟩
    · have same := live.symm.trans (Registry.take_eq_some.mp taken).1
      cases same
      rw [persistent] at single
      cases single
    · exact removed persistent
  · exact told.fate

theorem remove (h : Fated id s removals registry journal)
    (contained : registry.contains other = true) :
    Fated id s removals (registry.erase other) (journal ++ [.unsubscribed other]) := by
  refine ⟨h.issued, ?_⟩
  rw [Registry.get?_erase, removalsOf_append, removalsOf_unsubscribed]
  by_cases isRemoved : id = other
  · subst isRemoved
    obtain ⟨t, found⟩ := Registry.contains_eq_true.mp contained
    rcases h.fate with ⟨-, kept⟩ | ⟨dead, -⟩
    · exact .inr ⟨if_pos rfl, fun _ => by simp [kept]⟩
    · rw [dead] at found
      cases found
  · rw [if_neg isRemoved, if_neg (Ne.symm isRemoved), Nat.add_zero]
    exact h.fate

end Fated

namespace Exchange

variable {ν σ : Type} {x : Exchange ν σ} {id : SubscriptionId} {s : Subscription (Callback ν)}

theorem fated_lasting (id : SubscriptionId) (s : Subscription (Callback ν)) (removals : Nat) :
    Invariant.Lasting fun x : Exchange ν σ => Fated id s removals x.registry x.journal where
  aside registry _ journal h := by rwa [registry, journal]
  tell events quiet h := h.tell events (quiet_counts quiet id).2
  subscribe _ _ _ _ h := h.insert _
  unsubscribe live h := h.remove live
  start _ _ reply taken _ h := h.hand taken reply
  post _ reply taken _ h := h.hand taken reply
  finish _ h := h.tell _ rfl
  converse _ _ h := h.insert _
  read _ _ h := h

theorem fated_of_live (live : x.registry.get? id = some s) :
    Fated id s (removalsOf id x.journal) x.registry x.journal :=
  ⟨(Registry.number_le_of_get? live).2, .inl ⟨live, rfl⟩⟩

variable [Outlet σ]

private theorem serveWith_gone (depth : Nat) (frame : Frame) (other : SubscriptionId)
    (callback : Callback ν)
    (gone : x.registry.get? id = none ∧ id.number ≤ x.registry.lastNumber) :
    (serveWith (dispatchWithin depth) frame other callback x).registry.get? id = none ∧
      id.number ≤ (serveWith (dispatchWithin depth) frame other callback x).registry.lastNumber := by
  have conduct := (gone_lasting (ν := ν) (σ := σ) id).toInvariant.conduct
  refine conduct.dismiss _ _ _ _ _ ?_
  cases callback with
  | program owner run =>
    exact conduct.executeWith (conduct.dispatchWithin depth) _
      (x.commence (.program owner run) other frame.reply) gone
  | box number => exact gone

/-- A single subscription among those that a pass goes through is gone afterwards. -/
theorem passWith_single (depth : Nat) (frame : Frame) {ids : List SubscriptionId}
    {removals : Nat} (h : Fated id s removals x.registry x.journal) (single : s.delivery = .once)
    (member : id ∈ ids) :
    (passWith (dispatchWithin depth) frame ids x).1.registry.get? id = none := by
  have gone := (gone_lasting (ν := ν) (σ := σ) id).toInvariant.conduct
  have fated := (fated_lasting (σ := σ) id s removals).toInvariant.conduct
  induction ids generalizing x with
  | nil => cases member
  | cons other rest ih =>
    simp only [passWith]
    split
    · rename_i untaken
      rcases List.mem_cons.mp member with rfl | later
      · have dead := Registry.take_eq_none.mp untaken
        exact (gone.passWith (gone.dispatchWithin depth) frame rest x ⟨dead, h.issued⟩).1
      · exact ih h later
    · rename_i t registry taken
      rcases List.mem_cons.mp member with rfl | later
      · have found := (Registry.take_eq_some.mp taken).1
        have once : t.delivery = .once := by
          rcases h.fate with ⟨live, -⟩ | ⟨dead, -⟩
          · cases live.symm.trans found
            exact single
          · rw [dead] at found
            cases found
        have dead : registry.get? id = none := by
          rw [Registry.get?_take taken, if_pos ⟨rfl, once⟩]
        have issued : id.number ≤ registry.lastNumber := by
          rw [Registry.lastNumber_take taken]
          exact h.issued
        exact (gone.passWith (gone.dispatchWithin depth) frame rest _
          (serveWith_gone (x := { x with registry }) depth frame id t.callback ⟨dead, issued⟩)).1
      · exact ih (fated.serveWith (fated.dispatchWithin depth) frame taken h) later

theorem dispatch_single (depth : Nat) (frame : Frame) (live : x.registry.get? id = some s)
    (onTopic : s.topic = frame.topic) (single : s.delivery = .once) :
    (dispatchWithin (depth + 1) frame x).1.registry.contains id = false :=
  Registry.contains_eq_false.mpr (passWith_single depth frame (fated_of_live live) single
    (Registry.mem_onTopic.mpr ⟨s, live, onTopic⟩))

/-- A dispatch leaves a persistent subscription as it is, unless it is removed meanwhile. -/
theorem dispatch_persistent (depth : Nat) (frame : Frame) (live : x.registry.get? id = some s)
    (persistent : s.delivery = .persistent) {events : List Event}
    (journal : (dispatchWithin depth frame x).1.journal = x.journal ++ events) :
    (dispatchWithin depth frame x).1.registry.get? id = some s ↔ .unsubscribed id ∉ events := by
  have fated := (fated_lasting id s (removalsOf id x.journal)).toInvariant.conduct.dispatchWithin
    depth frame x (fated_of_live live)
  have fate := fated.fate
  rw [journal, removalsOf_append] at fate
  rw [← List.count_eq_zero, ← removalsOf]
  constructor
  · intro stays
    rcases fate with ⟨-, kept⟩ | ⟨dead, -⟩
    · omega
    · rw [dead] at stays
      cases stays
  · intro none
    rcases fate with ⟨stays, -⟩ | ⟨-, removed⟩
    · exact stays
    · have := removed persistent
      omega

end Exchange

end Switchboard
