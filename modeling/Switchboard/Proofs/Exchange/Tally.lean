import Mathlib.Data.List.Range
import Switchboard.Proofs.Exchange.Account
import Switchboard.Proofs.Registry.Counting
/-!
The tally of an exchange: what the journal says of all subscriptions together, and what the registry
says of them by its size and by the last number that it issued.
-/

set_option autoImplicit false
set_option relaxedAutoImplicit false

namespace Switchboard

def madeIn (journal : List Event) : List SubscriptionId :=
  journal.filterMap fun
    | .subscribed id _ _ => some id
    | _ => none

def singlesIn (journal : List Event) : List SubscriptionId :=
  journal.filterMap fun
    | .subscribed id _ .once => some id
    | _ => none

def removalsIn (journal : List Event) : Nat :=
  journal.countP fun
    | .unsubscribed _ => true
    | _ => false

def startsAmong (ids : List SubscriptionId) (journal : List Event) : Nat :=
  journal.countP fun
    | .started id _ => decide (id ∈ ids)
    | _ => false

def singleStartsIn (journal : List Event) : Nat := startsAmong (singlesIn journal) journal

/-- Whether an entry tells of a subscription that is made, removed or served. -/
def Event.isTallied : Event → Bool
  | .subscribed .. | .unsubscribed _ | .started .. => true
  | _ => false

theorem Event.isTallied_of_isQuiet {e : Event} (quiet : e.isQuiet = true) :
    e.isTallied = false := by
  cases e <;> simp_all [isQuiet, isTallied]

section Counts

variable {id : SubscriptionId} {ids more : List SubscriptionId} {a b journal : List Event}

@[simp] theorem madeIn_append : madeIn (a ++ b) = madeIn a ++ madeIn b := List.filterMap_append

@[simp] theorem singlesIn_append : singlesIn (a ++ b) = singlesIn a ++ singlesIn b :=
  List.filterMap_append

@[simp] theorem removalsIn_append : removalsIn (a ++ b) = removalsIn a + removalsIn b :=
  List.countP_append

@[simp] theorem startsAmong_append :
    startsAmong ids (a ++ b) = startsAmong ids a + startsAmong ids b := List.countP_append

theorem mem_madeIn :
    id ∈ madeIn journal ↔ ∃ topic delivery, .subscribed id topic delivery ∈ journal := by
  rw [madeIn, List.mem_filterMap]
  constructor
  · rintro ⟨e, member, same⟩
    cases e with
    | subscribed other topic delivery =>
      cases same
      exact ⟨topic, delivery, member⟩
    | _ => cases same
  · rintro ⟨topic, delivery, member⟩
    exact ⟨_, member, rfl⟩

theorem mem_singlesIn :
    id ∈ singlesIn journal ↔ ∃ topic, .subscribed id topic .once ∈ journal := by
  rw [singlesIn, List.mem_filterMap]
  constructor
  · rintro ⟨e, member, same⟩
    cases e with
    | subscribed other topic delivery =>
      cases delivery with
      | once =>
        cases same
        exact ⟨topic, member⟩
      | persistent => cases same
    | _ => cases same
  · rintro ⟨topic, member⟩
    exact ⟨_, member, rfl⟩

theorem unremoved_of_removalsIn (none : removalsIn journal = 0) : .unsubscribed id ∉ journal :=
  fun gone => absurd rfl (List.countP_eq_zero.mp none _ gone)

theorem untallied (none : ∀ e ∈ a, e.isTallied = false) :
    madeIn a = [] ∧ singlesIn a = [] ∧ removalsIn a = 0 ∧ ∀ ids, startsAmong ids a = 0 := by
  induction a with
  | nil => exact ⟨rfl, rfl, rfl, fun _ => rfl⟩
  | cons e rest ih =>
    have first := none e List.mem_cons_self
    obtain ⟨made, singles, removed, started⟩ := ih fun f member =>
      none f (List.mem_cons_of_mem _ member)
    cases e with
    | subscribed | unsubscribed | started => cases first
    | _ => exact ⟨made, singles, removed, started⟩

/-- Subscriptions whose callbacks have not been started count for nothing. -/
theorem startsAmong_add (unstarted : ∀ id ∈ more, startsOf id journal = 0) :
    startsAmong (ids ++ more) journal = startsAmong ids journal := by
  refine List.countP_congr fun e member => ?_
  cases e with
  | started id reply =>
    have late : id ∉ more := by
      intro isMore
      have zero := List.countP_eq_zero.mp (unstarted id isMore) _ member
      simp at zero
    simp [late]
  | _ => exact Iff.rfl

end Counts

/-- What the journal and the registry say of all subscriptions together, beside what they say of
each. -/
structure Tally {κ : Type} (registry : Registry κ) (journal : List Event) : Prop
    extends Accounted registry journal where
  consecutive : madeIn journal = (List.range' 1 registry.lastNumber).map SubscriptionId.mk
  balance : registry.size + removalsIn journal + singleStartsIn journal = registry.lastNumber

namespace Tally

variable {κ : Type} {registry rest : Registry κ} {journal events : List Event}
  {id : SubscriptionId} {s : Subscription κ}

theorem tell (h : Tally registry journal) (none : ∀ e ∈ events, e.isTallied = false) :
    Tally registry (journal ++ events) := by
  obtain ⟨made, singles, removed, started⟩ := untallied none
  refine ⟨h.toAccounted.tell ?_ fun id => counts_eq_zero fun e member => ⟨?_, ?_⟩, ?_, ?_⟩
  · intro id topic delivery member
    cases none _ member
  · rintro reply rfl
    cases none _ member
  · rintro rfl
    cases none _ member
  · rw [madeIn_append, made, List.append_nil]
    exact h.consecutive
  · rw [singleStartsIn, removalsIn_append, singlesIn_append, startsAmong_append, removed, singles,
      started, List.append_nil]
    exact h.balance

theorem insert (h : Tally registry journal) (s : Subscription κ) :
    Tally (registry.insert s)
      (journal ++ [.subscribed registry.nextId s.topic s.delivery]) := by
  have last : (registry.insert s).lastNumber = registry.lastNumber + 1 := rfl
  refine ⟨h.toAccounted.insert s, ?_, ?_⟩
  · rw [madeIn_append, h.consecutive, last, List.range'_1_concat, List.map_append]
    simp [madeIn, Registry.nextId, Nat.add_comm]
  · have unstarted : ∀ id ∈ singlesIn [.subscribed registry.nextId s.topic s.delivery],
        startsOf id journal = 0 := by
      intro id member
      obtain ⟨topic, made⟩ := mem_singlesIn.mp member
      obtain rfl : id = registry.nextId := by
        simp only [List.mem_singleton, Event.subscribed.injEq] at made
        exact made.1
      exact (h.unissued (Nat.lt_succ_self _)).1
    have started : singleStartsIn
        (journal ++ [.subscribed registry.nextId s.topic s.delivery]) = singleStartsIn journal := by
      rw [singleStartsIn, singlesIn_append, startsAmong_append, startsAmong_add unstarted]
      rfl
    have removed : removalsIn [.subscribed registry.nextId s.topic s.delivery] = 0 := rfl
    have before := h.balance
    rw [removalsIn_append, started, removed, Registry.size_insert, last]
    omega

theorem hand (h : Tally registry journal) (taken : registry.take id = some (s, rest))
    (reply : Reply) : Tally rest (journal ++ [.started id reply]) := by
  have made := (h.live (Registry.take_eq_some.mp taken).1).1
  have single : id ∈ singlesIn journal ↔ s.delivery = .once := by
    rw [mem_singlesIn]
    constructor
    · rintro ⟨topic, once⟩
      exact (h.unique made once).2
    · intro once
      exact ⟨s.topic, once ▸ made⟩
  refine ⟨h.toAccounted.hand taken reply, ?_, ?_⟩
  · rw [madeIn_append, Registry.lastNumber_take taken, ← h.consecutive]
    exact List.append_nil _
  · have started : singleStartsIn (journal ++ [.started id reply]) =
        singleStartsIn journal + if s.delivery = .once then 1 else 0 := by
      have same : singlesIn (journal ++ [.started id reply]) = singlesIn journal := by
        rw [singlesIn_append]
        exact List.append_nil _
      rw [singleStartsIn, same, startsAmong_append, ← singleStartsIn]
      simp [startsAmong, List.countP_cons, single]
    have removed : removalsIn [.started id reply] = 0 := rfl
    have size := Registry.size_take taken
    have before := h.balance
    rw [removalsIn_append, started, removed, Registry.lastNumber_take taken]
    omega

theorem remove (h : Tally registry journal) (contained : registry.contains id = true) :
    Tally (registry.erase id) (journal ++ [.unsubscribed id]) := by
  obtain ⟨s, found⟩ := Registry.contains_eq_true.mp contained
  refine ⟨h.toAccounted.remove contained, ?_, ?_⟩
  · rw [madeIn_append, Registry.lastNumber_erase, ← h.consecutive]
    exact List.append_nil _
  · have started : singleStartsIn (journal ++ [.unsubscribed id]) = singleStartsIn journal := by
      rw [singleStartsIn, singlesIn_append, startsAmong_append]
      exact congrArg (startsAmong · journal) (List.append_nil _)
    have removed : removalsIn [.unsubscribed id] = 1 := rfl
    have size := Registry.size_erase found
    have before := h.balance
    rw [removalsIn_append, started, removed, Registry.lastNumber_erase]
    omega

end Tally

namespace Exchange

variable {ν σ : Type}

theorem tally_lasting : Invariant.Lasting fun x : Exchange ν σ => Tally x.registry x.journal where
  aside registry _ journal h := by rwa [registry, journal]
  tell events quiet h := h.tell fun e member => Event.isTallied_of_isQuiet (quiet e member)
  subscribe topic delivery owner run h := h.insert _
  unsubscribe live h := h.remove live
  start owner program reply taken _ h := h.hand taken reply
  post box reply taken _ h := h.hand taken reply
  finish id h := h.tell (by simp [Event.isTallied])
  converse topic delivery h := h.insert _
  read box _ h := h

theorem IsFresh.tally {x : Exchange ν σ} (fresh : x.IsFresh) : Tally x.registry x.journal := by
  obtain ⟨made, -, removed, started⟩ :=
    untallied fun e member => Event.isTallied_of_isQuiet (fresh.journal e member)
  refine ⟨fresh.isAccounted, ?_, ?_⟩
  · rw [fresh.registry]
    exact made
  · rw [fresh.registry, singleStartsIn, removed, started]
    rfl

end Exchange

end Switchboard
