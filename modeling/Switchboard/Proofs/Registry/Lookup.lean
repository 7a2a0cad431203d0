import Mathlib.Data.List.Pairwise
import Mathlib.Data.List.Sort
import Mathlib.Tactic.ByContra
import Switchboard.Registry.Basic
/-!
Looking subscriptions up. An identifier has at most one live subscription, and every operation of
the registry is told by what it does to each identifier: after this module nobody needs to know that
the registry is a list.
-/

set_option autoImplicit false
set_option relaxedAutoImplicit false

namespace Switchboard.Registry

variable {κ : Type} {registry : Registry κ} {id other : SubscriptionId} {s : Subscription κ}

private theorem entry_unique {a b : SubscriptionId × Subscription κ} (ha : a ∈ registry.entries)
    (hb : b ∈ registry.entries) (same : a.1 = b.1) : a = b := by
  obtain ⟨i, hi, rfl⟩ := List.mem_iff_getElem.mp ha
  obtain ⟨j, hj, rfl⟩ := List.mem_iff_getElem.mp hb
  have increasing := List.pairwise_iff_getElem.mp registry.sorted
  rcases Nat.lt_trichotomy i j with lt | rfl | lt
  · have := increasing i j hi hj lt
    rw [same] at this
    omega
  · rfl
  · have := increasing j i hj hi lt
    rw [same] at this
    omega

theorem get?_eq_some : registry.get? id = some s ↔ (id, s) ∈ registry.entries := by
  constructor
  · intro found
    obtain ⟨entry, first, rfl⟩ := Option.map_eq_some_iff.mp found
    have isId : entry.1 = id := by simpa using List.find?_some first
    have member := List.mem_of_find?_eq_some first
    rwa [← isId]
  · intro member
    have some : (registry.entries.find? fun entry => entry.1 = id).isSome :=
      List.find?_isSome.mpr ⟨(id, s), member, by simp⟩
    obtain ⟨entry, first⟩ := Option.isSome_iff_exists.mp some
    have isId : entry.1 = id := by simpa using List.find?_some first
    have same := entry_unique (List.mem_of_find?_eq_some first) member isId
    rw [get?, first, same]
    rfl

theorem ext_get? {a b : Registry κ} (numbers : a.lastNumber = b.lastNumber)
    (same : ∀ id, a.get? id = b.get? id) : a = b := by
  have entries : a.entries = b.entries := by
    have antisymm : Std.Antisymm fun a b : SubscriptionId × Subscription κ =>
        a.1.number < b.1.number := ⟨fun a b less greater => absurd greater (Nat.lt_asymm less)⟩
    have irrefl : Std.Irrefl fun a b : SubscriptionId × Subscription κ =>
        a.1.number < b.1.number := ⟨fun a => Nat.lt_irrefl a.1.number⟩
    refine a.sorted.eq_of_mem_iff b.sorted fun ⟨id, s⟩ => ?_
    rw [← get?_eq_some, ← get?_eq_some, same]
  obtain ⟨_, _, _, _⟩ := a
  obtain ⟨_, _, _, _⟩ := b
  subst entries numbers
  rfl

theorem contains_eq_true : registry.contains id = true ↔ ∃ s, registry.get? id = some s :=
  Option.isSome_iff_exists

theorem contains_eq_false : registry.contains id = false ↔ registry.get? id = none := by
  simp [contains]

theorem delivery?_eq_none : registry.delivery? id = none ↔ registry.get? id = none := by
  simp [delivery?]

theorem number_le_of_get? (live : registry.get? id = some s) :
    0 < id.number ∧ id.number ≤ registry.lastNumber :=
  registry.issued _ (get?_eq_some.mp live)

@[simp] theorem lastNumber_erase : (registry.erase id).lastNumber = registry.lastNumber := rfl

theorem get?_of_lastNumber_lt (late : registry.lastNumber < id.number) :
    registry.get? id = none := by
  cases found : registry.get? id with
  | none => rfl
  | some s =>
    have := number_le_of_get? found
    omega

@[simp] theorem get?_nextId : registry.get? registry.nextId = none :=
  get?_of_lastNumber_lt (Nat.lt_succ_self _)

theorem get?_insert :
    (registry.insert s).get? id = if id = registry.nextId then some s else registry.get? id := by
  apply Option.ext
  intro t
  rw [get?_eq_some]
  simp only [insert, List.mem_append, List.mem_singleton, Prod.mk.injEq, ← get?_eq_some]
  split
  · rename_i isNext
    subst isNext
    simp [eq_comm]
  · rename_i isOther
    simp [isOther]

theorem get?_erase :
    (registry.erase other).get? id = if id = other then none else registry.get? id := by
  apply Option.ext
  intro t
  rw [get?_eq_some]
  simp only [erase, List.mem_filter, ← get?_eq_some]
  split
  · rename_i isErased
    simp [isErased]
  · rename_i isOther
    simp [isOther]

theorem get?_of_erase (live : (registry.erase other).get? id = some s) :
    registry.get? id = some s ∧ id ≠ other := by
  rw [get?_erase] at live
  split at live
  · cases live
  · exact ⟨live, by assumption⟩

/-- Handing a subscription out takes it off the registry exactly if it is single. -/
theorem take_eq_some {rest : Registry κ} :
    registry.take id = some (s, rest) ↔ registry.get? id = some s ∧
      rest = match s.delivery with
        | .once => registry.erase id
        | .persistent => registry := by
  rw [take, Option.map_eq_some_iff]
  constructor
  · rintro ⟨t, found, taken⟩
    cases kind : t.delivery <;> simp only [kind, Prod.mk.injEq] at taken <;>
      obtain ⟨rfl, rfl⟩ := taken <;> simp [found, kind]
  · rintro ⟨found, rfl⟩
    refine ⟨s, found, ?_⟩
    cases s.delivery <;> rfl

theorem take_eq_none : registry.take id = none ↔ registry.get? id = none := by
  simp [take]

theorem lastNumber_take {rest : Registry κ} (taken : registry.take id = some (s, rest)) :
    rest.lastNumber = registry.lastNumber := by
  obtain ⟨-, rfl⟩ := take_eq_some.mp taken
  cases s.delivery <;> rfl

theorem get?_take {rest : Registry κ} (taken : registry.take id = some (s, rest)) :
    rest.get? other =
      if other = id ∧ s.delivery = .once then none else registry.get? other := by
  obtain ⟨-, rfl⟩ := take_eq_some.mp taken
  cases kind : s.delivery with
  | once => simp [get?_erase]
  | persistent => simp

theorem get?_of_take {rest : Registry κ} {t : Subscription κ}
    (taken : registry.take other = some (t, rest)) (live : rest.get? id = some s) :
    registry.get? id = some s := by
  rw [get?_take taken] at live
  split at live
  · cases live
  · exact live

theorem mem_onTopic {topic : String} :
    id ∈ registry.onTopic topic ↔ ∃ s, registry.get? id = some s ∧ s.topic = topic := by
  simp only [onTopic, List.mem_map, List.mem_filter, decide_eq_true_eq, get?_eq_some]
  constructor
  · rintro ⟨entry, ⟨member, onTopic⟩, rfl⟩
    exact ⟨entry.2, member, onTopic⟩
  · rintro ⟨s, member, onTopic⟩
    exact ⟨(id, s), ⟨member, onTopic⟩, rfl⟩

theorem onTopic_sorted (registry : Registry κ) (topic : String) :
    (registry.onTopic topic).Pairwise fun a b => a.number < b.number :=
  List.pairwise_map.mpr (registry.sorted.filter _)

theorem onTopic_nodup (registry : Registry κ) (topic : String) :
    (registry.onTopic topic).Nodup := by
  refine (registry.onTopic_sorted topic).imp ?_
  rintro a b less rfl
  exact Nat.lt_irrefl _ less

end Switchboard.Registry
