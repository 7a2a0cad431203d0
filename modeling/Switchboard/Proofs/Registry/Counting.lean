import Mathlib.Algebra.BigOperators.Group.List.Lemmas
import Mathlib.Algebra.Ring.Nat
import Switchboard.Proofs.Registry.Lookup
/-!
Counting subscriptions. What an operation of the registry does to its size is told by whether an
identifier is live, and the topics divide the subscriptions among them.
-/

set_option autoImplicit false
set_option relaxedAutoImplicit false

namespace Switchboard.Registry

variable {κ : Type} {registry rest : Registry κ} {id : SubscriptionId} {s : Subscription κ}

@[simp] theorem size_insert : (registry.insert s).size = registry.size + 1 := by
  simp [size, insert]

theorem size_erase (live : registry.get? id = some s) :
    (registry.erase id).size + 1 = registry.size := by
  have distinct : (registry.entries.map Prod.fst).Nodup := by
    refine List.pairwise_map.mpr (registry.sorted.imp ?_)
    intro a b less same
    rw [same] at less
    exact Nat.lt_irrefl _ less
  have one : (registry.entries.map Prod.fst).count id = 1 :=
    List.count_eq_one_of_mem distinct (List.mem_map.mpr ⟨(id, s), get?_eq_some.mp live, rfl⟩)
  rw [List.count_eq_countP, List.countP_map] at one
  have parts := List.length_eq_countP_add_countP (fun entry : SubscriptionId × Subscription κ =>
    entry.1 == id) (l := registry.entries)
  have others : (registry.erase id).size = registry.entries.countP fun entry => ¬entry.1 = id := by
    rw [List.countP_eq_length_filter]
    rfl
  simp only [Function.comp_def, beq_iff_eq] at one parts
  rw [others, size]
  omega

theorem size_take (taken : registry.take id = some (s, rest)) :
    rest.size + (if s.delivery = .once then 1 else 0) = registry.size := by
  obtain ⟨found, rfl⟩ := take_eq_some.mp taken
  cases s.delivery with
  | once => exact size_erase found
  | persistent => rfl

theorem isEmpty_iff : registry.isEmpty = true ↔ registry.size = 0 := by
  rw [isEmpty, size, List.isEmpty_iff, List.length_eq_zero_iff]

theorem isSome_delivery? : (registry.delivery? id).isSome = registry.contains id := by
  rw [delivery?, contains, Option.isSome_map]

def liveTopics (registry : Registry κ) : List String :=
  (registry.entries.map fun entry => entry.2.topic).dedup

theorem topicCount_eq_count (topic : String) :
    registry.topicCount topic = (registry.entries.map fun entry => entry.2.topic).count topic := by
  rw [topicCount, onTopic, List.length_map, List.count_eq_countP, List.countP_map,
    List.countP_eq_length_filter]
  simp only [Function.comp_def, beq_eq_decide]

theorem mem_liveTopics {topic : String} :
    topic ∈ registry.liveTopics ↔ 0 < registry.topicCount topic := by
  rw [topicCount_eq_count, List.count_pos_iff, liveTopics, List.mem_dedup]

/-- Every live subscription is counted on one of the live topics. -/
theorem sum_topicCount (registry : Registry κ) :
    (registry.liveTopics.map registry.topicCount).sum = registry.size := by
  have counts : registry.topicCount =
      fun topic => (registry.entries.map fun entry => entry.2.topic).count topic :=
    funext fun topic => topicCount_eq_count topic
  rw [counts, liveTopics, List.sum_map_count_dedup_eq_length, List.length_map]
  rfl

end Switchboard.Registry
