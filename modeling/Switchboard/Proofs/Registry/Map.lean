import Switchboard.Proofs.Registry.Lookup
/-!
Registries with other callbacks in place of their own. No operation of a registry looks at a
callback, so each has the same result whether the callbacks are replaced before it or after.
-/

set_option autoImplicit false
set_option relaxedAutoImplicit false

namespace Switchboard

variable {κ κ' : Type} (f : κ → κ')

def Subscription.map (s : Subscription κ) : Subscription κ' := ⟨s.topic, s.delivery, f s.callback⟩

namespace Registry

def map (registry : Registry κ) : Registry κ' where
  entries := registry.entries.map fun entry => (entry.1, entry.2.map f)
  lastNumber := registry.lastNumber
  sorted := List.pairwise_map.mpr registry.sorted
  issued entry live := by
    obtain ⟨old, isOld, rfl⟩ := List.mem_map.mp live
    exact registry.issued old isOld

variable {registry : Registry κ} {id : SubscriptionId} {s : Subscription κ}

theorem get?_map : (registry.map f).get? id = (registry.get? id).map (Subscription.map f) := by
  rw [get?, get?, map, List.find?_map, Option.map_map, Option.map_map]
  rfl

@[simp] theorem contains_map : (registry.map f).contains id = registry.contains id := by
  rw [contains, contains, get?_map, Option.isSome_map]

@[simp] theorem delivery?_map : (registry.map f).delivery? id = registry.delivery? id := by
  rw [delivery?, delivery?, get?_map, Option.map_map]
  rfl

@[simp] theorem nextId_map : (registry.map f).nextId = registry.nextId := rfl

@[simp] theorem size_map : (registry.map f).size = registry.size := List.length_map _

@[simp] theorem onTopic_map (topic : String) :
    (registry.map f).onTopic topic = registry.onTopic topic := by
  rw [onTopic, onTopic, map, List.filter_map, List.map_map]
  rfl

@[simp] theorem topicCount_map (topic : String) :
    (registry.map f).topicCount topic = registry.topicCount topic := by
  rw [topicCount, topicCount, onTopic_map]

theorem map_insert : (registry.insert s).map f = (registry.map f).insert (s.map f) := by
  refine ext_get? rfl fun id => ?_
  rw [get?_map, get?_insert, get?_insert, get?_map, nextId_map]
  split
  · rfl
  · rfl

theorem map_erase : (registry.erase id).map f = (registry.map f).erase id := by
  refine ext_get? rfl fun other => ?_
  rw [get?_map, get?_erase, get?_erase, get?_map]
  split
  · rfl
  · rfl

theorem take_map : (registry.map f).take id =
    (registry.take id).map fun handed => (handed.1.map f, handed.2.map f) := by
  rw [take, take, get?_map, Option.map_map, Option.map_map]
  congr 1
  funext s
  cases kind : s.delivery with
  | once => simp [Subscription.map, kind, map_erase]
  | persistent => simp [Subscription.map, kind]

theorem countP_map (q : κ' → Bool) :
    (registry.map f).entries.countP (fun entry => q entry.2.callback) =
      registry.entries.countP fun entry => q (f entry.2.callback) := by
  rw [map, List.countP_map]
  rfl

end Registry

end Switchboard
