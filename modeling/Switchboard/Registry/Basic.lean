import Switchboard.Decimal.Digits
/-!
The registry of subscriptions. An entry binds an identifier to a topic and a callback; identifiers
count up from one and none is ever issued twice. The callbacks may be of any type.
-/

set_option autoImplicit false
set_option relaxedAutoImplicit false

namespace Switchboard

/-- The identifier of a subscription: its place in the order in which all were made. -/
structure SubscriptionId where
  number : Nat
  deriving DecidableEq, Repr

def SubscriptionId.text (id : SubscriptionId) : String := "sub_" ++ Decimal.natText id.number

inductive Delivery
  | persistent
  | once
  deriving DecidableEq, Repr

structure Subscription (κ : Type) where
  topic : String
  delivery : Delivery
  callback : κ

/-- The live subscriptions in increasing order of their identifiers, and the last number issued. -/
structure Registry (κ : Type) where
  entries : List (SubscriptionId × Subscription κ)
  lastNumber : Nat
  sorted : entries.Pairwise fun a b => a.1.number < b.1.number
  issued : ∀ entry ∈ entries, 0 < entry.1.number ∧ entry.1.number ≤ lastNumber

namespace Registry

variable {κ : Type}

def empty : Registry κ := ⟨[], 0, .nil, by simp⟩

def nextId (registry : Registry κ) : SubscriptionId := ⟨registry.lastNumber + 1⟩

def insert (registry : Registry κ) (subscription : Subscription κ) : Registry κ where
  entries := registry.entries ++ [(registry.nextId, subscription)]
  lastNumber := registry.lastNumber + 1
  sorted := by
    refine List.pairwise_append.mpr ⟨registry.sorted, by simp, ?_⟩
    intro entry live added isNext
    have bound := (registry.issued entry live).2
    simp only [List.mem_singleton] at isNext
    subst isNext
    exact Nat.lt_succ_of_le bound
  issued := by
    intro entry live
    rcases List.mem_append.mp live with live | live
    · have bound := registry.issued entry live
      omega
    · simp only [List.mem_singleton] at live
      subst live
      simp [nextId]

def get? (registry : Registry κ) (id : SubscriptionId) : Option (Subscription κ) :=
  (registry.entries.find? fun entry => entry.1 = id).map Prod.snd

def contains (registry : Registry κ) (id : SubscriptionId) : Bool := (registry.get? id).isSome

def delivery? (registry : Registry κ) (id : SubscriptionId) : Option Delivery :=
  (registry.get? id).map Subscription.delivery

def erase (registry : Registry κ) (id : SubscriptionId) : Registry κ where
  entries := registry.entries.filter fun entry => entry.1 ≠ id
  lastNumber := registry.lastNumber
  sorted := registry.sorted.filter _
  issued entry live := registry.issued entry (List.mem_filter.mp live).1

def size (registry : Registry κ) : Nat := registry.entries.length

def isEmpty (registry : Registry κ) : Bool := registry.entries.isEmpty

/-- The live identifiers on a topic, in the order in which they were issued. -/
def onTopic (registry : Registry κ) (topic : String) : List SubscriptionId :=
  (registry.entries.filter fun entry => entry.2.topic = topic).map Prod.fst

def topicCount (registry : Registry κ) (topic : String) : Nat := (registry.onTopic topic).length

/-- Hands out a live subscription for one delivery; a single one leaves the registry with it. -/
def take (registry : Registry κ) (id : SubscriptionId) :
    Option (Subscription κ × Registry κ) :=
  (registry.get? id).map fun subscription =>
    match subscription.delivery with
    | .once => (subscription, registry.erase id)
    | .persistent => (subscription, registry)

def describe (size lastNumber : Nat) : String :=
  "Registry \x7b subscriptions: " ++ Decimal.natText size ++ ", next_id: " ++
    Decimal.natText lastNumber ++ " \x7d"

end Registry

end Switchboard
