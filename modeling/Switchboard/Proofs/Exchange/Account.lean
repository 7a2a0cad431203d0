import Switchboard.Proofs.Exchange.Machine
import Switchboard.Proofs.Registry.Lookup
/-!
The account of an exchange: what the journal says of a subscription and what the registry says of it
agree at every point of every run. A subscription that has been made is live, or it was taken off
the registry once, and the journal knows how.
-/

set_option autoImplicit false
set_option relaxedAutoImplicit false

namespace Switchboard

/-- How often a journal tells that the callback of a subscription was started. -/
def startsOf (id : SubscriptionId) (journal : List Event) : Nat :=
  journal.countP fun
    | .started other _ => decide (other = id)
    | _ => false

def removalsOf (id : SubscriptionId) (journal : List Event) : Nat :=
  journal.count (.unsubscribed id)

section Counts

variable {id other : SubscriptionId} {a b : List Event}

@[simp] theorem startsOf_append : startsOf id (a ++ b) = startsOf id a + startsOf id b :=
  List.countP_append

@[simp] theorem removalsOf_append : removalsOf id (a ++ b) = removalsOf id a + removalsOf id b :=
  List.count_append

@[simp] theorem startsOf_started (reply : Reply) :
    startsOf id [.started other reply] = if other = id then 1 else 0 := by
  simp [startsOf, List.countP_cons]

theorem removalsOf_started (reply : Reply) : removalsOf id [.started other reply] = 0 := rfl

theorem startsOf_unsubscribed : startsOf id [.unsubscribed other] = 0 := rfl

@[simp] theorem removalsOf_unsubscribed :
    removalsOf id [.unsubscribed other] = if other = id then 1 else 0 := by
  simp [removalsOf, List.count_cons]

theorem counts_eq_zero (none : ∀ e ∈ a, (∀ reply, e ≠ .started id reply) ∧ e ≠ .unsubscribed id) :
    startsOf id a = 0 ∧ removalsOf id a = 0 := by
  constructor
  · refine List.countP_eq_zero.mpr fun e member => ?_
    have notStart := (none e member).1
    cases e with
    | started other reply =>
      intro same
      exact notStart reply (by rw [of_decide_eq_true same])
    | _ => simp
  · refine List.count_eq_zero.mpr fun member => ?_
    exact (none _ member).2 rfl

end Counts

structure Accounted {κ : Type} (registry : Registry κ) (journal : List Event) : Prop where
  issued : ∀ {id topic delivery}, .subscribed id topic delivery ∈ journal →
    0 < id.number ∧ id.number ≤ registry.lastNumber
  unique : ∀ {id topic delivery topic' delivery'}, .subscribed id topic delivery ∈ journal →
    .subscribed id topic' delivery' ∈ journal → topic = topic' ∧ delivery = delivery'
  unissued : ∀ {id : SubscriptionId}, registry.lastNumber < id.number →
    startsOf id journal = 0 ∧ removalsOf id journal = 0
  live : ∀ {id s}, registry.get? id = some s → .subscribed id s.topic s.delivery ∈ journal ∧
    removalsOf id journal = 0 ∧ (s.delivery = .once → startsOf id journal = 0)
  gone : ∀ {id topic delivery}, .subscribed id topic delivery ∈ journal →
    registry.get? id = none →
    removalsOf id journal + (if delivery = .once then startsOf id journal else 0) = 1

namespace Accounted

variable {κ : Type} {registry rest : Registry κ} {journal events : List Event}
  {id : SubscriptionId} {s : Subscription κ}

theorem empty (none : ∀ id topic delivery, .subscribed id topic delivery ∉ journal)
    (zero : ∀ id, startsOf id journal = 0 ∧ removalsOf id journal = 0) :
    Accounted (.empty : Registry κ) journal where
  issued made := absurd made (none _ _ _)
  unique made := absurd made (none _ _ _)
  unissued _ := zero _
  live found := nomatch found
  gone made := absurd made (none _ _ _)

theorem tell (h : Accounted registry journal)
    (none : ∀ id topic delivery, .subscribed id topic delivery ∉ events)
    (zero : ∀ id, startsOf id events = 0 ∧ removalsOf id events = 0) :
    Accounted registry (journal ++ events) where
  issued made := by
    simp only [List.mem_append, none, or_false] at made
    exact h.issued made
  unique made made' := by
    simp only [List.mem_append, none, or_false] at made made'
    exact h.unique made made'
  unissued late := by
    simpa [zero] using h.unissued late
  live found := by
    simpa [none, zero] using h.live found
  gone made dead := by
    simp only [List.mem_append, none, or_false] at made
    simpa [zero] using h.gone made dead

theorem insert (h : Accounted registry journal) (s : Subscription κ) :
    Accounted (registry.insert s)
      (journal ++ [.subscribed registry.nextId s.topic s.delivery]) := by
  have zero : ∀ id, startsOf id [.subscribed registry.nextId s.topic s.delivery] = 0 ∧
      removalsOf id [.subscribed registry.nextId s.topic s.delivery] = 0 := fun _ => ⟨rfl, rfl⟩
  have fresh : ∀ {id topic delivery}, .subscribed id topic delivery ∈ journal →
      id ≠ registry.nextId := by
    rintro _ topic delivery made rfl
    have := (h.issued made).2
    exact absurd this (Nat.not_succ_le_self _)
  refine ⟨?_, ?_, ?_, ?_, ?_⟩
  · intro id topic delivery made
    rcases List.mem_append.mp made with old | new
    · have := h.issued old
      exact ⟨this.1, Nat.le_succ_of_le this.2⟩
    · simp only [List.mem_singleton, Event.subscribed.injEq] at new
      obtain ⟨rfl, -, -⟩ := new
      exact ⟨Nat.succ_pos _, Nat.le_refl _⟩
  · intro id topic delivery topic' delivery' made made'
    simp only [List.mem_append, List.mem_singleton, Event.subscribed.injEq] at made made'
    rcases made with old | ⟨isNext, rfl, rfl⟩
    · rcases made' with old' | ⟨isNext', -, -⟩
      · exact h.unique old old'
      · exact absurd isNext' (fresh old)
    · rcases made' with old' | ⟨-, rfl, rfl⟩
      · exact absurd isNext (fresh old')
      · exact ⟨rfl, rfl⟩
  · intro id late
    have := h.unissued (Nat.lt_of_succ_lt late)
    simpa [zero] using this
  · intro id t found
    rw [Registry.get?_insert] at found
    split at found
    · rename_i isNext
      cases found
      subst isNext
      have unissued : startsOf registry.nextId journal = 0 ∧
          removalsOf registry.nextId journal = 0 := h.unissued (Nat.lt_succ_self _)
      simp [zero, unissued]
    · have := h.live found
      simp only [List.mem_append, startsOf_append, removalsOf_append, zero, Nat.add_zero]
      exact ⟨.inl this.1, this.2⟩
  · intro id topic delivery made dead
    rw [Registry.get?_insert] at dead
    split at dead
    · cases dead
    · rename_i isOther
      simp only [List.mem_append, List.mem_singleton, Event.subscribed.injEq, isOther, false_and,
        or_false] at made
      simpa [zero] using h.gone made dead

theorem hand (h : Accounted registry journal) (taken : registry.take id = some (s, rest))
    (reply : Reply) : Accounted rest (journal ++ [.started id reply]) := by
  have found := (Registry.take_eq_some.mp taken).1
  have last := Registry.lastNumber_take taken
  obtain ⟨made, kept, unstarted⟩ := h.live found
  refine ⟨?_, ?_, ?_, ?_, ?_⟩
  · intro other topic delivery made
    simp only [List.mem_append, List.mem_singleton, reduceCtorEq, or_false] at made
    rw [last]
    exact h.issued made
  · intro other topic delivery topic' delivery' made made'
    simp only [List.mem_append, List.mem_singleton, reduceCtorEq, or_false] at made made'
    exact h.unique made made'
  · intro other late
    rw [last] at late
    have isOther : id ≠ other := by
      rintro rfl
      have := (h.issued made).2
      omega
    simpa [isOther, removalsOf_started] using h.unissued late
  · intro other t live
    rw [Registry.get?_take taken] at live
    split at live
    · cases live
    · rename_i notTaken
      obtain ⟨made', kept', unstarted'⟩ := h.live live
      refine ⟨List.mem_append_left _ made', by simpa [removalsOf_started] using kept', fun single => ?_⟩
      have isOther : id ≠ other := by
        rintro rfl
        rw [found] at live
        cases live
        exact notTaken ⟨rfl, single⟩
      simpa [isOther] using unstarted' single
  · intro other topic delivery made' dead
    simp only [List.mem_append, List.mem_singleton, reduceCtorEq, or_false] at made'
    rw [Registry.get?_take taken] at dead
    split at dead
    · rename_i isTaken
      obtain ⟨rfl, single⟩ := isTaken
      obtain ⟨-, same⟩ := h.unique made made'
      simp [← same, single, kept, unstarted single, removalsOf_started]
    · have isOther : id ≠ other := by
        rintro rfl
        rw [found] at dead
        cases dead
      simpa [isOther, removalsOf_started] using h.gone made' dead

theorem remove (h : Accounted registry journal) (contained : registry.contains id = true) :
    Accounted (registry.erase id) (journal ++ [.unsubscribed id]) := by
  obtain ⟨s, found⟩ := Registry.contains_eq_true.mp contained
  obtain ⟨made, kept, unstarted⟩ := h.live found
  refine ⟨?_, ?_, ?_, ?_, ?_⟩
  · intro other topic delivery made
    simp only [List.mem_append, List.mem_singleton, reduceCtorEq, or_false] at made
    exact h.issued made
  · intro other topic delivery topic' delivery' made made'
    simp only [List.mem_append, List.mem_singleton, reduceCtorEq, or_false] at made made'
    exact h.unique made made'
  · intro other late
    rw [Registry.lastNumber_erase] at late
    have isOther : id ≠ other := by
      rintro rfl
      have := (h.issued made).2
      omega
    simpa [isOther, startsOf_unsubscribed] using h.unissued late
  · intro other t live
    rw [Registry.get?_erase] at live
    split at live
    · cases live
    · rename_i isOther
      obtain ⟨made', kept', unstarted'⟩ := h.live live
      refine ⟨List.mem_append_left _ made', ?_, fun single => ?_⟩
      · simpa [Ne.symm isOther] using kept'
      · simpa [startsOf_unsubscribed] using unstarted' single
  · intro other topic delivery made' dead
    simp only [List.mem_append, List.mem_singleton, reduceCtorEq, or_false] at made'
    rw [Registry.get?_erase] at dead
    split at dead
    · rename_i isRemoved
      subst isRemoved
      obtain ⟨-, same⟩ := h.unique made made'
      cases delivery with
      | once => simp [kept, unstarted same, startsOf_unsubscribed]
      | persistent => simp [kept]
    · rename_i isOther
      simpa [Ne.symm isOther, startsOf_unsubscribed] using h.gone made' dead

/-- By the account a subscription is live with some delivery exactly if it was made so, was not
removed, and, if it is single, has not been served. -/
theorem delivery?_eq_some (h : Accounted registry journal) {delivery : Delivery} :
    registry.delivery? id = some delivery ↔ (∃ topic, .subscribed id topic delivery ∈ journal) ∧
      .unsubscribed id ∉ journal ∧ (delivery = .once → startsOf id journal = 0) := by
  constructor
  · intro live
    obtain ⟨s, found, rfl⟩ := Option.map_eq_some_iff.mp live
    obtain ⟨made, kept, unstarted⟩ := h.live found
    exact ⟨⟨s.topic, made⟩, List.count_eq_zero.mp kept, unstarted⟩
  · rintro ⟨⟨topic, made⟩, unremoved, unstarted⟩
    cases found : registry.get? id with
    | some s =>
      have same := (h.unique (h.live found).1 made).2
      rw [Registry.delivery?, found, ← same]
      rfl
    | none =>
      have total := h.gone made found
      have kept : removalsOf id journal = 0 := List.count_eq_zero.mpr unremoved
      cases delivery with
      | once =>
        have := unstarted rfl
        simp only [if_true] at total
        omega
      | persistent =>
        simp only [reduceCtorEq, if_false] at total
        omega

theorem issued_of_removed (h : Accounted registry journal) (removed : .unsubscribed id ∈ journal) :
    id.number ≤ registry.lastNumber := by
  by_contra late
  have none : removalsOf id journal = 0 := (h.unissued (Nat.lt_of_not_le late)).2
  exact List.count_eq_zero.mp none removed

theorem persistent (h : Accounted registry journal) {topic : String}
    (made : .subscribed id topic .persistent ∈ journal) :
    registry.contains id = false ↔ .unsubscribed id ∈ journal := by
  have live : registry.delivery? id = some .persistent ↔ .unsubscribed id ∉ journal := by
    rw [h.delivery?_eq_some]
    exact ⟨fun found => found.2.1, fun unremoved => ⟨⟨topic, made⟩, unremoved, nofun⟩⟩
  constructor
  · intro dead
    by_contra unremoved
    rw [Registry.contains_eq_false, ← Registry.delivery?_eq_none, live.mpr unremoved] at dead
    cases dead
  · intro removed
    rw [← Bool.not_eq_true, Registry.contains_eq_true]
    rintro ⟨s, found⟩
    exact List.count_eq_zero.mp (h.live found).2.1 removed

theorem single (h : Accounted registry journal) {topic : String}
    (made : .subscribed id topic .once ∈ journal) :
    (registry.contains id = true ∧ startsOf id journal = 0 ∧ removalsOf id journal = 0) ∨
    (registry.contains id = false ∧ startsOf id journal = 1 ∧ removalsOf id journal = 0) ∨
    (registry.contains id = false ∧ startsOf id journal = 0 ∧ removalsOf id journal = 1) := by
  cases found : registry.get? id with
  | some s =>
    obtain ⟨made', kept, unstarted⟩ := h.live found
    have single := (h.unique made' made).2
    exact .inl ⟨Registry.contains_eq_true.mpr ⟨s, found⟩, unstarted single, kept⟩
  | none =>
    have dead := Registry.contains_eq_false.mpr found
    have total := h.gone made found
    simp only [if_true] at total
    have parts : startsOf id journal = 1 ∧ removalsOf id journal = 0 ∨
        startsOf id journal = 0 ∧ removalsOf id journal = 1 := by omega
    rcases parts with fired | removed
    · exact .inr (.inl ⟨dead, fired⟩)
    · exact .inr (.inr ⟨dead, removed⟩)

end Accounted

namespace Exchange

variable {ν σ : Type}

def IsAccounted (x : Exchange ν σ) : Prop := Accounted x.registry x.journal

theorem quiet_counts {events : List Event} (quiet : ∀ e ∈ events, e.isQuiet = true)
    (id : SubscriptionId) : startsOf id events = 0 ∧ removalsOf id events = 0 := by
  refine counts_eq_zero fun e member => ⟨?_, ?_⟩
  · rintro reply rfl
    exact absurd (quiet _ member) (by simp [Event.isQuiet])
  · rintro rfl
    exact absurd (quiet _ member) (by simp [Event.isQuiet])

private theorem quiet_unsubscribed {events : List Event} (quiet : ∀ e ∈ events, e.isQuiet = true)
    (id : SubscriptionId) (topic : String) (delivery : Delivery) :
    .subscribed id topic delivery ∉ events := by
  intro member
  exact absurd (quiet _ member) (by simp [Event.isQuiet])

/-- Everything that happens leaves the account right. -/
theorem isAccounted_lasting :
    Invariant.Lasting (IsAccounted : Exchange ν σ → Prop) where
  aside registry _ journal h := by
    unfold IsAccounted
    rw [registry, journal]
    exact h
  tell events quiet h := h.tell (quiet_unsubscribed quiet) (quiet_counts quiet)
  subscribe topic delivery owner run h := h.insert _
  unsubscribe live h := h.remove live
  start owner program reply taken _ h := h.hand taken reply
  post box reply taken _ h := h.hand taken reply
  finish id h := h.tell (by simp) fun _ => ⟨rfl, rfl⟩
  converse topic delivery h := h.insert _
  read box _ h := h

structure IsFresh (x : Exchange ν σ) : Prop where
  registry : x.registry = .empty
  journal : ∀ e ∈ x.journal, e.isQuiet = true

theorem IsFresh.isAccounted {x : Exchange ν σ} (fresh : x.IsFresh) : x.IsAccounted := by
  unfold IsAccounted
  rw [fresh.registry]
  exact .empty (quiet_unsubscribed fresh.journal) (quiet_counts fresh.journal)

theorem journal_lasting (journal : List Event) :
    Invariant.Lasting fun x : Exchange ν σ => journal <+: x.journal where
  aside _ _ same h := by rwa [same]
  tell _ _ h := h.trans (List.prefix_append _ _)
  subscribe _ _ _ _ h := h.trans (List.prefix_append _ _)
  unsubscribe _ h := h.trans (List.prefix_append _ _)
  start _ _ _ _ _ h := h.trans (List.prefix_append _ _)
  post _ _ _ _ h := h.trans (List.prefix_append _ _)
  finish _ h := h.trans (List.prefix_append _ _)
  converse _ _ h := h.trans (List.prefix_append _ _)
  read _ _ h := h

private theorem insert_gone {κ : Type} {registry : Registry κ} {s : Subscription κ}
    {id : SubscriptionId} (h : registry.get? id = none ∧ id.number ≤ registry.lastNumber) :
    (registry.insert s).get? id = none ∧ id.number ≤ (registry.insert s).lastNumber := by
  have isOther : id ≠ registry.nextId := by
    rintro rfl
    exact Nat.not_succ_le_self _ h.2
  refine ⟨?_, Nat.le_succ_of_le h.2⟩
  rw [Registry.get?_insert, if_neg isOther]
  exact h.1

private theorem take_gone {κ : Type} {registry rest : Registry κ} {s : Subscription κ}
    {id other : SubscriptionId} (taken : registry.take other = some (s, rest))
    (h : registry.get? id = none ∧ id.number ≤ registry.lastNumber) :
    rest.get? id = none ∧ id.number ≤ rest.lastNumber := by
  rw [Registry.get?_take taken, Registry.lastNumber_take taken]
  exact ⟨by simp [h.1], h.2⟩

theorem gone_lasting (id : SubscriptionId) :
    Invariant.Lasting fun x : Exchange ν σ =>
      x.registry.get? id = none ∧ id.number ≤ x.registry.lastNumber where
  aside same _ _ h := by rwa [same]
  tell _ _ h := h
  subscribe _ _ _ _ h := insert_gone h
  unsubscribe _ h := ⟨by simp [enter, Registry.get?_erase, h.1], h.2⟩
  start _ _ _ taken _ h := take_gone taken h
  post _ _ taken _ h := take_gone taken h
  finish _ h := h
  converse _ _ h := insert_gone h
  read _ _ h := h

/-- A callback that has been started belongs to a subscription that is gone, if that is single. -/
theorem contains_of_started {x : Exchange ν σ} {id : SubscriptionId} {topic : String}
    (h : x.IsAccounted) (made : .subscribed id topic .once ∈ x.journal)
    {reply : Reply} (started : .started id reply ∈ x.journal) :
    x.registry.contains id = false ∧ startsOf id x.journal = 1 := by
  have positive : 0 < startsOf id x.journal :=
    List.countP_pos_iff.mpr ⟨_, started, by simp⟩
  rcases h.single made with ⟨-, zero, -⟩ | ⟨dead, one, -⟩ | ⟨-, zero, -⟩
  · omega
  · exact ⟨dead, one⟩
  · omega

variable [Outlet σ]

theorem disownFree_registry (x : Exchange ν σ) : x.disownFree.registry = x.registry := by
  unfold disownFree
  split <;> rfl

theorem get?_unsubscribe (x : Exchange ν σ) (id other : SubscriptionId) :
    (x.unsubscribe id).registry.get? other =
      if other = id then none else x.registry.get? other := by
  unfold unsubscribe
  split
  · simp [enter, disownFree_registry, Registry.get?_erase]
  · rename_i dead
    split
    · rename_i isRemoved
      rw [isRemoved]
      exact Registry.contains_eq_false.mp (Bool.eq_false_iff.mpr dead)
    · rfl

theorem unsubscribe_gone (x : Exchange ν σ) (id : SubscriptionId) :
    (x.unsubscribe id).registry.get? id = none := by
  rw [get?_unsubscribe, if_pos rfl]

theorem unsubscribe_journal (x : Exchange ν σ) (id : SubscriptionId) :
    ∃ more, (x.unsubscribe id).journal = x.journal ++ more ∧
      ∀ e ∈ more, e = .unsubscribed id ∨ e.isQuiet = true := by
  unfold unsubscribe
  split
  · obtain ⟨told, journal, quiet⟩ :=
      disownFree_journal ({ x with registry := x.registry.erase id }.enter [.unsubscribed id])
    refine ⟨.unsubscribed id :: told, by rw [journal]; simp [enter], fun e member => ?_⟩
    rcases List.mem_cons.mp member with rfl | member
    · exact .inl rfl
    · exact .inr (quiet e member)
  · exact ⟨[], (List.append_nil _).symm, nofun⟩

/-- The exchange when a request has been published, and what came back at once. -/
def ask (topic : String) (message : Json) (callback : Callback ν) (x : Exchange ν σ) :
    Exchange ν σ × List Frame :=
  (x.subscribe ⟨topic, .once, callback⟩).emit (.payload topic message)

def dispatchAll (depth : Nat) (frames : List Frame) (x : Exchange ν σ) : Exchange ν σ :=
  frames.foldl (fun x back => (dispatchWithin depth back x).1) x

theorem request_eq (topic : String) (message : Json) (callback : Callback ν) (x : Exchange ν σ) :
    x.request topic message callback =
      (dispatchAll x.nesting (x.ask topic message callback).2 (x.ask topic message callback).1,
        x.registry.nextId) := rfl

theorem ask_journal (topic : String) (message : Json) (callback : Callback ν)
    (x : Exchange ν σ) : ∃ told, (∀ e ∈ told, e.isOutward = true) ∧
      (x.ask topic message callback).1.journal = x.journal ++
        .subscribed x.registry.nextId topic .once ::
          .published (.payload topic message) :: told := by
  refine ⟨_, Outlet.publish_outward (.payload topic message) x.outlet, ?_⟩
  simp [ask, emit, subscribe, enter]

end Exchange

end Switchboard
