import Switchboard.Conversation.Stream
import Switchboard.Proofs.Exchange.Account
/-!
Boxes and their owners. The box of a conversation holds the replies with which the callback of its
subscription was started, less those that the conversation has read; nothing else gets into it and
nobody else reads it.
-/

set_option autoImplicit false
set_option relaxedAutoImplicit false

namespace Switchboard

/-- The replies with which the callback of a subscription was started, in this order. -/
def repliesTo (id : SubscriptionId) (journal : List Event) : List Reply :=
  journal.filterMap fun
    | .started other reply => if other = id then some reply else none
    | _ => none

section Replies

variable {id other : SubscriptionId} {a b : List Event} {reply : Reply}

@[simp] theorem repliesTo_append : repliesTo id (a ++ b) = repliesTo id a ++ repliesTo id b :=
  List.filterMap_append

@[simp] theorem repliesTo_started :
    repliesTo id [.started other reply] = if other = id then [reply] else [] := by
  unfold repliesTo
  split <;> simp [*]

theorem mem_repliesTo : reply ∈ repliesTo id a ↔ .started id reply ∈ a := by
  unfold repliesTo
  rw [List.mem_filterMap]
  constructor
  · rintro ⟨e, member, found⟩
    split at found
    · rename_i other told
      split at found
      · rename_i same
        cases found
        subst same
        exact member
      · cases found
    · cases found
  · intro member
    exact ⟨_, member, by simp⟩

theorem repliesTo_quiet (quiet : ∀ e ∈ a, e.isQuiet = true) : repliesTo id a = [] := by
  refine List.eq_nil_iff_forall_not_mem.mpr fun reply member => ?_
  exact absurd (quiet _ (mem_repliesTo.mp member)) (by simp [Event.isQuiet])

theorem length_repliesTo : (repliesTo id a).length = startsOf id a := by
  induction a with
  | nil => rfl
  | cons e rest ih =>
    have first : (repliesTo id [e]).length = startsOf id [e] := by
      cases e with
      | started other reply =>
        rw [repliesTo_started, startsOf_started]
        split <;> rfl
      | _ => rfl
    have parts : e :: rest = [e] ++ rest := rfl
    rw [parts, repliesTo_append, startsOf_append, List.length_append, first, ih]

theorem repliesTo_eq_nil : repliesTo id a = [] ↔ startsOf id a = 0 := by
  rw [← length_repliesTo, List.length_eq_zero_iff]

end Replies

namespace Exchange

variable {ν σ : Type} {x : Exchange ν σ} {box other : Nat} {reply : Reply}

theorem box_addBox (there : box < x.boxes.length) : x.addBox.box box = x.box box := by
  simp [Exchange.box, addBox, List.getElem?_append_left there]

theorem box_post (there : other < x.boxes.length) :
    (x.post other reply).box box = if box = other then x.box box ++ [reply] else x.box box := by
  unfold Exchange.box post
  rw [List.getElem?_modify]
  split
  · rename_i same
    subst same
    simp [List.getElem?_eq_getElem there]
  · rename_i isOther
    simp [Ne.symm isOther]

theorem box_unpost (isOther : box ≠ other) : (x.unpost other).box box = x.box box := by
  simp [Exchange.box, unpost, Ne.symm isOther]

theorem box_unpost_self : (x.unpost box).box box = (x.box box).tail := by
  unfold Exchange.box unpost
  rw [List.getElem?_modify]
  cases x.boxes[box]? with
  | none => rfl
  | some replies => simp

theorem IsAccounted.repliesTo_unissued (h : x.IsAccounted) {id : SubscriptionId}
    (late : x.registry.lastNumber < id.number) : repliesTo id x.journal = [] :=
  repliesTo_eq_nil.mpr (h.unissued late).1

theorem IsAccounted.repliesTo_nextId (h : x.IsAccounted) :
    repliesTo x.registry.nextId x.journal = [] :=
  h.repliesTo_unissued (Nat.lt_succ_self _)

/-- A subscription that was made is live as long as nobody removed it and, if it is single, it has
not been served. -/
theorem IsAccounted.contains_iff (h : x.IsAccounted) {id : SubscriptionId} {topic : String}
    {delivery : Delivery} (made : .subscribed id topic delivery ∈ x.journal) :
    x.registry.contains id = true ↔
      .unsubscribed id ∉ x.journal ∧ (delivery = .once → repliesTo id x.journal = []) := by
  constructor
  · intro live
    obtain ⟨s, found⟩ := Registry.contains_eq_true.mp live
    obtain ⟨made', kept, unstarted⟩ := h.live found
    have same : s.delivery = delivery := (h.unique made' made).2
    exact ⟨List.count_eq_zero.mp kept, fun once => repliesTo_eq_nil.mpr (unstarted (same ▸ once))⟩
  · rintro ⟨unremoved, unserved⟩
    have live : x.registry.delivery? id = some delivery :=
      h.delivery?_eq_some.mpr ⟨⟨topic, made⟩, unremoved, fun once =>
        repliesTo_eq_nil.mp (unserved once)⟩
    obtain ⟨s, found, -⟩ := Option.map_eq_some_iff.mp live
    exact Registry.contains_eq_true.mpr ⟨s, found⟩

theorem contains_of_unremoved {y : Exchange ν σ} {id : SubscriptionId} (before : x.IsAccounted)
    (now : y.IsAccounted) (grown : x.journal <+: y.journal)
    (unserved : repliesTo id y.journal = repliesTo id x.journal)
    (live : x.registry.contains id = true) (unremoved : .unsubscribed id ∉ y.journal) :
    y.registry.contains id = true := by
  obtain ⟨s, found⟩ := Registry.contains_eq_true.mp live
  have made := (before.live found).1
  obtain ⟨-, waits⟩ := (before.contains_iff made).mp live
  exact (now.contains_iff (grown.subset made)).mpr ⟨unremoved, fun once => unserved ▸ waits once⟩

def FillsKnown (x : Exchange ν σ) : Prop :=
  ∀ id s box, x.registry.get? id = some s → s.callback = .box box → box < x.boxes.length

/-- A subscription and its box, from which so many replies have been read. -/
structure Owns (id : SubscriptionId) (box read : Nat) (x : Exchange ν σ) : Prop where
  issued : id.number ≤ x.registry.lastNumber
  there : box < x.boxes.length
  fills : ∀ {other s}, x.registry.get? other = some s → (s.callback = .box box ↔ other = id)
  known : read ≤ (repliesTo id x.journal).length
  content : x.box box = (repliesTo id x.journal).drop read

private theorem FillsKnown.of_live {y : Exchange ν σ} (h : x.FillsKnown)
    (live : ∀ id s, y.registry.get? id = some s → x.registry.get? id = some s)
    (longer : x.boxes.length ≤ y.boxes.length) : y.FillsKnown := by
  intro id s box found fills
  exact Nat.lt_of_lt_of_le (h id s box (live id s found) fills) longer

theorem fillsKnown_lasting : Invariant.Lasting (FillsKnown : Exchange ν σ → Prop) where
  aside registry boxes _ h :=
    h.of_live (by rw [registry]; exact fun _ _ => id) (Nat.le_of_eq (by rw [boxes]))
  tell _ _ h := h
  subscribe topic delivery owner run h := by
    intro id s box found fills
    simp only [subscribe, enter, Registry.get?_insert] at found
    split at found
    · cases found
      cases fills
    · exact h id s box found fills
  unsubscribe _ h := h.of_live (fun _ _ live => (Registry.get?_of_erase live).1) (Nat.le_refl _)
  start _ _ _ taken _ h :=
    h.of_live (fun _ _ live => Registry.get?_of_take taken live) (Nat.le_refl _)
  post _ _ taken _ h :=
    h.of_live (fun _ _ live => Registry.get?_of_take taken live) (by simp [post, commence, enter])
  finish _ h := h
  converse topic delivery h := by
    intro id s box found fills
    simp only [subscribe, enter, addBox, Registry.get?_insert] at found
    simp only [subscribe, enter, addBox, List.length_append, List.length_singleton]
    split at found
    · cases found
      cases fills
      exact Nat.lt_succ_self _
    · exact Nat.lt_succ_of_lt (h id s box found fills)
  read box _ h := h.of_live (fun _ _ => id) (by simp [unpost])

namespace Owns

variable {id : SubscriptionId} {read : Nat}

private theorem of_live {y : Exchange ν σ} {events : List Event} (h : Owns id box read x)
    (numbers : x.registry.lastNumber ≤ y.registry.lastNumber)
    (longer : x.boxes.length ≤ y.boxes.length)
    (live : ∀ other s, y.registry.get? other = some s → x.registry.get? other = some s)
    (same : y.box box = x.box box) (journal : y.journal = x.journal ++ events)
    (none : repliesTo id events = []) : Owns id box read y := by
  have replies : repliesTo id y.journal = repliesTo id x.journal := by
    rw [journal, repliesTo_append, none, List.append_nil]
  refine ⟨Nat.le_trans h.issued numbers, Nat.lt_of_lt_of_le h.there longer, ?_, ?_, ?_⟩
  · intro other s found
    exact h.fills (live other s found)
  · rw [replies]
    exact h.known
  · rw [same, replies]
    exact h.content

private theorem insert (h : Owns id box read x) {y : Exchange ν σ}
    {s : Subscription (Callback ν)} (registry : y.registry = x.registry.insert s)
    (longer : x.boxes.length ≤ y.boxes.length) (elsewhere : s.callback ≠ .box box)
    (same : y.box box = x.box box)
    (journal : y.journal =
      x.journal ++ [.subscribed x.registry.nextId s.topic s.delivery]) :
    Owns id box read y := by
  have isOther : x.registry.nextId ≠ id := by
    rintro rfl
    exact Nat.not_succ_le_self _ h.issued
  have replies : repliesTo id y.journal = repliesTo id x.journal := by
    rw [journal, repliesTo_append]
    exact List.append_nil _
  refine ⟨?_, Nat.lt_of_lt_of_le h.there longer, ?_, ?_, ?_⟩
  · rw [registry]
    exact Nat.le_succ_of_le h.issued
  · intro other t found
    rw [registry, Registry.get?_insert] at found
    split at found
    · rename_i isNext
      cases found
      subst isNext
      simp [elsewhere, isOther]
    · exact h.fills found
  · rw [replies]
    exact h.known
  · rw [same, replies]
    exact h.content

private theorem start (h : Owns id box read x) {other : SubscriptionId}
    {s : Subscription (Callback ν)} {rest : Registry (Callback ν)} (reply : Reply)
    (taken : x.registry.take other = some (s, rest)) (elsewhere : s.callback ≠ .box box) :
    Owns id box read ({ x with registry := rest }.commence s.callback other reply) := by
  have isOther : other ≠ id := fun same =>
    elsewhere ((h.fills (Registry.take_eq_some.mp taken).1).mpr same)
  refine h.of_live ?_ (Nat.le_refl _) (fun _ _ => Registry.get?_of_take taken) rfl rfl
      (by simp [isOther])
  exact Nat.le_of_eq (Registry.lastNumber_take taken).symm

private theorem post (h : Owns id box read x) {other : SubscriptionId}
    {s : Subscription (Callback ν)} {rest : Registry (Callback ν)} (target : Nat) (reply : Reply)
    (taken : x.registry.take other = some (s, rest)) (fills : s.callback = .box target) :
    Owns id box read
      (({ x with registry := rest }.commence s.callback other reply).post target reply) := by
  have found := (Registry.take_eq_some.mp taken).1
  by_cases same : target = box
  · subst same
    obtain rfl := (h.fills found).mp fills
    have replies : repliesTo other (x.journal ++ [.started other reply]) =
        repliesTo other x.journal ++ [reply] := by simp
    refine ⟨?_, ?_, ?_, ?_, ?_⟩
    · exact Nat.le_trans h.issued (Nat.le_of_eq (Registry.lastNumber_take taken).symm)
    · simpa [Exchange.post, commence, enter] using h.there
    · intro third t live
      exact h.fills (Registry.get?_of_take taken live)
    · change read ≤ (repliesTo other (x.journal ++ [.started other reply])).length
      rw [replies, List.length_append]
      exact Nat.le_add_right_of_le h.known
    · rw [box_post (by exact h.there), if_pos rfl]
      change x.box target ++ [reply] =
        (repliesTo other (x.journal ++ [.started other reply])).drop read
      rw [replies, List.drop_append_of_le_length h.known, h.content]
  · have elsewhere : s.callback ≠ .box box := by
      rw [fills]
      intro clash
      cases clash
      exact same rfl
    have started := h.start reply taken elsewhere
    refine started.of_live (Nat.le_refl _) (by simp [Exchange.post]) (fun _ _ live => live) ?_
      (List.append_nil _).symm rfl
    simp [Exchange.box, Exchange.post, same]

end Owns

theorem owns_survives (id : SubscriptionId) (box read : Nat) :
    Invariant.Survives (· ≠ box) (Owns id box read : Exchange ν σ → Prop) where
  aside registry boxes journal h := by
    refine h.of_live (Nat.le_of_eq (by rw [registry])) (Nat.le_of_eq (by rw [boxes])) ?_ ?_
      (journal.trans (List.append_nil _).symm) rfl
    · rw [registry]
      exact fun _ _ live => live
    · simp [Exchange.box, boxes]
  tell events quiet h :=
    h.of_live (Nat.le_refl _) (Nat.le_refl _) (fun _ _ live => live) rfl rfl (repliesTo_quiet quiet)
  subscribe topic delivery owner run h :=
    h.insert rfl (Nat.le_refl _) nofun rfl rfl
  unsubscribe _ h :=
    h.of_live (Nat.le_refl _) (Nat.le_refl _)
      (fun _ _ live => (Registry.get?_of_erase live).1) rfl rfl rfl
  start owner program reply taken fills h := h.start reply taken (by rw [fills]; nofun)
  post target reply taken fills h := h.post target reply taken fills
  finish _ h :=
    h.of_live (Nat.le_refl _) (Nat.le_refl _) (fun _ _ live => live) rfl rfl rfl
  converse topic delivery h := by
    refine h.insert rfl ?_ ?_ (box_addBox h.there) rfl
    · simp [subscribe, enter, addBox]
    · intro clash
      cases clash
      exact Nat.lt_irrefl _ h.there
  read target isOther h :=
    h.of_live (Nat.le_refl _) (by simp [unpost]) (fun _ _ live => live) (box_unpost isOther.symm)
      (List.append_nil _).symm rfl

theorem Owns.converse (known : x.FillsKnown) (accounted : x.IsAccounted) (topic : String)
    (delivery : Delivery) :
    Owns x.registry.nextId x.nextBox 0
      (x.addBox.subscribe ⟨topic, delivery, .box x.nextBox⟩) := by
  refine ⟨Nat.le_refl _, ?_, ?_, Nat.zero_le _, ?_⟩
  · simp [subscribe, enter, addBox, nextBox]
  · intro other s found
    simp only [subscribe, enter, addBox, Registry.get?_insert] at found
    split at found
    · rename_i isNext
      cases found
      simp [isNext]
    · rename_i isOther
      refine iff_of_false (fun fills => ?_) isOther
      exact Nat.lt_irrefl _ (known other s x.nextBox found fills)
  · have journal : repliesTo x.registry.nextId
        (x.addBox.subscribe ⟨topic, delivery, .box x.nextBox⟩).journal = [] := by
      simp only [subscribe, enter, addBox, repliesTo_append, accounted.repliesTo_nextId]
      rfl
    rw [journal]
    simp [Exchange.box, subscribe, enter, addBox, nextBox]

end Exchange

end Switchboard
