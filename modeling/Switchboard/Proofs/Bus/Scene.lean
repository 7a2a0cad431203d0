import Switchboard.Proofs.Bus.Arrivals
import Switchboard.Proofs.Conversation.Course
import Switchboard.Proofs.Exchange.Tally
/-!
Scenes: a bus and a party that is polled there at points in time, while anything else may be done to
the bus in between. A party that waits on a topic can take notice of three things, in the order in
which they happen: a reply arrives on the topic, the line closes, and the party is polled.
-/

set_option autoImplicit false
set_option relaxedAutoImplicit false

namespace Switchboard

variable {ν τ : Type}

open Exchange

namespace Bus

structure IsWorking (policy : Policy) (b : Bus ν) : Prop where
  setUp : b.IsSetUp policy
  accounted : b.IsAccounted
  known : b.FillsKnown

section Working

variable {policy : Policy} {b c : Bus ν}

theorem create_isWorking (settings : Settings) (onClose : Bool) :
    (create settings onClose : Bus ν).IsWorking settings.policy := by
  have fresh : (create settings onClose : Bus ν).IsFresh :=
    ⟨rfl, by simp [create, Event.isQuiet]⟩
  have known : (create settings onClose : Bus ν).FillsKnown := by
    intro _ _ _ found
    cases found
  exact ⟨create_isSetUp settings onClose, fresh.isAccounted, known⟩

theorem IsWorking.go {told : SubscriptionId → List Reply} {reads : Nat → Prop}
    (working : b.IsWorking policy) (tells : Tells told b c) (moves : Moves reads b c) :
    c.IsWorking policy where
  setUp := tells.isSetUp working.setUp
  accounted := moves.keeps isAccounted_lasting (fun _ _ => trivial) working.accounted
  known := moves.keeps fillsKnown_lasting (fun _ _ => trivial) working.known

theorem IsWorking.apply (working : b.IsWorking policy) {act : Act ν} (tame : act.IsTame) :
    (act.apply b).IsWorking policy := by
  obtain ⟨told, tells, -⟩ := apply_brings working.setUp working.accounted tame
  exact working.go tells (b.apply_moves act)

theorem IsWorking.after (working : b.IsWorking policy) {acts : List (Act ν)}
    (tame : ∀ act ∈ acts, act.IsTame) : (b.after acts).IsWorking policy := by
  induction acts generalizing b with
  | nil => exact working
  | cons act rest ih =>
    exact ih (working.apply (tame act List.mem_cons_self)) fun act member =>
      tame act (List.mem_cons_of_mem _ member)

theorem isClosed_eq_true : b.isClosed = true ↔ b.line.phase = .closed := decide_eq_true_iff

theorem arriving_closed {topic : String} (closed : b.isClosed = true) (act : Act ν) :
    b.arriving policy topic act = [] := by
  rcases arriving_cases policy topic b act with nothing | ⟨_, _, _, -, isOpen, -⟩
  · exact nothing
  · rw [isClosed_eq_true.mp closed] at isOpen
    cases isOpen

theorem apply_stays {act : Act ν} {id : SubscriptionId} {topic : String} {delivery : Delivery}
    (made : .subscribed id topic delivery ∈ b.journal)
    (unremoved : .unsubscribed id ∉ b.journal)
    (spared : .unsubscribed id ∉ b.entriesSince (act.apply b)) :
    .subscribed id topic delivery ∈ (act.apply b).journal ∧
      .unsubscribed id ∉ (act.apply b).journal := by
  rw [(b.apply_moves act).continues.2.1, List.mem_append, List.mem_append]
  exact ⟨.inl made, not_or.mpr ⟨unremoved, spared⟩⟩

theorem isClosed_apply {act : Act ν} (tame : act.IsTame) (closed : b.isClosed = true) :
    (act.apply b).isClosed = true :=
  isClosed_eq_true.mpr (apply_closed tame (isClosed_eq_true.mp closed))

end Working

/-- What a conversation can do to a bus in one go, reading such boxes: these subscriptions are made,
and none but those are removed; nobody is told anything and the line stays in its phase. -/
structure Visit (reads : Nat → Prop) (made removed : List SubscriptionId) (b c : Bus ν) :
    Prop where
  hands : Hands nothing b c
  moves : Moves reads b c
  made : madeIn (b.entriesSince c) = made
  removed : ∀ {id}, .unsubscribed id ∈ c.journal → .unsubscribed id ∈ b.journal ∨ id ∈ removed

namespace Visit

variable {reads : Nat → Prop} {made made' removed removed' : List SubscriptionId} {b c d : Bus ν}

section Laws

theorem unnoticed (hands : Hands nothing b c) (moves : Moves reads b c)
    (journal : c.journal = b.journal) : Visit reads [] [] b c where
  hands := hands
  moves := moves
  made := by rw [entriesSince, journal, List.drop_length]; rfl
  removed gone := .inl (journal ▸ gone)

theorem refl (b : Bus ν) : Visit reads [] [] b b := unnoticed (telling.refl b) (.refl b) rfl

theorem trans (first : Visit reads made removed b c) (later : Visit reads made' removed' c d) :
    Visit reads (made ++ made') (removed ++ removed') b d where
  hands := telling.before first.hands later.hands
  moves := first.moves.trans later.moves
  made := by
    have parts : b.entriesSince d = b.entriesSince c ++ c.entriesSince d := by
      have whole := later.moves.continues.2.1
      rw [first.moves.continues.2.1, List.append_assoc] at whole
      rw [entriesSince, whole, List.drop_left]
    rw [parts, madeIn_append, first.made, later.made]
  removed gone := by
    rcases later.removed gone with before | new
    · exact (first.removed before).imp_right (List.mem_append_left _)
    · exact .inr (List.mem_append_right _ new)

theorem mono (visit : Visit reads made removed b c) (sub : removed ⊆ removed') :
    Visit reads made removed' b c :=
  { visit with removed := fun gone => (visit.removed gone).imp_right fun member => sub member }

theorem new (visit : Visit reads made removed b c) {id : SubscriptionId} (member : id ∈ made) :
    b.registry.lastNumber < id.number := by
  rw [← visit.made] at member
  obtain ⟨topic, delivery, entered⟩ := mem_madeIn.mp member
  exact visit.moves.continues.2.2 id topic delivery entered

theorem isClosed_eq (visit : Visit reads made removed b c) : c.isClosed = b.isClosed := by
  rw [Bool.eq_iff_iff, isClosed_eq_true, isClosed_eq_true, visit.hands.phase]

theorem repliesTo_eq (visit : Visit reads made removed b c) (id : SubscriptionId) :
    repliesTo id c.journal = repliesTo id b.journal := by
  rw [visit.hands.replies, nothing, List.append_nil]

theorem grown (visit : Visit reads made removed b c) : b.journal <+: c.journal :=
  visit.moves.keeps (journal_lasting b.journal) (fun _ _ => trivial) List.prefix_rfl

theorem isWorking {policy : Policy} (visit : Visit reads made removed b c)
    (working : b.IsWorking policy) : c.IsWorking policy :=
  working.go visit.hands.toTells visit.moves

end Laws

private theorem madeIn_quiet {events : List Event} (quiet : ∀ e ∈ events, e.isQuiet = true) :
    madeIn events = [] :=
  (untallied fun e member => Event.isTallied_of_isQuiet (quiet e member)).1

theorem enter (b : Bus ν) {events : List Event} (quiet : ∀ e ∈ events, e.isQuiet = true) :
    Visit reads [] [] b (b.enter events) where
  hands := telling.quiet b events quiet
  moves := fun _ h => h.tell events quiet
  made := by
    rw [entriesSince, Exchange.enter, List.drop_left]
    exact madeIn_quiet quiet
  removed gone := by
    rcases List.mem_append.mp gone with before | new
    · exact .inl before
    · cases quiet _ new

theorem unsubscribe (b : Bus ν) (id : SubscriptionId) :
    Visit reads [] [id] b (b.unsubscribe id) := by
  obtain ⟨more, journal, only⟩ := b.unsubscribe_journal id
  refine ⟨b.unsubscribe_hands id, .unsubscribe id, ?_, fun {other} gone => ?_⟩
  · rw [entriesSince, journal, List.drop_left]
    refine List.eq_nil_iff_forall_not_mem.mpr fun other member => ?_
    obtain ⟨topic, delivery, entered⟩ := mem_madeIn.mp member
    rcases only _ entered with isRemoval | quiet
    · cases isRemoval
    · cases quiet
  · rw [journal] at gone
    rcases List.mem_append.mp gone with before | new
    · exact .inl before
    · rcases only _ new with isRemoval | quiet
      · cases isRemoval
        exact .inr List.mem_cons_self
      · cases quiet

theorem converse (b : Bus ν) (topic : String) (delivery : Delivery) (frame : Frame) :
    Visit reads [b.registry.nextId] [] b ((b.begun topic delivery).publish frame) := by
  have outward := Outlet.publish_outward frame b.outlet
  generalize entered : (Outlet.publish frame b.outlet).2.1 = told at outward
  have quiet : ∀ e ∈ .published frame :: told, e.isQuiet = true :=
    List.forall_mem_cons.mpr ⟨rfl, fun e member => Event.isQuiet_of_isOutward (outward e member)⟩
  have journal : ((b.begun topic delivery).publish frame).journal =
      b.journal ++ .subscribed b.registry.nextId topic delivery :: .published frame :: told := by
    rw [← entered]
    exact List.append_assoc _ _ _
  refine ⟨hands_conversing.converse b topic delivery frame,
    .converse b.nesting topic delivery frame, ?_, fun {other} gone => ?_⟩
  · rw [entriesSince, journal, List.drop_left]
    exact congrArg (b.registry.nextId :: ·) (madeIn_quiet quiet)
  · rw [journal] at gone
    rcases List.mem_append.mp gone with before | new
    · exact .inl before
    · cases new with
      | tail _ later => cases quiet _ later

end Visit

/-- A conversation that has begun and published owns its box, and nobody has removed its
subscription or told it anything. -/
theorem IsWorking.begins {policy : Policy} {b : Bus ν} (working : b.IsWorking policy)
    (topic : String) (delivery : Delivery) (frame : Frame) :
    let c := (b.begun topic delivery).publish frame
    Owns b.registry.nextId b.nextBox 0 c ∧
      .subscribed b.registry.nextId topic delivery ∈ c.journal ∧
      .unsubscribed b.registry.nextId ∉ c.journal ∧ repliesTo b.registry.nextId c.journal = [] := by
  intro c
  have visit : Visit (fun _ => False) [b.registry.nextId] [] b c :=
    .converse b topic delivery frame
  have published : Moves (fun _ => False) (b.begun topic delivery) c := .publish b.nesting frame
  refine ⟨?_, ?_, fun gone => ?_, ?_⟩
  · have owns : Owns b.registry.nextId b.nextBox 0 (b.begun topic delivery) :=
      Owns.converse working.known working.accounted topic delivery
    exact published.keeps (owns_survives b.registry.nextId b.nextBox 0) (fun _ => False.elim) owns
  · have begun : .subscribed b.registry.nextId topic delivery ∈ (b.begun topic delivery).journal :=
      List.mem_append_right _ List.mem_cons_self
    have grown := published.keeps (journal_lasting (b.begun topic delivery).journal)
      (fun _ _ => trivial) List.prefix_rfl
    exact grown.subset begun
  · rcases visit.removed gone with before | new
    · exact Nat.not_succ_le_self _ (working.accounted.issued_of_removed before)
    · cases new
  · rw [visit.repliesTo_eq, working.accounted.repliesTo_nextId]

end Bus

inductive Moment (ν : Type)
  | act (act : Act ν)
  | look (now : Nat)

structure Scene (ν τ : Type) where
  bus : Bus ν
  party : τ

/-- What a party that waits on a topic takes notice of. -/
inductive Sign
  | reply (reply : Reply)
  | closing
  | look (now : Nat)
  deriving DecidableEq

abbrev Polling (ν τ : Type) := Nat → τ → Bus ν → Bus ν × τ

namespace Scene

def signsOf (policy : Policy) (topic : String) (s : Scene ν τ) : Moment ν → List Sign
  | .act act => (s.bus.arriving policy topic act).map .reply ++
      if (act.apply s.bus).isClosed && !s.bus.isClosed then [.closing] else []
  | .look now => [.look now]

section Runs

variable (poll : Polling ν τ)

def step (s : Scene ν τ) : Moment ν → Scene ν τ
  | .act act => { s with bus := act.apply s.bus }
  | .look now => ⟨(poll now s.party s.bus).1, (poll now s.party s.bus).2⟩

def after (s : Scene ν τ) : List (Moment ν) → Scene ν τ
  | [] => s
  | moment :: rest => (s.step poll moment).after rest

def signs (policy : Policy) (topic : String) (s : Scene ν τ) : List (Moment ν) → List Sign
  | [] => []
  | moment :: rest => s.signsOf policy topic moment ++ (s.step poll moment).signs policy topic rest

def makes (s : Scene ν τ) : Moment ν → List SubscriptionId
  | .act _ => []
  | .look now => madeIn (s.bus.entriesSince (poll now s.party s.bus).1)

def made (s : Scene ν τ) : List (Moment ν) → List SubscriptionId
  | [] => []
  | moment :: rest => s.makes poll moment ++ (s.step poll moment).made rest

/-- Whatever is done to the bus in a run is allowed at that time. -/
def Admits (allowed : Scene ν τ → Act ν → Prop) (s : Scene ν τ) : List (Moment ν) → Prop
  | [] => True
  | .act act :: rest => allowed s act ∧ (s.step poll (.act act)).Admits allowed rest
  | .look now :: rest => (s.step poll (.look now)).Admits allowed rest

variable {poll} {policy : Policy} {topic : String} {allowed : Scene ν τ → Act ν → Prop}

theorem after_append (s : Scene ν τ) (past more : List (Moment ν)) :
    s.after poll (past ++ more) = (s.after poll past).after poll more := by
  induction past generalizing s with
  | nil => rfl
  | cons moment rest ih => exact ih _

theorem signs_append (s : Scene ν τ) (past more : List (Moment ν)) :
    s.signs poll policy topic (past ++ more) =
      s.signs poll policy topic past ++ (s.after poll past).signs poll policy topic more := by
  induction past generalizing s with
  | nil => rfl
  | cons moment rest ih => simp only [List.cons_append, signs, after, ih, List.append_assoc]

theorem made_append (s : Scene ν τ) (past more : List (Moment ν)) :
    s.made poll (past ++ more) = s.made poll past ++ (s.after poll past).made poll more := by
  induction past generalizing s with
  | nil => rfl
  | cons moment rest ih => simp only [List.cons_append, made, after, ih, List.append_assoc]

theorem admits_append (s : Scene ν τ) (past more : List (Moment ν)) :
    s.Admits poll allowed (past ++ more) ↔
      s.Admits poll allowed past ∧ (s.after poll past).Admits poll allowed more := by
  induction past generalizing s with
  | nil => exact (and_iff_right trivial).symm
  | cons moment rest ih =>
    cases moment with
    | act act => exact (and_congr_right' (ih _)).trans and_assoc.symm
    | look now => exact ih _

section Between

variable (s : Scene ν τ) (moments : List (Moment ν))

theorem after_between (first last : Moment ν) :
    s.after poll (first :: moments ++ [last]) =
      ((s.step poll first).after poll moments).step poll last :=
  (s.step poll first).after_append moments [last]

theorem signs_between (first last : Moment ν) :
    s.signs poll policy topic (first :: moments ++ [last]) =
      s.signsOf policy topic first ++ (s.step poll first).signs poll policy topic moments ++
        ((s.step poll first).after poll moments).signsOf policy topic last := by
  simp only [List.cons_append, signs, signs_append, List.append_nil, List.append_assoc]

theorem made_between (first last : Moment ν) :
    s.made poll (first :: moments ++ [last]) =
      s.makes poll first ++ (s.step poll first).made poll moments ++
        ((s.step poll first).after poll moments).makes poll last := by
  simp only [List.cons_append, made, made_append, List.append_nil, List.append_assoc]

theorem admits_between {first last : Nat}
    (admits : s.Admits poll allowed (.look first :: moments ++ [.look last])) :
    (s.step poll (.look first)).Admits poll allowed moments := by
  simp only [List.cons_append, Admits, admits_append] at admits
  exact admits.1

end Between

/-- What holds at the beginning, and is kept by what may be done to the bus and by every poll of the
party, holds throughout a run. -/
theorem keeps {P : List (Moment ν) → Prop} (s : Scene ν τ) (base : P [])
    (act : ∀ past act, P past → allowed (s.after poll past) act → P (past ++ [.act act]))
    (look : ∀ past now, P past → P (past ++ [.look now])) {moments : List (Moment ν)}
    (admits : s.Admits poll allowed moments) : P moments := by
  -- runs grow at their end
  induction moments using List.reverseRecOn with
  | nil => exact base
  | append_singleton past moment ih =>
    obtain ⟨before, last⟩ := (s.admits_append past [moment]).mp admits
    cases moment with
    | act a => exact act past a (ih before) last.1
    | look now => exact look past now (ih before)

end Runs

end Scene

end Switchboard
