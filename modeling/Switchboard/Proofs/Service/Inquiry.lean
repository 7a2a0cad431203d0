import Mathlib.Data.List.Forall2
import Switchboard.Proofs.Bus.Scene
import Switchboard.Proofs.Conversation.Books
import Switchboard.Service.Query
/-!
Asking for all services at once. Whatever arrives for whom and in whatever order, each row of the
table is decided by the first sign on its own topic that says something: a reply, the closing of the
line, or a poll that comes when the question is late. What was subscribed for the questions is gone
when the table is there, and nothing else is.
-/

set_option autoImplicit false
set_option relaxedAutoImplicit false

namespace Switchboard

variable {ν : Type}

open Exchange Bus

namespace ServiceQuery

section Verdicts

/-- What a sign says about a question with a deadline, if it says anything. -/
def ruling (deadline : Nat) : Sign → Option ServiceStatus
  | .reply reply => some (.ofReply reply)
  | .closing => some (.failed "Connection closed")
  | .look now => if deadline ≤ now then some (.failed "timed out") else none

/-- What the signs on its topic decide about a question: the first one that says anything does. -/
def verdict (deadline : Nat) (signs : List Sign) : Option ServiceStatus :=
  signs.findSome? (ruling deadline)

def finding (replies : List Reply) (closed : Bool) : Option ServiceStatus :=
  match replies with
  | reply :: _ => some (.ofReply reply)
  | [] => if closed then some (.failed "Connection closed") else none

variable {deadline : Nat} {signs more : List Sign}

theorem verdict_append :
    verdict deadline (signs ++ more) = (verdict deadline signs).or (verdict deadline more) :=
  List.findSome?_append

/-- A verdict stands, whatever comes later. -/
theorem verdict_stays {status : ServiceStatus} (decided : verdict deadline signs = some status) :
    verdict deadline (signs ++ more) = some status := by
  rw [verdict_append, decided, Option.some_or]

theorem verdict_look (now : Nat) :
    verdict deadline [.look now] = ruling deadline (.look now) := by
  rw [verdict, List.findSome?_singleton]

theorem decided_late {now : Nat} (late : deadline ≤ now) :
    (verdict deadline (signs ++ [.look now])).isSome := by
  rw [verdict_append, verdict_look, ruling, if_pos late]
  cases verdict deadline signs <;> rfl

theorem verdict_arrivals (replies : List Reply) (closed : Bool) :
    verdict deadline (replies.map .reply ++ if closed then [.closing] else []) =
      finding replies closed := by
  cases replies with
  | cons reply rest => rfl
  | nil => cases closed <;> rfl

end Verdicts

structure Place where
  service : String × String
  id : SubscriptionId

def question (deadlines : String → Nat) (service : String × String) : ServiceQuery :=
  ⟨service.2, .fresh service.1 (statusMessage service.2), deadlines service.1, none⟩

def asking (deadlines : String → Nat) : List ServiceQuery := knownServices.map (question deadlines)

theorem all_eq_asking (deadline : Nat) : all deadline = asking fun _ => deadline := rfl

section Places

variable (deadlines : String → Nat)

/-- How it stands with the question at a place after these signs on its topic: it waits, and what a
poll finds is what the signs decide, or it was settled by them and its subscription is gone. -/
inductive Stands (b : Bus ν) (place : Place) (signs : List Sign) : ServiceQuery → Prop
  | waiting (box : Nat) : Owns place.id box 0 b →
    .subscribed place.id place.service.1 .once ∈ b.journal → .unsubscribed place.id ∉ b.journal →
    verdict (deadlines place.service.1) signs =
      finding (repliesTo place.id b.journal) b.isClosed →
    Stands b place signs
      ⟨place.service.2, .waiting place.id box, deadlines place.service.1, none⟩
  | settled (status : ServiceStatus) : b.registry.get? place.id = none →
    place.id.number ≤ b.registry.lastNumber →
    verdict (deadlines place.service.1) signs = some status →
    Stands b place signs ⟨place.service.2, .finished, deadlines place.service.1, some status⟩

variable {deadlines} {policy : Policy} {b c : Bus ν} {place : Place} {signs : List Sign}
  {q : ServiceQuery} {made removed : List SubscriptionId}

theorem Stands.issued (stands : Stands deadlines b place signs q) :
    place.id.number ≤ b.registry.lastNumber := by
  cases stands with
  | waiting box owns => exact owns.issued
  | settled status gone issued => exact issued

theorem Stands.name_eq (stands : Stands deadlines b place signs q) : q.name = place.service.2 := by
  cases stands <;> rfl

theorem Stands.beside (stands : Stands deadlines b place signs q)
    (visit : Visit (fun _ => False) made removed b c) (foreign : place.id ∉ removed) :
    Stands deadlines c place signs q := by
  cases stands with
  | waiting box owns entered unremoved decided =>
    refine .waiting box ?_ (visit.grown.subset entered) ?_ ?_
    · exact visit.moves.keeps (owns_survives place.id box 0) (fun _ => False.elim) owns
    · intro gone
      exact (visit.removed gone).elim unremoved foreign
    · rw [decided, visit.repliesTo_eq, visit.isClosed_eq]
  | settled status gone issued decided =>
    have still := visit.moves.keeps (gone_lasting place.id) (fun _ _ => trivial) ⟨gone, issued⟩
    exact .settled status still.1 still.2 decided

variable (deadlines) in
theorem stands_called (working : b.IsWorking policy) (isOpen : b.isClosed = false)
    (service : String × String) (message : Json) :
    Stands deadlines (b.called service.1 message) ⟨service, b.registry.nextId⟩ []
      ⟨service.2, .waiting b.registry.nextId b.nextBox, deadlines service.1, none⟩ := by
  obtain ⟨owns, entered, unremoved, unheard⟩ :=
    working.begins service.1 .once (.payload service.1 message)
  have asked : Visit (fun _ => False) [b.registry.nextId] [] b (b.called service.1 message) :=
    .converse b service.1 .once _
  refine .waiting b.nextBox owns entered unremoved ?_
  rw [asked.isClosed_eq, isOpen]
  exact (congrArg (finding · false) unheard).symm

/-- A question that waits is settled by what is found, or else by its deadline. -/
theorem poll_waiting (name : String) {id : SubscriptionId} {box : Nat} (deadline now : Nat)
    {replies : List Reply} (content : b.box box = replies)
    (live : replies = [] → b.registry.contains id = true) :
    (⟨name, .waiting id box, deadline, none⟩ : ServiceQuery).poll now b =
      match (finding replies b.isClosed).or (ruling deadline (.look now)) with
      | some status => (⟨name, .finished, deadline, none⟩ : ServiceQuery).settle status
          (b.unsubscribe id)
      | none => (b, ⟨name, .waiting id box, deadline, none⟩) := by
  cases replies with
  | cons reply rest =>
    simp [ServiceQuery.poll, Call.poll, Call.await, content, finding, Call.conclude, settle]
  | nil =>
    cases closed : b.isClosed with
    | true =>
      simp [ServiceQuery.poll, Call.poll, Call.await, content, live, closed, finding, Call.conclude,
        settle, BusError.message]
    | false =>
      by_cases late : deadline ≤ now
      · simp [ServiceQuery.poll, Call.poll, Call.await, content, live, closed, finding, Call.drop,
          settle, ruling, late]
      · simp [ServiceQuery.poll, Call.poll, Call.await, content, live, closed, finding, ruling,
          late]

variable (deadlines) in
/-- How it stands right after a poll: the answer is there as soon as the signs decide. -/
structure Answers (b : Bus ν) (place : Place) (signs : List Sign) (q : ServiceQuery) : Prop where
  stands : Stands deadlines b place signs q
  status_eq : q.status = verdict (deadlines place.service.1) signs

theorem Answers.beside (answers : Answers deadlines b place signs q)
    (visit : Visit (fun _ => False) made removed b c) (foreign : place.id ∉ removed) :
    Answers deadlines c place signs q :=
  ⟨answers.stands.beside visit foreign, answers.status_eq⟩

theorem Stands.poll (working : b.IsWorking policy) (stands : Stands deadlines b place signs q)
    (now : Nat) :
    Visit (fun _ => False) [] [place.id] b (q.poll now b).1 ∧
      Answers deadlines (q.poll now b).1 place (signs ++ [.look now]) (q.poll now b).2 := by
  cases stands with
  | settled status gone issued decided =>
    have later : verdict (deadlines place.service.1) (signs ++ [.look now]) = some status :=
      verdict_stays decided
    exact ⟨(Visit.refl b).mono (List.nil_subset _), .settled status gone issued later, later.symm⟩
  | waiting box owns entered unremoved decided =>
    have content : b.box box = repliesTo place.id b.journal := owns.content
    have live : repliesTo place.id b.journal = [] → b.registry.contains place.id = true :=
      fun unheard => (working.accounted.contains_iff entered).mpr ⟨unremoved, fun _ => unheard⟩
    have seen : verdict (deadlines place.service.1) (signs ++ [.look now]) =
        (finding (repliesTo place.id b.journal) b.isClosed).or
          (ruling (deadlines place.service.1) (.look now)) := by
      rw [verdict_append, decided, verdict_look]
    rw [poll_waiting place.service.2 (deadlines place.service.1) now content live]
    cases found : (finding (repliesTo place.id b.journal) b.isClosed).or
        (ruling (deadlines place.service.1) (.look now)) with
    | none =>
      rw [found] at seen
      have unfound := (Option.or_eq_none_iff.mp found).1
      have waits : Stands deadlines b place (signs ++ [.look now])
          ⟨place.service.2, .waiting place.id box, deadlines place.service.1, none⟩ :=
        .waiting box owns entered unremoved (seen.trans unfound.symm)
      exact ⟨(Visit.refl b).mono (List.nil_subset _), waits, seen.symm⟩
    | some status =>
      rw [found] at seen
      have unsubscribed : Visit (fun _ => False) [] [place.id] b (b.unsubscribe place.id) :=
        .unsubscribe b place.id
      have noted : Visit (fun _ => False) [] [] (b.unsubscribe place.id)
          ((b.unsubscribe place.id).enter [.serviceAnswered place.service.2 status]) :=
        .enter _ (by simp [Event.isQuiet])
      have issued := Nat.le_trans owns.issued unsubscribed.moves.continues.1
      have settled : Stands deadlines (b.unsubscribe place.id) place (signs ++ [.look now])
          ⟨place.service.2, .finished, deadlines place.service.1, some status⟩ :=
        .settled status (b.unsubscribe_gone place.id) issued seen
      exact ⟨unsubscribed.trans noted, settled.beside noted List.not_mem_nil, seen.symm⟩

theorem pollAll_stands {signs : String → List Sign} {places : List Place}
    {queries : List ServiceQuery} (working : b.IsWorking policy)
    (stands : List.Forall₂
      (fun place q => Stands deadlines b place (signs place.service.1) q) places queries)
    (apart : (places.map Place.id).Nodup) (now : Nat) :
    Visit (fun _ => False) [] (places.map Place.id) b (pollAll now queries b).1 ∧
      List.Forall₂ (fun place q => Answers deadlines (pollAll now queries b).1 place
        (signs place.service.1 ++ [.look now]) q) places (pollAll now queries b).2 := by
  induction places generalizing b queries with
  | nil =>
    cases stands with
    | nil => exact ⟨.refl b, .nil⟩
  | cons place places ih =>
    cases stands with
    | @cons _ q _ rest first others =>
      obtain ⟨foreign, apart⟩ := List.nodup_cons.mp apart
      obtain ⟨polled, answers⟩ := first.poll working now
      have unconcerned : ∀ other ∈ places, other.id ∉ [place.id] := by
        intro other member same
        rw [List.mem_singleton] at same
        exact foreign (same ▸ List.mem_map_of_mem member)
      have still : List.Forall₂ (fun other r => Stands deadlines (q.poll now b).1 other
          (signs other.service.1) r) places rest :=
        ((List.forall₂_and_left _ _).mpr ⟨unconcerned, others⟩).imp
          fun other r h => h.2.beside polled h.1
      obtain ⟨later, all⟩ := ih (polled.isWorking working) still apart
      exact ⟨polled.trans later, .cons (answers.beside later foreign) all⟩

variable (deadlines) in
theorem pollAll_asking (working : b.IsWorking policy) (isOpen : b.isClosed = false)
    (services : List (String × String)) (now : Nat) :
    ∃ places : List Place, places.map Place.service = services ∧ (places.map Place.id).Nodup ∧
      Visit (fun _ => False) (places.map Place.id) (places.map Place.id) b
        (pollAll now (services.map (question deadlines)) b).1 ∧
      List.Forall₂ (fun place q => Answers deadlines
          (pollAll now (services.map (question deadlines)) b).1 place [.look now] q) places
        (pollAll now (services.map (question deadlines)) b).2 := by
  induction services generalizing b with
  | nil => exact ⟨[], rfl, .nil, .refl b, .nil⟩
  | cons service rest ih =>
    have called : Visit (fun _ => False) [b.registry.nextId] [] b
        (b.called service.1 (statusMessage service.2)) := .converse b service.1 .once _
    have begun := stands_called deadlines working isOpen service (statusMessage service.2)
    obtain ⟨polled, answers⟩ := begun.poll (called.isWorking working) now
    have first := called.trans polled
    obtain ⟨places, same, apart, later, all⟩ := ih (first.isWorking working)
      (first.isClosed_eq.trans isOpen)
    have foreign : b.registry.nextId ∉ places.map Place.id := fun member =>
      Nat.not_lt_of_le answers.stands.issued (later.new member)
    refine ⟨⟨service, b.registry.nextId⟩ :: places, ?_, ?_, ?_, ?_⟩
    · rw [List.map_cons, same]
    · exact List.nodup_cons.mpr ⟨foreign, apart⟩
    · exact first.trans later
    · exact .cons (answers.beside later foreign) all

end Places

/-- Others go about their business: nobody dispatches on its own, nobody unsubscribes anything, and
nobody reads what has come for a question. -/
structure LeavesAlone (s : Scene ν (List ServiceQuery)) (act : Act ν) : Prop where
  tame : act.IsTame
  unremoved : ∀ id, .unsubscribed id ∉ s.bus.entriesSince (act.apply s.bus)
  elsewhere : ∀ q ∈ s.party, ∀ id box, q.call = .waiting id box → act.box? ≠ some box

theorem LeavesAlone.of_silent {s : Scene ν (List ServiceQuery)} {act : Act ν} (tame : act.IsTame)
    (silent : removalsIn (s.bus.entriesSince (act.apply s.bus)) = 0) (unread : act.box? = none) :
    LeavesAlone s act where
  tame := tame
  unremoved _ := unremoved_of_removalsIn silent
  elsewhere _ _ _ box _ := by simp [unread]

structure Inquires (start : Bus ν) (policy : Policy) (deadlines : String → Nat)
    (places : List Place) (signs : String → List Sign) (s : Scene ν (List ServiceQuery)) :
    Prop where
  working : s.bus.IsWorking policy
  stands : List.Forall₂ (fun place q => Stands deadlines s.bus place (signs place.service.1) q)
    places s.party
  removed : ∀ {id}, .unsubscribed id ∈ s.bus.journal →
    .unsubscribed id ∈ start.journal ∨ id ∈ places.map Place.id

section Course

variable {deadlines : String → Nat} {policy : Policy} {start : Bus ν} {places : List Place}
  {s : Scene ν (List ServiceQuery)} {act : Act ν}

/-- While others go about their business a question takes notice of the signs on its topic. -/
theorem Stands.notices {place : Place} {signs : List Sign} {q : ServiceQuery}
    (working : s.bus.IsWorking policy) (stands : Stands deadlines s.bus place signs q)
    (leaves : LeavesAlone s act) (member : q ∈ s.party) :
    Stands deadlines (act.apply s.bus) place
      (signs ++ s.signsOf policy place.service.1 (.act act)) q := by
  have moves := s.bus.apply_moves_box act
  cases stands with
  | settled status gone issued decided =>
    have still := moves.keeps (gone_lasting place.id) (fun _ _ => trivial) ⟨gone, issued⟩
    exact .settled status still.1 still.2 (verdict_stays decided)
  | waiting box owns entered unremoved decided =>
    obtain ⟨entered', unremoved'⟩ := apply_stays entered unremoved (leaves.unremoved place.id)
    have owns' : Owns place.id box 0 (act.apply s.bus) := by
      refine moves.keeps (owns_survives place.id box 0) (fun other reads same => ?_) owns
      subst same
      exact leaves.elsewhere _ member place.id other rfl reads
    refine .waiting box owns' entered' unremoved' ?_
    cases heard : repliesTo place.id s.bus.journal with
    | cons reply rest =>
      have more : repliesTo place.id (act.apply s.bus).journal =
          reply :: (rest ++ repliesTo place.id (s.bus.entriesSince (act.apply s.bus))) := by
        rw [moves.continues.2.1, repliesTo_append, heard, List.cons_append]
      rw [heard] at decided
      rw [more]
      exact verdict_stays decided
    | nil =>
      have arrived : repliesTo place.id (act.apply s.bus).journal =
          s.bus.arriving policy place.service.1 act := by
        rw [apply_heard working.setUp working.accounted leaves.tame entered unremoved'
          fun _ => heard, heard, List.nil_append]
      rw [arrived]
      cases closed : s.bus.isClosed with
      | true =>
        rw [heard, closed] at decided
        rw [arriving_closed closed, isClosed_apply leaves.tame closed]
        exact verdict_stays decided
      | false =>
        rw [heard, closed] at decided
        have undecided : verdict (deadlines place.service.1) signs = none := decided
        rw [verdict_append, undecided, Option.none_or, Scene.signsOf, closed, Bool.not_false,
          Bool.and_true, verdict_arrivals]

theorem Inquires.goesOn {signs : String → List Sign}
    (inquires : Inquires start policy deadlines places signs s) (leaves : LeavesAlone s act) :
    Inquires start policy deadlines places
      (fun topic => signs topic ++ s.signsOf policy topic (.act act))
      (s.step pollAll (.act act)) where
  working := inquires.working.apply leaves.tame
  stands := by
    have both := (List.forall₂_and_left _ _).mpr ⟨fun q member => member, inquires.stands.flip⟩
    refine List.Forall₂.flip (both.imp fun q place h => ?_)
    exact h.2.notices inquires.working leaves h.1
  removed {id} gone := by
    have grown := (s.bus.apply_moves act).continues.2.1
    have gone : .unsubscribed id ∈ (act.apply s.bus).journal := gone
    rw [grown] at gone
    rcases List.mem_append.mp gone with before | new
    · exact inquires.removed before
    · exact absurd new (leaves.unremoved id)

theorem Inquires.look {signs : String → List Sign}
    (inquires : Inquires start policy deadlines places signs s)
    (apart : (places.map Place.id).Nodup) (now : Nat) :
    s.makes pollAll (.look now) = [] ∧
      Inquires start policy deadlines places (fun topic => signs topic ++ [.look now])
        (s.step pollAll (.look now)) ∧
      List.Forall₂ (fun place q => Answers deadlines (s.step pollAll (.look now)).bus place
          (signs place.service.1 ++ [.look now]) q) places (s.step pollAll (.look now)).party := by
  obtain ⟨polled, answers⟩ := pollAll_stands inquires.working inquires.stands apart now
  refine ⟨polled.made, ⟨polled.isWorking inquires.working, ?_, fun gone => ?_⟩, answers⟩
  · exact answers.imp fun _ _ h => h.stands
  · exact (polled.removed gone).elim inquires.removed .inr

theorem Stands.decided_closed {b : Bus ν} {place : Place} {signs : List Sign} {q : ServiceQuery}
    (stands : Stands deadlines b place signs q) (closed : b.isClosed = true) :
    (verdict (deadlines place.service.1) signs).isSome := by
  cases stands with
  | waiting box owns entered unremoved decided =>
    rw [decided, closed]
    cases repliesTo place.id b.journal <;> rfl
  | settled status gone issued decided =>
    rw [decided]
    rfl

theorem Stands.gone {b : Bus ν} {place : Place} {signs : List Sign} {q : ServiceQuery}
    (stands : Stands deadlines b place signs q) (settled : q.status.isSome) :
    b.registry.contains place.id = false := by
  cases stands with
  | waiting => cases settled
  | settled status gone => exact Registry.contains_eq_false.mpr gone

theorem Answers.settled {b : Bus ν} {place : Place} {signs : List Sign} {q : ServiceQuery}
    {now : Nat} (answers : Answers deadlines b place (signs ++ [.look now]) q)
    (ending : b.line.phase = .closed ∨ deadlines place.service.1 ≤ now) : q.status.isSome := by
  rw [answers.status_eq]
  rcases ending with closed | late
  · exact answers.stands.decided_closed (isClosed_eq_true.mpr closed)
  · exact decided_late late

/-- Any other subscription that was not removed before is live, unless it is single and was
served. -/
theorem Inquires.contains_iff {signs : String → List Sign}
    (inquires : Inquires start policy deadlines places signs s) {id : SubscriptionId}
    {topic : String} {delivery : Delivery} (entered : .subscribed id topic delivery ∈ s.bus.journal)
    (isOther : id ∉ places.map Place.id) (spared : .unsubscribed id ∉ start.journal) :
    s.bus.registry.contains id = true ↔
      ¬(delivery = .once ∧ ∃ reply, .started id reply ∈ s.bus.journal) := by
  have unremoved : .unsubscribed id ∉ s.bus.journal := by
    intro gone
    exact (inquires.removed gone).elim spared isOther
  rw [inquires.working.accounted.contains_iff entered, and_iff_right unremoved, not_and]
  refine imp_congr_right fun _ => ?_
  rw [List.eq_nil_iff_forall_not_mem, not_exists]
  exact forall_congr' fun reply => not_congr mem_repliesTo

theorem Inquires.after {signs : String → List Sign}
    (inquires : Inquires start policy deadlines places signs s)
    (apart : (places.map Place.id).Nodup) {moments : List (Moment ν)}
    (admits : s.Admits pollAll LeavesAlone moments) :
    s.made pollAll moments = [] ∧
      Inquires start policy deadlines places
        (fun topic => signs topic ++ s.signs pollAll policy topic moments)
        (s.after pollAll moments) := by
  refine s.keeps (P := fun moments => s.made pollAll moments = [] ∧
    Inquires start policy deadlines places
      (fun topic => signs topic ++ s.signs pollAll policy topic moments)
      (s.after pollAll moments)) ?_ ?_ ?_ admits
  · simpa [Scene.made, Scene.signs, Scene.after] using inquires
  · rintro past act ⟨unmade, inquires⟩ leaves
    have next := inquires.goesOn leaves
    simp only [List.append_assoc] at next
    simpa [Scene.made_append, Scene.signs_append, Scene.after_append, unmade, Scene.made,
      Scene.makes, Scene.signs, Scene.after] using next
  · rintro past now ⟨unmade, inquires⟩
    obtain ⟨none, next, -⟩ := inquires.look apart now
    simp only [List.append_assoc] at next
    simpa [Scene.made_append, Scene.signs_append, Scene.after_append, unmade, Scene.made,
      none, Scene.signs, Scene.signsOf, Scene.after] using next

end Course

theorem reports?_eq {places : List Place} {queries : List ServiceQuery}
    {verdicts : String × String → Option ServiceStatus}
    (answered : List.Forall₂ (fun place q => q.name = place.service.2 ∧
      q.status = verdicts place.service) places queries) :
    reports? queries = (places.map Place.service).mapM fun service =>
      (verdicts service).map (ServiceReport.mk service.2) := by
  induction answered with
  | nil => rfl
  | @cons place q places queries first _ ih =>
    rw [List.map_cons, List.mapM_cons, ← ih, reports?, first.1, first.2]
    cases verdicts place.service <;> rfl

theorem isSome_reports?_iff {P : Place → ServiceQuery → Prop} {places : List Place}
    {queries : List ServiceQuery} (answered : List.Forall₂ P places queries) :
    (reports? queries).isSome ↔
      List.Forall₂ (fun place q => P place q ∧ q.status.isSome) places queries := by
  induction answered with
  | nil => exact iff_of_true rfl .nil
  | @cons place q places rest first _ ih =>
    rw [List.forall₂_cons, ← ih, reports?, and_iff_right first]
    cases q.status <;> cases reports? rest <;> simp

/-- What is known of a run that begins and ends with a poll, on a line that is open at first. -/
theorem inquires_run {deadlines : String → Nat} {policy : Policy}
    {start : Scene ν (List ServiceQuery)} (asks : start.party = asking deadlines)
    (working : start.bus.IsWorking policy) (isOpen : start.bus.isClosed = false) (first now : Nat)
    {moments : List (Moment ν)}
    (admits : start.Admits pollAll LeavesAlone (.look first :: moments ++ [.look now])) :
    let run := .look first :: moments ++ [.look now]
    let last := start.after pollAll run
    ∃ places : List Place, places.map Place.service = knownServices ∧
      start.made pollAll run = places.map Place.id ∧
      Inquires start.bus policy deadlines places (fun topic => start.signs pollAll policy topic run)
        last ∧
      List.Forall₂ (fun place q => Answers deadlines last.bus place
        (start.signs pollAll policy place.service.1 run) q) places last.party := by
  intro run last
  rw [asking] at asks
  -- which services they are does not matter
  generalize knownServices = services at asks ⊢
  obtain ⟨places, same, apart, posed, answers⟩ :=
    pollAll_asking deadlines working isOpen services first
  have asked : Inquires start.bus policy deadlines places (fun _ => [.look first])
      (start.step pollAll (.look first)) := by
    simp only [Scene.step, asks]
    exact ⟨posed.isWorking working, answers.imp fun _ _ h => h.stands, posed.removed⟩
  have makes : start.makes pollAll (.look first) = places.map Place.id := by
    rw [Scene.makes, asks]
    exact posed.made
  obtain ⟨unmade, inquires⟩ := asked.after apart (start.admits_between moments admits)
  obtain ⟨none, inquires, answers⟩ := inquires.look apart now
  simp only [last, run, Scene.after_between, Scene.signs_between, Scene.made_between]
  refine ⟨places, same, ?_, inquires, answers⟩
  rw [makes, unmade, none, List.append_nil, List.append_nil]

/-- All services are asked at once, on an open line, and polled for the first and the last time. With
one deadline for all these are the questions of the program.
Each row of the table is what the first telling sign on its own topic decides, in the order of the
services; the table is there at the latest when the line has closed or no deadline lies ahead. Then
the subscriptions that were made for it are gone, and every other one that was not removed before is
live, unless it is single and was served. -/
theorem attributes_replies (settings : Settings) (onClose : Bool) {past : List (Act ν)}
    (tame : ∀ act ∈ past, act.IsTame) (deadlines : String → Nat) (first now : Nat)
    {moments : List (Moment ν)} :
    let start : Scene ν (List ServiceQuery) :=
      ⟨(create settings onClose).after past, asking deadlines⟩
    let run : List (Moment ν) := .look first :: moments ++ [.look now]
    start.bus.line.phase = .open →
    start.Admits pollAll LeavesAlone run →
    let last := start.after pollAll run
    let made := start.made pollAll run
    (∀ deadline, (∀ topic, deadlines topic = deadline) → start.party = all deadline) ∧
    reports? last.party = knownServices.mapM (fun service =>
      (verdict (deadlines service.1) (start.signs pollAll settings.policy service.1 run)).map
        (ServiceReport.mk service.2)) ∧
    (last.bus.line.phase = .closed ∨ (∀ service ∈ knownServices, deadlines service.1 ≤ now) →
      (reports? last.party).isSome) ∧
    ((reports? last.party).isSome →
      (∀ id ∈ made, last.bus.registry.contains id = false) ∧
      ∀ id topic delivery, .subscribed id topic delivery ∈ last.bus.journal → id ∉ made →
        .unsubscribed id ∉ start.bus.journal →
        (last.bus.registry.contains id = true ↔
          ¬(delivery = .once ∧ ∃ reply, .started id reply ∈ last.bus.journal))) := by
  intro start run isOpen admits last made
  have working : start.bus.IsWorking settings.policy :=
    (create_isWorking settings onClose).after tame
  have isOpen : start.bus.isClosed = false := by
    rw [Bool.eq_false_iff, Ne, isClosed_eq_true, isOpen]
    nofun
  have known : start.party = asking deadlines := rfl
  have all_same : ∀ deadline, (∀ topic, deadlines topic = deadline) →
      start.party = all deadline := by
    intro deadline same
    rw [known, all_eq_asking, funext same]
  clear_value start
  obtain ⟨places, services, same, inquires, answers⟩ :=
    inquires_run known working isOpen first now admits
  change made = places.map Place.id at same
  change Inquires start.bus settings.policy deadlines places
    (fun topic => start.signs pollAll settings.policy topic run) last at inquires
  change List.Forall₂ (fun place q => Answers deadlines last.bus place
    (start.signs pollAll settings.policy place.service.1 run) q) places last.party at answers
  refine ⟨all_same, ?_, fun ending => ?_, fun there => ⟨?_, ?_⟩⟩
  · rw [← services]
    exact reports?_eq (answers.imp fun _ _ h => ⟨h.stands.name_eq, h.status_eq⟩)
  · have settled : ∀ place ∈ places, ∀ q, Answers deadlines last.bus place
        (start.signs pollAll settings.policy place.service.1 run) q → q.status.isSome := by
      intro place member q answers
      have whole : start.signs pollAll settings.policy place.service.1 run =
          start.signs pollAll settings.policy place.service.1 (.look first :: moments) ++
            [.look now] := start.signs_append _ [.look now]
      rw [whole] at answers
      exact answers.settled (ending.imp_right fun late =>
        late place.service (services ▸ List.mem_map_of_mem member))
    have both := (List.forall₂_and_left _ _).mpr ⟨settled, answers⟩
    exact (isSome_reports?_iff answers).mpr (both.imp fun place q h => ⟨h.2, h.1 q h.2⟩)
  · rw [same]
    have gone : List.Forall₂ (fun place _ => last.bus.registry.contains place.id = false ∧ True)
        places last.party :=
      ((isSome_reports?_iff answers).mp there).imp fun place q h =>
        ⟨h.1.stands.gone h.2, trivial⟩
    exact List.forall_mem_map.mpr ((List.forall₂_and_left _ _).mp gone).1
  · intro id topic delivery entered isOther
    exact inquires.contains_iff entered (same ▸ isOther)

/-- Replies come in another order than the questions; one question is late before the line closes,
and two are left then. Another subscription on one of the topics stays. -/
theorem attributes_replies_crossing :
    let listener : Program Unit :=
      .subscribe "service-mysql-status" .persistent false (fun _ _ => .done .nothing) fun _ =>
        .done .nothing
    let past : List (Act Unit) := [.step .established, .run listener]
    let deadlines (topic : String) : Nat := if topic = "service-php-status" then 1000 else 5000
    let start : Scene Unit (List ServiceQuery) :=
      ⟨(create (.withEndpoint "ws://host") false).after past, asking deadlines⟩
    let reply (topic text : String) : Moment Unit :=
      .act (.receive (.text (Frame.payload topic (.string text)).toText))
    let moments : List (Moment Unit) := [reply "service-mysql-status" "inactive",
      reply "service-gameap-status" " active ", .look 1000, .act (.receive .ended)]
    let run : List (Moment Unit) := .look 0 :: moments ++ [.look 2000]
    let last := start.after pollAll run
    (∀ act ∈ past, act.IsTame) ∧ start.bus.line.phase = .open ∧
      start.Admits pollAll LeavesAlone run ∧
      reports? last.party = some [⟨"gameap", .active⟩,
        ⟨"gameap-daemon", .failed "Connection closed"⟩, ⟨"nginx", .failed "Connection closed"⟩,
        ⟨"mysql", .inactive⟩, ⟨"php-fpm", .failed "timed out"⟩] ∧
      start.made pollAll run = [⟨2⟩, ⟨3⟩, ⟨4⟩, ⟨5⟩, ⟨6⟩] ∧
      last.bus.registry.contains ⟨4⟩ = false ∧ last.bus.registry.contains ⟨1⟩ = true := by
  intro listener past deadlines start reply moments run last
  have tame : ∀ act ∈ past, act.IsTame := by
    simp [past, listener, Act.IsTame, Program.IsTame]
  have isOpen : start.bus.line.phase = .open := by decide +kernel
  have admits : start.Admits pollAll LeavesAlone run := by
    refine ⟨?_, ?_, ?_, trivial⟩
    all_goals exact .of_silent trivial (by decide +kernel) rfl
  have verdicts : knownServices.mapM (fun service =>
      (verdict (deadlines service.1) (start.signs pollAll .strict service.1 run)).map
        (ServiceReport.mk service.2)) = some [⟨"gameap", .active⟩,
      ⟨"gameap-daemon", .failed "Connection closed"⟩, ⟨"nginx", .failed "Connection closed"⟩,
      ⟨"mysql", .inactive⟩, ⟨"php-fpm", .failed "timed out"⟩] := by decide +kernel
  have made : start.made pollAll run = [⟨2⟩, ⟨3⟩, ⟨4⟩, ⟨5⟩, ⟨6⟩] := by decide +kernel
  have entered : .subscribed ⟨1⟩ "service-mysql-status" .persistent ∈ last.bus.journal := by
    decide +kernel
  have spared : .unsubscribed ⟨1⟩ ∉ start.bus.journal := by decide +kernel
  obtain ⟨-, rows, -, left⟩ := attributes_replies (.withEndpoint "ws://host") false tame deadlines
    0 2000 isOpen admits
  have table := rows.trans verdicts
  obtain ⟨gone, others⟩ := left (Option.isSome_of_eq_some table)
  refine ⟨tame, isOpen, admits, table, made, ?_, ?_⟩
  · have member : (⟨4⟩ : SubscriptionId) ∈ start.made pollAll run := by
      rw [made]
      decide
    -- both sides in one form, so that nothing is run to compare them
    simp only [last, start, run]
    exact gone ⟨4⟩ member
  · have isOther : (⟨1⟩ : SubscriptionId) ∉ start.made pollAll run := by
      rw [made]
      decide
    simp only [last, start, run] at entered spared ⊢
    refine (others ⟨1⟩ _ .persistent entered isOther spared).mpr fun single => ?_
    cases single.1

end ServiceQuery

end Switchboard
