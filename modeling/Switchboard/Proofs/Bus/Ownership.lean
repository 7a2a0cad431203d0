import Switchboard.Proofs.Bus.Station
/-!
Who keeps a bus. As long as no callback keeps a strong handle, the strong handles alone decide: the
line is asked to close by whoever asks for it, and else with the last of them. Weak handles,
subscriptions, conversations and handles on the line have no say, whatever they do meanwhile.
-/

set_option autoImplicit false
set_option relaxedAutoImplicit false

namespace Switchboard

variable {ν : Type}

open Exchange Bus

theorem Line.notice_closes {line : Line} (asked : line.closing = true) :
    (line.step .notice).1.phase = .closed := by
  cases phase : line.phase with
  | connecting => simp [step, asked, phase, finish]
  | «open» => simp [step, asked, phase, finish, finishPolitely]
  | closed => simp [step, asked, phase]

/-- How many strong handles an occurrence leaves: another one is taken only where there is one. -/
def Occurrence.count (strong : Nat) : Occurrence ν → Nat
  | .clone | .upgrade => if strong = 0 then 0 else strong + 1
  | .drop => strong - 1
  | _ => strong

theorem Occurrence.foldl_count_zero (occurrences : List (Occurrence ν)) :
    occurrences.foldl Occurrence.count 0 = 0 := by
  induction occurrences with
  | nil => rfl
  | cons occurrence rest ih =>
    have none : occurrence.count 0 = 0 := by cases occurrence <;> rfl
    rw [List.foldl_cons, none, ih]

namespace Bus

theorem IsHeld.gone_iff {b : Bus ν} (held : b.IsHeld) :
    b.outlet.alive = false ↔ b.outlet.handles = 0 := by
  rw [← Bool.not_eq_true, held.alive, Nat.pos_iff_ne_zero, not_not]

theorem retain_held {b : Bus ν} (held : b.IsHeld) :
    (Bus.retain b).IsHeld ∧
      (Bus.retain b).outlet.handles =
        (if b.outlet.handles = 0 then 0 else b.outlet.handles + 1) ∧
      ((Bus.retain b).line.closing = true ↔
        b.line.closing = true ∨ (Bus.retain b).outlet.handles = 0) := by
  unfold Bus.retain
  cases alive : b.outlet.alive with
  | true =>
    rw [if_neg (Nat.ne_of_gt (held.alive.mp alive))]
    exact ⟨⟨held.unowned, iff_of_true alive (Nat.succ_pos _), held.line, held.closing⟩, rfl,
      (or_iff_left (Nat.succ_ne_zero _)).symm⟩
  | false =>
    have none := held.gone_iff.mp alive
    rw [if_pos none]
    exact ⟨held, none, iff_of_true (held.closing alive) (.inr none)⟩

theorem release_held {b : Bus ν} (held : b.IsHeld) :
    (Bus.release b).IsHeld ∧ (Bus.release b).outlet.handles = b.outlet.handles - 1 ∧
      ((Bus.release b).line.closing = true ↔
        b.line.closing = true ∨ (Bus.release b).outlet.handles = 0) := by
  let counted : Trunk := { b.outlet with handles := b.outlet.handles - 1 }
  have same : Bus.release b = { b with outlet := counted.expire.1 }.enter counted.expire.2 := by
    have unowned : ({ b with outlet := counted } : Bus ν).owners = 0 := held.unowned
    rw [Bus.release, disownFree, if_pos unowned]
    rfl
  rw [same]
  by_cases last : counted.alive = true ∧ counted.handles = 0
  -- it was the last one
  · have expired : counted.expire.1 = { counted with
        line := (counted.line.run [.close, .release, .releaseWaiter 0]).1, alive := false } := by
      simp only [Trunk.expire, if_pos last]
    have closing : (counted.line.run [.close, .release, .releaseWaiter 0]).1.closing = true := by
      have used : counted.line.handles ≠ 0 := Nat.ne_of_gt (held.line last.1)
      -- the bus still has its handle on the line when it asks
      let asked := (counted.line.step .close).1
      let released := (asked.step .release).1
      calc (released.step (.releaseWaiter 0)).1.closing
        _ = released.closing := (released.step_keeps (.releaseWaiter 0)).closing (by simp)
        _ = asked.closing := (asked.step_keeps .release).closing (by simp)
        _ = true := by simp [asked, Line.step, used]
    rw [expired]
    exact ⟨⟨held.unowned, by simp [enter, last.2], by simp [enter], fun _ => closing⟩,
      rfl, iff_of_true closing (.inr last.2)⟩
  · have expired : counted.expire = (counted, []) := by
      simp only [Trunk.expire, if_neg last]
    rw [expired]
    cases alive : b.outlet.alive with
    | true =>
      have some : counted.handles ≠ 0 := fun none => last ⟨alive, none⟩
      exact ⟨⟨held.unowned, iff_of_true alive (Nat.pos_of_ne_zero some), held.line, held.closing⟩,
        rfl, (or_iff_left some).symm⟩
    | false =>
      have none : counted.handles = 0 := by simp [counted, held.gone_iff.mp alive]
      exact ⟨⟨held.unowned, iff_of_false (by simp [enter, counted, alive]) (by simp [enter, none]),
        held.line, held.closing⟩, rfl, iff_of_true (held.closing alive) (.inr none)⟩

end Bus

namespace Station

variable {past : List Stretch} {s : Station ν}

def asks (s : Station ν) : List (Occurrence ν) → Prop
  | [] => False
  | occurrence :: rest => s.closes occurrence ∨ (s.step occurrence).asks rest

structure Counts (occurrence : Occurrence ν) (s after : Station ν) : Prop where
  held : after.bus.IsHeld
  handles : after.bus.outlet.handles = occurrence.count s.bus.outlet.handles
  closing : after.bus.line.closing = true ↔
    s.bus.line.closing = true ∨ s.closes occurrence ∨ after.bus.outlet.handles = 0

private theorem handles_pos {signal : Signal} (admitted : s.admits signal = true)
    (alive : s.bus.outlet.alive = true) (used : 0 < s.bus.line.handles) :
    0 < (s.bus.line.step signal).1.handles := by
  by_cases releases : signal = .release
  · subst releases
    simp only [admits, alive, if_true, decide_eq_true_eq] at admitted
    simp only [Line.step]
    exact Nat.sub_pos_of_lt admitted
  · by_cases retains : signal = .retain
    · subst retains
      simp only [Line.step, if_neg (Nat.ne_of_gt used)]
      exact Nat.succ_pos _
    · rwa [(s.bus.line.step_keeps signal).handles retains releases]

private theorem Counts.ofSame {occurrence : Occurrence ν} {after : Station ν} (held : s.bus.IsHeld)
    (same : ∀ strong, occurrence.count strong = strong)
    (counts : after.bus.IsHeld ∧ after.bus.outlet.handles = s.bus.outlet.handles ∧
      (after.bus.line.closing = true ↔ s.bus.line.closing = true ∨ s.closes occurrence)) :
    Counts occurrence s after := by
  obtain ⟨held', handles, closing⟩ := counts
  refine ⟨held', handles.trans (same _).symm, closing.trans ?_⟩
  rw [← or_assoc, iff_self_or, handles]
  exact fun none => .inl (held.closing (held.gone_iff.mpr none))

private theorem Counts.ofHandles {occurrence : Occurrence ν} {after : Station ν}
    (never : s.closes occurrence = False)
    (counts : after.bus.IsHeld ∧
      after.bus.outlet.handles = occurrence.count s.bus.outlet.handles ∧
      (after.bus.line.closing = true ↔
        s.bus.line.closing = true ∨ after.bus.outlet.handles = 0)) :
    Counts occurrence s after :=
  ⟨counts.1, counts.2.1, by rw [never, false_or]; exact counts.2.2⟩

theorem Sound.counts (h : s.Sound True False True past) (held : s.bus.IsHeld)
    {occurrence : Occurrence ν} (limited : occurrence.IsLimited True False) :
    Counts occurrence s (s.step occurrence) := by
  cases inner : occurrence.isInner with
  | true =>
    have same : ∀ strong, occurrence.count strong = strong := by
      cases occurrence with
      | signal | clone | upgrade | drop => cases inner
      | _ => exact fun _ => rfl
    exact .ofSame held same ((h.within id limited inner).sustains.held not_false held)
  | false =>
    cases occurrence with
    | signal signal =>
      refine .ofSame held (fun _ => rfl) ?_
      have signalled := s.step_signalled signal
      generalize s.step (.signal signal) = after at signalled ⊢
      cases signalled with
      | ignored refused =>
        have never : signal ≠ .close := by
          rintro rfl
          cases refused
        exact ⟨held, rfl, (or_iff_left never).symm⟩
      | taken admitted =>
        exact s.bus.signal_held (fun alive => handles_pos admitted alive (held.line alive)) held
      | reads text isOpen steady retain release close =>
        have read : Sustains True False True (signal = .close) s.bus (s.bus.signal signal) :=
          s.bus.signal_sustains steady retain release
        have proceeds : Machine.Proceeds True False True (s.bus.signal signal) _ :=
          .route (s.bus.signal signal) text
        have together := (read.congr (iff_of_false close id)).trans proceeds.sustains
        exact (together.congr (iff_of_false id close)).held not_false held
    | clone => exact .ofHandles rfl (retain_held held)
    | upgrade => exact .ofHandles rfl (retain_held held)
    | drop => exact .ofHandles rfl (release_held held)
    | _ => cases inner

/-- In a run the strong handles are counted by what is done to handles, and the line has been asked
to close if something closed the bus or no handle is left. -/
private theorem Sound.counts_after (h : s.Sound True False True past) (held : s.bus.IsHeld)
    {occurrences : List (Occurrence ν)}
    (limited : ∀ occurrence ∈ occurrences, occurrence.IsLimited True False) :
    (s.after occurrences).bus.IsHeld ∧
      (s.after occurrences).bus.outlet.handles =
        occurrences.foldl Occurrence.count s.bus.outlet.handles ∧
      ((s.after occurrences).bus.line.closing = true ↔ s.bus.line.closing = true ∨
        s.asks occurrences ∨ (s.after occurrences).bus.outlet.handles = 0) := by
  induction occurrences generalizing past s with
  | nil =>
    refine ⟨held, rfl, ?_⟩
    rw [asks, false_or]
    exact iff_self_or.mpr fun none => held.closing (held.gone_iff.mpr none)
  | cons occurrence rest ih =>
    have first := limited occurrence List.mem_cons_self
    have counts := h.counts held first
    obtain ⟨held', handles, closing⟩ := ih (h.step id first) counts.held
      fun next member => limited next (List.mem_cons_of_mem _ member)
    refine ⟨held', by rw [Station.after, handles, counts.handles, List.foldl_cons], ?_⟩
    -- a bus that is without handles after the first occurrence is so in the end
    have stays (none : (s.step occurrence).bus.outlet.handles = 0) :
        ((s.step occurrence).after rest).bus.outlet.handles = 0 := by
      rw [handles, none, Occurrence.foldl_count_zero]
    rw [Station.after, closing, counts.closing, asks]
    tauto

/-- What keeps the bus of a station that has so many strong handles, at the end of such a course in
which something has `asked` to close it or not. -/
structure IsKept (strong : Nat) (asked : Prop) (past : List Stretch) (s : Station ν) : Prop where
  handles : s.bus.outlet.handles = strong
  alive : s.bus.outlet.alive = true ↔ 0 < strong
  closing : s.bus.line.closing = true ↔ asked ∨ strong = 0
  gone : s.bus.outlet.alive = false → ∀ more : List (Occurrence ν),
    (∀ occurrence ∈ more, occurrence.IsLimited True False) → (s.after more).bus.outlet.alive = false
  prompt : s.bus.line.closing = true → s.task.isIdle = true →
    (s.step (.signal .notice)).bus.line.phase = .closed
  streams : s.bus.line.phase = .closed →
    ∀ name stream, s.desk.find? name = some (.stream stream) →
      ∃ rest, readIn stream.id past ++ rest = spoken (repliesTo stream.id s.bus.journal) ∧
        ∀ n, s.desk.polls (rest.length + n) name = rest.map .reply ++ List.replicate n .ended

/-- However handles are taken and dropped while programs, callbacks, conversations and the line go
on, and nobody but the holders of strong handles keeps one: the bus is there, for weak handles too,
just as long as there is a strong handle, and its line is asked to close when something closes the
bus or the last of them is dropped, and never before. What has been asked is done as soon as the
line's task comes to it, and a stream that is still there then yields what it has been told, and
ends. -/
theorem kept_by_strong_handles (settings : Settings) (onClose : Bool)
    {occurrences : List (Occurrence ν)}
    (limited : ∀ occurrence ∈ occurrences, occurrence.IsLimited True False) :
    let start : Station ν := .ofBus (Bus.create settings onClose)
    (start.after occurrences).IsKept (occurrences.foldl Occurrence.count 1)
      (start.asks occurrences) (start.course occurrences) := by
  intro start
  let s := start.after occurrences
  have created : start.bus.IsHeld := ⟨rfl, by simp [start, ofBus, Bus.create],
    fun _ => Nat.one_pos, nofun⟩
  have begun : start.Sound True False True [] := .ofCreated settings onClose
  have sound : s.Sound True False True (start.course occurrences) := begun.after id limited
  obtain ⟨held, handles, closing⟩ := begun.counts_after created limited
  exact {
    handles := handles
    alive := by
      rw [held.alive, handles]
      rfl
    closing := by
      rw [closing, handles]
      exact or_iff_right Bool.false_ne_true
    gone := fun gone more limited' => by
      obtain ⟨held', handles', -⟩ := sound.counts_after held limited'
      rw [held'.gone_iff, handles', held.gone_iff.mp gone, Occurrence.foldl_count_zero]
    prompt := fun asks idle => by
      simp only [step, admits, idle, if_true]
      exact Line.notice_closes asks
    streams := fun closed name stream => sound.books.polls_stream (decide_eq_true closed) }

/-- A callback that has upgraded its weak handle keeps the bus when the last handle outside is
dropped; when it lets go, the bus goes, and neither its own subscription nor a stream nor a handle
on the line delays that. -/
theorem kept_by_strong_handles_upgraded :
    let start : Station Unit := .ofBus (Bus.create (.withEndpoint "ws://host") false)
    let listener : Program Unit :=
      .subscribe "news" .persistent false (fun _ _ => .send "more" .null (.done .nothing))
        fun _ => .done .nothing
    let before : List (Occurrence Unit) := [.clone, .downgrade, .signal .retain, .drop,
      .errand (.run listener), .advance 0, .errand (.openStream "feed" "news" .null),
      .signal .established, .signal (.received (.text (Frame.payload "news" .null).toText)),
      .proceed, .upgrade, .drop]
    let after : List (Occurrence Unit) :=
      [.drop, .upgrade] ++ List.replicate 8 .proceed ++ [.signal .notice]
    let s := start.after before
    let t := start.after (before ++ after)
    (∀ occurrence ∈ before ++ after, occurrence.IsLimited True False) ∧
      s.task.isIdle = false ∧ s.bus.outlet.alive = true ∧ s.bus.line.closing = false ∧
      (start.after (before ++ [.drop])).bus.line.closing = true ∧
      t.bus.outlet.alive = false ∧ t.bus.line.phase = .closed ∧
      t.desk.polls 2 "feed" = [.reply ⟨payloadCode, .null⟩, .ended] := by
  intro start listener before after s t
  have limited : ∀ occurrence ∈ before ++ after, occurrence.IsLimited True False := by
    simp [before, after, listener, Occurrence.IsLimited, Program.IsLimited]
  have limitedBefore : ∀ occurrence ∈ before, occurrence.IsLimited True False :=
    fun occurrence member => limited occurrence (List.mem_append_left after member)
  have limitedDrop : ∀ occurrence ∈ before ++ [.drop], occurrence.IsLimited True False := by
    intro occurrence member
    rcases List.mem_append.mp member with member | member
    · exact limitedBefore occurrence member
    · rw [List.mem_singleton.mp member]
      trivial
  have closed : t.bus.line.phase = .closed := by decide +kernel
  have held : s.IsKept 1 (start.asks before) (start.course before) :=
    kept_by_strong_handles (.withEndpoint "ws://host") false limitedBefore
  have dropped : (start.after (before ++ [.drop])).IsKept 0 (start.asks (before ++ [.drop]))
      (start.course (before ++ [.drop])) :=
    kept_by_strong_handles (.withEndpoint "ws://host") false limitedDrop
  have gone : t.IsKept 0 (start.asks (before ++ after)) (start.course (before ++ after)) :=
    kept_by_strong_handles (.withEndpoint "ws://host") false limited
  refine ⟨limited, by decide +kernel, held.alive.mpr Nat.one_pos, by decide +kernel,
    dropped.closing.mpr (.inr rfl), ?_, closed, ?_⟩
  · exact Bool.eq_false_iff.mpr fun alive => Nat.lt_irrefl 0 (gone.alive.mp alive)
  · obtain ⟨rest, said, polls⟩ :=
      gone.streams closed "feed" ⟨⟨2⟩, 0, false⟩ (by decide +kernel)
    have unread : readIn ⟨2⟩ (start.course (before ++ after)) = [] := by decide +kernel
    have heard : spoken (repliesTo ⟨2⟩ t.bus.journal) = [⟨payloadCode, .null⟩] := by
      decide +kernel
    rw [unread, heard] at said
    obtain rfl : rest = [⟨payloadCode, .null⟩] := said
    exact polls 1

end Station

end Switchboard
