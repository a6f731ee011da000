import PolledLink.Proofs.Failure
import PolledLink.Proofs.Ownership
import PolledLink.Proofs.Setup

/-! How soon the periodic task runs. With more to do it runs on the next tick. On a link that has
failed there is never more to do, so that it runs once in every interval. -/

namespace PolledLink.Session

def Move.isTimer : Move → Bool
  | .call .onTimer => true
  | _ => false

/-- The move leaves something to do. An operation has come to its end without a poll to follow, or a
link that works has left a request pending. -/
inductive Hastens (s : Session) (m : Move) : Prop
  | ended {e : Event} (he : e ∈ s.events m) (ends : e.Ends)
    (quiet : ∀ channel, .issued channel .read ∉ s.events m) : Hastens s m
  | short {before after : Request} (served : .served before after ∈ s.events m)
    (free : s.link.busy = false) (works : s.link.failure? = none)
    (pending : after.progress = .pending) : Hastens s m

variable {s s' : Session} {m : Move} {es : List Event} {e : Event}

/-! What the moves use the schedule for, by the events that they make. -/

theorem EndsWrite.uses {o : Outcome} {published : Snapshot} {outer : List Demand}
    (h : s.EndsWrite m o published outer) :
    s.uses m = if s.link.Chains o then [] else [.nudge] := by
  cases h with
  | late writing => simp only [Session.uses, Link.callUses, writing, true_and, ite_not]
  | heldOver done stopped => simp only [Session.uses, stopped, Link.resumeUses, done]

theorem uses_of_reading (reading : s.link.operation = .reading) (received : Link.Received) :
    s.uses (.call (.readComplete received)) = [.nudge] := if_pos reading

/-- The end of an operation is followed by a poll, or else by a nudge. -/
theorem Passage.uses_of_ends (p : s.Passage m es s') (he : e ∈ es) (ends : e.Ends) :
    (s.uses m = [.nudge] ∧ ∀ channel, .issued channel .read ∉ es) ∨
      (s.uses m = [] ∧ ∃ channel, .issued channel .read ∈ es) := by
  have alone {e' : Event} (he : e ∈ [e']) : e = e' := List.mem_singleton.mp he
  cases p with
  | served => exact absurd ends (alone he ▸ id)
  | flushed => exact absurd ends (alone he ▸ id)
  | polled => exact absurd ends (alone he ▸ id)
  | shown => exact absurd ends (alone he ▸ id)
  | shownShort => exact absurd ends (alone he ▸ id)
  | writeFailed ended =>
    refine .inl ⟨?_, by simp⟩
    rw [ended.uses, if_neg fun chains => nomatch chains.1]
  | writeSent ended keeps =>
    refine .inl ⟨?_, by simp⟩
    rw [ended.uses, if_neg fun chains => keeps chains.2]
  | @writeChained _ _ _ channel ended empty calm =>
    refine .inr ⟨?_, channel, by simp⟩
    rw [ended.uses, if_pos ⟨rfl, empty, calm⟩]
  | replyAccepted reading => exact .inl ⟨uses_of_reading reading _, by simp⟩
  | replyDiscarded reading => exact .inl ⟨uses_of_reading reading _, by simp⟩
  | readFailed reading => exact .inl ⟨uses_of_reading reading _, by simp⟩
  | _ => exact absurd he List.not_mem_nil

theorem Passage.uses_of_served {before after : Request} (p : s.Passage m es s')
    (he : .served before after ∈ es) :
    s.uses m = (if s.link.FallsShort before then [.nudge] else []) ∧
      after = (s.link.service before).request := by
  have shown {unit : LinkUnit} {r : Request} {outer : List Demand}
      (hs : s.stopped = .head unit :: outer) (pending : r.isPending = true) :
      s.uses (.answer (some r)) = if s.link.FallsShort r then [.nudge] else [] := by
    have same : (some r).filter Request.isPending = some r := Option.filter_some_pos pending
    simp only [uses, hs, Link.resumeUses, same]
  cases p with
  | served r =>
    obtain ⟨rfl, rfl⟩ := Event.served.inj (List.mem_singleton.mp he)
    exact ⟨rfl, rfl⟩
  | shown hs pending =>
    obtain ⟨rfl, rfl⟩ := Event.served.inj (List.mem_singleton.mp he)
    exact ⟨shown hs pending, rfl⟩
  | shownShort hs pending =>
    obtain ⟨rfl, rfl⟩ := Event.served.inj (List.mem_singleton.mp he)
    exact ⟨shown hs pending, rfl⟩
  | _ => simp at he

theorem isTimer_iff : m.isTimer = true ↔ m = .call .onTimer := by
  unfold Move.isTimer
  split
  · exact iff_of_true rfl rfl
  · exact iff_of_false nofun ‹_›

theorem count_tick_uses (s : Session) (m : Move) :
    (s.uses m).count .tick = if m.isTimer then 1 else 0 := by
  have timing := s.timing m
  generalize s.uses m = us at timing
  cases timing with
  | opened => split <;> rfl
  | paced ticks => rfl
  | timed => rfl
  | nudged untimed => rw [if_neg (mt isTimer_iff.mp untimed)]; rfl
  | unmoved untimed => rw [if_neg (mt isTimer_iff.mp untimed)]; rfl

/-- The schedule is ticked by the timer alone. -/
theorem count_tick_usesAll (s : Session) (ms : List Move) :
    (s.usesAll ms).count .tick = ms.countP Move.isTimer := by
  induction ms generalizing s with
  | nil => rfl
  | cons m ms ih =>
    rw [usesAll, List.count_append, ih, count_tick_uses, List.countP_cons, Nat.add_comm]

theorem tick_notMem_usesAll {ms : List Move} (untimed : ∀ m ∈ ms, m ≠ .call .onTimer) (s : Session) :
    .tick ∉ s.usesAll ms := by
  have none : ms.countP Move.isTimer = 0 := by
    rw [List.countP_eq_zero]
    exact fun m hm timer => untimed m hm (isTimer_iff.mp timer)
  rw [← List.count_eq_zero, count_tick_usesAll, none]

theorem usesAll_append (s : Session) (first second : List Move) :
    s.usesAll (first ++ second) = s.usesAll first ++ (s.run first).usesAll second := by
  induction first generalizing s with
  | nil => rfl
  | cons m ms ih => simp only [List.cons_append, usesAll, run, ih, List.append_assoc]

/-- A timer that is due is one of the ticks of the schedule that are. -/
theorem due_of_dues {earlier later : List Move}
    (quiet : true ∉ s.link.schedule.dues (s.usesAll (earlier ++ .call .onTimer :: later))) :
    (s.run earlier).link.schedule.due = false := by
  rw [usesAll_append, Schedule.dues_append, ← s.schedule_run, List.mem_append, not_or] at quiet
  exact Bool.eq_false_iff.mpr fun due => quiet.2 (due ▸ List.mem_cons_self)

/-! A link that has failed. -/

theorem Steady.uses_of_failure {fault : Error} (h : s.Steady) (failed : s.link.failure? = some fault)
    (closed : ¬ s.Reopens m) (untimed : m ≠ .call .onTimer) :
    s.uses m = [] ∨ ∃ ticks, s.uses m = [.setInterval ticks] := by
  have idle := h.idle_of_failure failed
  have busy {op : Operation} (here : s.link.operation = op) (outstanding : op ≠ .idle) : False :=
    outstanding (here.symm.trans idle)
  have full (r : Request) : ¬ s.link.FallsShort r := fun ⟨_, works, _⟩ =>
    absurd (works.symm.trans failed) nofun
  cases m with
  | call c =>
    cases c with
    | attach channel => exact .inl rfl
    | openUnit unit => exact .inl (if_neg fun configured => closed (reopens_iff.mpr configured))
    | closeUnit unit => exact .inl rfl
    | setPollInterval ticks => exact .inr ⟨ticks, rfl⟩
    | onTimer => exact absurd rfl untimed
    | runTask => exact .inl rfl
    | service r => exact .inl (if_neg (full r))
    | writeComplete o =>
      have other : ¬ (s.link.operation = .writing ∧ ¬ s.link.Chains o) :=
        fun writing => busy writing.1 nofun
      exact .inl (if_neg other)
    | readComplete received =>
      have other : s.link.operation ≠ .reading := fun reading => busy reading nofun
      exact .inl (if_neg other)
  | answer shown =>
    left
    unfold uses
    cases s.stopped with
    | nil => rfl
    | cons d outer =>
      cases d with
      | issueWrite channel frame count => simp only [Link.resumeUses, idle]
      | head unit =>
        simp only [Link.resumeUses, if_neg (full _)]
        split <;> rfl
      | issueRead channel => rfl
      | complete unit o => rfl

theorem not_reopens_onTimer : ¬ s.Reopens (.call .onTimer) := id

theorem Steady.nudge_notMem_usesAll {fault : Error} (h : s.Steady)
    (failed : s.link.failure? = some fault) (ms : List Move) (closed : s.NeverReopens ms) :
    .nudge ∉ s.usesAll ms := by
  induction ms generalizing s with
  | nil => exact List.not_mem_nil
  | cons m ms ih =>
    obtain ⟨now, later⟩ := closed
    have arrested := ((passage h.toSound m).arrested h failed now).1
    have rest := ih (h.next m) (arrested.failure?_eq.trans failed) later
    have first : .nudge ∉ s.uses m := by
      by_cases timed : m = .call .onTimer
      · subst timed
        exact List.not_mem_cons_of_ne_of_not_mem nofun List.not_mem_nil
      · rcases h.uses_of_failure failed now timed with unused | ⟨ticks, set⟩
        · rw [unused]
          exact List.not_mem_nil
        · rw [set]
          exact List.not_mem_cons_of_ne_of_not_mem nofun List.not_mem_nil
    rw [usesAll, List.mem_append, not_or]
    exact ⟨first, rest⟩

/-- A nudge brings on the task, and nothing but the timer takes it back. -/
theorem due_of_nudge (installed : s.link.schedule.installed = true) (nudges : s.uses m = [.nudge])
    {between : List Move} (untimed : ∀ m' ∈ between, m' ≠ .call .onTimer) :
    ((s.next m).run between).link.schedule.due = true := by
  have nudged : (s.next m).link.schedule = s.link.schedule.nudge := by
    rw [s.schedule_next m, nudges]
    rfl
  rw [schedule_run, nudged]
  exact (Schedule.due_nudge installed (tick_notMem_usesAll untimed _)).2

theorem Hastens.uses (hastens : s.Hastens m) (h : s.Sound) : s.uses m = [.nudge] := by
  have p := passage h m
  cases hastens with
  | ended he ends quiet =>
    rcases p.uses_of_ends he ends with ⟨nudges, -⟩ | ⟨-, channel, polls⟩
    · exact nudges
    · exact absurd polls (quiet channel)
  | @short before after served free works pending =>
    obtain ⟨uses, rfl⟩ := p.uses_of_served served
    obtain ⟨-, progress, request⟩ := Link.service_works free works before
    rw [request] at pending
    rw [uses, if_pos ⟨free, works, progress.trans pending⟩]

/-- The count that begins with a tick that is due. -/
theorem counts_interval (due : s.link.schedule.due = true) {ms : List Move}
    (calm : .nudge ∉ (s.next (.call .onTimer)).usesAll ms)
    (early : ms.countP Move.isTimer < max s.link.schedule.interval 1) :
    let x := s.next (.call .onTimer)
    true ∉ x.link.schedule.dues (x.usesAll ms) ∧
      ((x.run ms).link.schedule.due = true ↔
        ms.countP Move.isTimer + 1 = max s.link.schedule.interval 1) := by
  intro x
  have loaded : x.link.schedule =
      { s.link.schedule with countdown := max s.link.schedule.interval 1 } :=
    (s.schedule_next _).trans (congrArg Prod.snd (Schedule.tick_of_due due))
  have installed : x.link.schedule.installed = true := by
    rw [loaded]
    exact (Schedule.due_iff.mp due).1
  have left : x.link.schedule.left = max s.link.schedule.interval 1 := by
    rw [loaded]
    exact Nat.max_eq_left (Nat.le_max_right _ 1)
  have early : (x.usesAll ms).count .tick < x.link.schedule.left := by
    rw [count_tick_usesAll, left]
    exact early
  obtain ⟨quiet, next⟩ := Schedule.due_useAll installed calm early
  rw [count_tick_usesAll, left] at next
  rw [schedule_run]
  exact ⟨quiet, next⟩

/-- The task finds a failed link free, and has nothing to do there but wake. -/
theorem Steady.wakes_of_failure {fault : Error} (h : s.Steady)
    (failed : s.link.failure? = some fault) (due : s.link.schedule.due = true) :
    .taskRuns .wake ∈ (s.advance (.call .onTimer)).notes := by
  let timed : Link := { s.link with schedule := s.link.schedule.tick.2 }
  have runs : s.advance (.call .onTimer) = timed.runTask := if_pos due
  have free : timed.locks.link = false := h.free (h.idle_of_failure failed)
  have action : timed.nextAction = .wake := by
    have fails : timed.failure? = some fault := failed
    rw [Link.nextAction, fails]
    rfl
  rw [runs]
  cases held : timed.locks.wake with
  | false =>
    rw [Link.runTask_wake free action held]
    exact List.mem_cons_self
  | true =>
    rw [Link.runTask_wakeRefused free action held]
    exact List.mem_cons_self

theorem schedule_of_uses_nil (unused : s.uses m = []) :
    (s.next m).link.schedule = s.link.schedule := by
  rw [s.schedule_next m, unused]
  rfl

/-- In every run of a new link, however its calls are nested, and once the schedule is installed, the
periodic task runs on the next tick after an operation has come to its end without a poll to follow
and after a request has been left pending by a link that works, whatever is called until then. With a
poll to follow, on a link that is busy or has failed, and when nothing comes to its end by it, a
completion or a request leaves the schedule alone. On a link that has failed nothing but the timer
moves the countdown, until a unit is opened. From the first tick that is due there, the task runs
once in every interval, as it is set when the run before begins. -/
theorem task_keeps_cadence (config : Config) (ms : List Move) :
    let s := (ofConfig config).run ms
    let timed := { s.link with schedule := s.link.schedule.tick.2 }
    s.advance (.call .onTimer) =
      (if s.link.schedule.due then timed.runTask else .done timed []) ∧
    (s.link.schedule.installed = true → ∀ m, s.Hastens m →
      ∀ between, (∀ m' ∈ between, m' ≠ .call .onTimer) →
        ((s.next m).run between).link.schedule.due = true) ∧
    (∀ m e channel, e ∈ s.events m → e.Ends → .issued channel .read ∈ s.events m →
      (s.next m).link.schedule = s.link.schedule) ∧
    (∀ m before after, .served before after ∈ s.events m →
      s.link.busy = true ∨ s.link.failure? ≠ none →
      (s.next m).link.schedule = s.link.schedule) ∧
    (∀ m, (∃ o, m = .call (.writeComplete o)) ∨ (∃ received, m = .call (.readComplete received)) →
      (∀ e ∈ s.events m, ¬ e.Ends) → (s.next m).link.schedule = s.link.schedule) ∧
    ∀ fault, s.link.failure? = some fault →
      (∀ m, m ≠ .call .onTimer → ¬ s.Reopens m →
        (s.next m).link.schedule.countdown = s.link.schedule.countdown) ∧
      (s.link.schedule.due = true →
        let ticks := max s.link.schedule.interval 1
        let x := s.next (.call .onTimer)
        .taskRuns .wake ∈ (s.advance (.call .onTimer)).notes ∧
        ∀ between, x.NeverReopens between → between.countP Move.isTimer < ticks →
          (∀ earlier later, between = earlier ++ .call .onTimer :: later →
            (x.run earlier).link.schedule.due = false) ∧
          ((x.run between).link.schedule.due = true ↔
            between.countP Move.isTimer + 1 = ticks) ∧
          (x.run between).link.failure? = some fault) := by
  intro s timed
  have steady : s.Steady := steady_run config ms
  have p (m : Move) := passage steady.toSound m
  refine ⟨rfl, ?_, ?_, ?_, ?_, ?_⟩
  · intro installed m hastens between untimed
    exact due_of_nudge installed (hastens.uses steady.toSound) untimed
  · intro m e channel he ends polls
    rcases (p m).uses_of_ends he ends with ⟨-, quiet⟩ | ⟨unused, -⟩
    · exact absurd polls (quiet channel)
    · exact schedule_of_uses_nil unused
  · intro m before after served hindered
    have other : ¬ s.link.FallsShort before := by
      rintro ⟨free, works, -⟩
      rcases hindered with busy | fails
      · exact absurd (free.symm.trans busy) nofun
      · exact fails works
    apply schedule_of_uses_nil
    rw [((p m).uses_of_served served).1, if_neg other]
  · intro m completes none
    apply schedule_of_uses_nil
    rcases completes with ⟨o, rfl⟩ | ⟨received, rfl⟩
    · have other : ¬ (s.link.operation = .writing ∧ ¬ s.link.Chains o) :=
        fun ⟨writing, _⟩ => none _ (wrote_mem_events writing o) trivial
      exact if_neg other
    · have other : s.link.operation ≠ .reading :=
        fun reading => none _ (received_mem_events reading received) trivial
      exact if_neg other
  · intro fault failed
    constructor
    · intro m untimed closed
      rw [s.schedule_next m]
      rcases steady.uses_of_failure failed closed untimed with unused | ⟨ticks, set⟩
      · rw [unused]
        rfl
      · rw [set]
        rfl
    · intro due ticks x
      refine ⟨steady.wakes_of_failure failed due, fun between closed early => ?_⟩
      have arrested := ((p (.call .onTimer)).arrested steady failed not_reopens_onTimer).1
      have failed' : x.link.failure? = some fault := arrested.failure?_eq.trans failed
      have steady' : x.Steady := steady.next _
      obtain ⟨quiet, next⟩ :=
        counts_interval due (steady'.nudge_notMem_usesAll failed' between closed) early
      refine ⟨?_, next, ?_⟩
      · rintro earlier later rfl
        exact due_of_dues quiet
      · exact (steady'.arrested_run failed' between closed).1.failure?_eq.trans failed'

/-- A read fails, and the wake pass that is due at once is followed by two idle ticks. -/
theorem task_keeps_cadence_when_failed :
    let ms : List Move :=
      [.call (.attach 0), .call (.openUnit .input),
        .call (.service { direction := .read, buffer := [0] }), .call .onTimer, .answer none,
        .call (.readComplete (.error .io))]
    let between : List Move :=
      [.answer none, .call (.service { direction := .write, buffer := [7] }), .answer none,
        .call .onTimer, .call (.setPollInterval 9), .call .onTimer]
    let s := (ofConfig { pollInterval := 3 }).run ms
    let x := s.next (.call .onTimer)
    s.link.failure? = some .io ∧ s.link.schedule.due = true ∧ x.NeverReopens between ∧
      (x.run between).link.schedule.due = true := by
  intro ms between s x
  have failed : s.link.failure? = some .io := by decide +kernel
  have due : s.link.schedule.due = true := by decide +kernel
  have closed : x.NeverReopens between := by decide +kernel
  have early : between.countP Move.isTimer < max s.link.schedule.interval 1 := by decide +kernel
  have last : between.countP Move.isTimer + 1 = max s.link.schedule.interval 1 := by
    decide +kernel
  obtain ⟨-, -, -, -, -, fails⟩ := task_keeps_cadence { pollInterval := 3 } ms
  obtain ⟨-, counts⟩ := (fails .io failed).2 due
  exact ⟨failed, due, closed, (counts between closed early).2.1.mpr last⟩

end PolledLink.Session
