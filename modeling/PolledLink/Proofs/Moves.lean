import PolledLink.Proofs.Passage

/-! Every move of a sound session makes one of the passages. What holds of a passage therefore holds
of a move, and what every passage keeps is kept in the course of a whole run. -/

namespace PolledLink

namespace Session

variable {s : Session}

theorem servings_eq_nil {m : Move} (h : (s.advance m).served = none) : s.servings m = [] := by
  unfold servings
  rw [h]
  cases m.request? <;> rfl

/-- The events of a move that neither ends an operation nor serves a request. -/
theorem events_eq_issues {m : Move} {a : Advance} (ha : s.advance m = a)
    (hc : s.completions m = []) (hs : a.served = none) : s.events m = a.turn.issues := by
  rw [events, hc, servings_eq_nil (ha ▸ hs), ha]
  rfl

theorem passage_attach (h : s.Sound) (channel : ChannelId) :
    s.Passage (.call (.attach channel)) (s.events (.call (.attach channel)))
      (s.next (.call (.attach channel))) := by
  by_cases idle : s.link.operation = .idle
  · have step : s.next (.call (.attach channel)) =
        { s with link := { s.link with channel := some channel, configured := true }.unlock } := by
      simp only [next, Session.step, advance, Link.call, Link.attach,
        Link.acquire?_free (h.free idle), take]
      rfl
    rw [step]
    exact .attached idle
  · have step : s.next (.call (.attach channel)) = s := by
      simp only [next, Session.step, advance, Link.call, Link.attach,
        Link.acquire?_held (h.busy idle), take]
    rw [step]
    exact .aside s.link.schedule s.link.isOpen

theorem passage_openUnit (s : Session) (unit : LinkUnit) :
    s.Passage (.call (.openUnit unit)) (s.events (.call (.openUnit unit)))
      (s.next (.call (.openUnit unit))) := by
  cases configured : s.link.configured with
  | false =>
    have step : s.next (.call (.openUnit unit)) = s := by
      simp only [next, Session.step, advance, Link.call, Link.openUnit, configured,
        Bool.false_eq_true, if_false, take]
    rw [step]
    exact .aside s.link.schedule s.link.isOpen
  | true =>
    obtain ⟨schedule, notes, opens⟩ : ∃ schedule notes, s.link.openUnit unit =
        (.ok,
          { s.link with
            result := .ok, discards := 0, schedule, isOpen := s.link.isOpen.set unit true },
          notes) := by
      unfold Link.openUnit
      rw [if_pos configured]
      exact ⟨_, _, rfl⟩
    simp only [next, Session.step, advance, Link.call, opens, take]
    exact .opened schedule configured

/-- What the task looks at does not depend on the schedule that the tick leaves. -/
theorem RunsTask.eq_runTask {m : Move} {schedule : Schedule} (hm : s.RunsTask m schedule) :
    let l : Link := { s.link with schedule }
    s.advance m = l.runTask ∧ s.completions m = [] ∧ s.next m = take l.runTask s.stopped := by
  intro l
  cases hm with
  | asked => exact ⟨rfl, rfl, rfl⟩
  | timed tick =>
    have onTimer : s.link.onTimer = l.runTask := by
      simp only [Link.onTimer, tick, if_true]
      rfl
    exact ⟨onTimer, rfl, congrArg (take · s.stopped) onTimer⟩

theorem passage_task (h : s.Sound) {m : Move} {schedule : Schedule}
    (hm : s.RunsTask m schedule) : s.Passage m (s.events m) (s.next m) := by
  let l : Link := { s.link with schedule }
  obtain ⟨runs, quiet, step⟩ := hm.eq_runTask
  by_cases idle : s.link.operation = .idle
  · have free : l.locks.link = false := h.free idle
    by_cases action : l.nextAction = .wake
    · cases hw : s.link.locks.wake with
      | true =>
        have task := Link.runTask_wakeRefused free action hw
        rw [events_eq_issues runs quiet (by rw [task]; rfl), step, task]
        exact .wakeRefused hm idle action hw
      | false =>
        have task := Link.runTask_wake free action hw
        rw [events_eq_issues runs quiet (by rw [task]; rfl), step, task]
        exact .woke hm idle action hw
    · cases hc : s.link.channel with
      | none =>
        have task := Link.runTask_unattached free action hc
        rw [events_eq_issues runs quiet (by rw [task]; rfl), step, task]
        have same : { l with operation := .idle, result := .error .notConfigured } =
            { l with result := .error .notConfigured } := by rw [← idle]
        rw [same]
        exact .unstarted hm idle action hc
      | some channel =>
        cases flushes : l.nextAction with
        | flush =>
          have task := Link.runTask_flush (l := l) free flushes hc h.inBounds
          rw [events_eq_issues runs quiet (by rw [task]; rfl), step, task]
          exact .flushed hm idle flushes hc
        | poll =>
          have task := Link.runTask_poll (l := l) free flushes hc
          rw [events_eq_issues runs quiet (by rw [task]; rfl), step, task]
          exact .polled hm idle flushes hc
        | wake => exact absurd flushes action
  · have task := Link.runTask_held (l := l) (h.busy idle)
    rw [events_eq_issues runs quiet (by rw [task]; rfl), step, task]
    exact .aside schedule s.link.isOpen

theorem passage_onTimer (h : s.Sound) :
    s.Passage (.call .onTimer) (s.events (.call .onTimer)) (s.next (.call .onTimer)) := by
  cases tick : s.link.schedule.tick with
  | mk due schedule =>
    cases due with
    | true => exact passage_task h (.timed tick)
    | false =>
      have waits : s.advance (.call .onTimer) = .done { s.link with schedule } [] := by
        simp only [advance, Link.call, Link.onTimer, tick, Bool.false_eq_true, if_false]
      have step : s.next (.call .onTimer) = take (.done { s.link with schedule } []) s.stopped :=
        congrArg (take · s.stopped) waits
      rw [events_eq_issues waits rfl rfl, step]
      exact .aside schedule s.link.isOpen

/-- The passage of a write that ends, once the completion handler or the issuer has it. -/
theorem passage_endsWrite (h : s.Sound) {m : Move} {o : Outcome} {published : Snapshot}
    {outer : List Demand} (ends : s.EndsWrite m o published outer) :
    s.Passage m (s.events m) (s.next m) := by
  let l : Link := { s.link with published, operation := .idle }
  obtain ⟨wrote, turn, served, step⟩ : s.completions m = [.wrote o] ∧
      (s.advance m).turn = (l.finishWrite o).turn ∧ s.servings m = [] ∧
      s.next m = take (l.finishWrite o) outer := by
    cases ends with
    | late hop =>
      have completes : s.link.writeComplete o = l.finishWrite o := by
        simp only [Link.writeComplete, hop]
        rfl
      exact ⟨if_pos hop, congrArg Advance.turn completes, rfl, congrArg (take · s.stopped) completes⟩
    | heldOver hop hs =>
      rename_i channel frame count shown
      have resumes : s.advance (.answer shown) =
          .after [.flushing count, .heldOver o] (l.finishWrite o) :=
        (advance_answer hs shown).trans (Link.writeIssued_heldOver hop count)
      have quiet : (s.advance (.answer shown)).served = none := by
        rw [resumes]
        exact l.finishWrite_served o
      refine ⟨?_, by rw [resumes]; rfl, servings_eq_nil quiet, ?_⟩
      · simp only [completions, hs, hop]
      · rw [next_answer hs shown, ← advance_answer hs shown, resumes]
        rfl
  have events : s.events m = .wrote o :: (l.finishWrite o).turn.issues := by
    rw [Session.events, wrote, served, turn]
    rfl
  rw [events, step]
  cases o with
  | error e =>
    rw [Link.finishWrite_error]
    exact .writeFailed ends
  | ok =>
    by_cases keeps : s.link.buffers.readLeft = 0 ∧ s.link.wakeScheduled = false
    · obtain ⟨channel, hc⟩ := h.exists_channel ends.inFlight
      rw [Link.finishWrite_chains (l := l) keeps.1 keeps.2 hc]
      exact .writeChained ends keeps.1 keeps.2 hc
    · rw [Link.finishWrite_keeps (l := l) keeps]
      exact .writeSent ends keeps

theorem passage_writeComplete (h : s.Sound) (o : Outcome) :
    s.Passage (.call (.writeComplete o)) (s.events (.call (.writeComplete o)))
      (s.next (.call (.writeComplete o))) := by
  by_cases writing : s.link.operation = .writing
  · exact passage_endsWrite h (.late writing)
  have quiet : s.completions (.call (.writeComplete o)) = [] := if_neg writing
  by_cases issuing : s.link.operation = .issuingWrite
  · have defers : s.advance (.call (.writeComplete o)) =
        .done { s.link with operation := .writeDone o } [.writeDeferred] := by
      simp only [advance, Link.call, Link.writeComplete, issuing]
    rw [events_eq_issues defers quiet rfl, next, Session.step, defers]
    exact .writeEarly issuing
  · have strays : s.advance (.call (.writeComplete o)) = .done s.link [.strayWrite] := by
      simp only [advance, Link.call, Link.writeComplete]
    rw [events_eq_issues strays quiet rfl, next, Session.step, strays]
    exact .aside s.link.schedule s.link.isOpen

theorem events_readComplete (s : Session) (reading : s.link.operation = .reading)
    (received : Link.Received) : s.events (.call (.readComplete received)) = [.received received] := by
  simp only [Session.events, completions, reading, if_true, servings, Move.request?, advance,
    Link.call, Turn.issues, List.append_nil]

theorem passage_readComplete (s : Session) (received : Link.Received) :
    s.Passage (.call (.readComplete received)) (s.events (.call (.readComplete received)))
      (s.next (.call (.readComplete received))) := by
  by_cases reading : s.link.operation = .reading
  · have events := s.events_readComplete reading received
    let l : Link := { s.link with operation := .idle }
    have step : s.next (.call (.readComplete received)) =
        { s with link := (l.receive received).2.1.unlock.nudge } := by
      simp only [next, Session.step, advance, Link.call, Link.readComplete, reading, take]
      rfl
    rw [events, step]
    cases hr : received.reply with
    | ok r =>
      obtain ⟨notes, accepted⟩ := Link.receive_accepted l hr
      rw [accepted]
      exact .replyAccepted reading hr
    | error e =>
      obtain ⟨notes, refused⟩ := Link.receive_refused l hr
      rw [refused]
      cases transient : e.isTransient with
      | true =>
        have discards := l.discard_eq e
        rw [if_pos rfl, discards]
        exact .replyDiscarded reading hr transient
      | false => exact .readFailed reading hr transient
  · have strays : ∃ o notes, s.advance (.call (.readComplete received)) =
        ⟨s.link, notes, none, .returned (.outcome o)⟩ := by
      simp only [advance, Link.call, Link.readComplete]
      split
      · contradiction
      · exact ⟨_, _, rfl⟩
      · exact ⟨_, _, rfl⟩
    obtain ⟨o, notes, strays⟩ := strays
    rw [events_eq_issues strays (if_neg reading) rfl, next, Session.step, strays]
    exact .aside s.link.schedule s.link.isOpen

/-- The passages of a wake pass that goes on. -/
theorem passage_offered {unit : LinkUnit} {outer : List Demand}
    (hs : s.stopped = .head unit :: outer) (shown : Option Request) :
    s.Passage (.answer shown) (s.events (.answer shown)) (s.next (.answer shown)) := by
  have resumes : s.advance (.answer shown) = s.link.offered unit shown := advance_answer hs shown
  have quiet : s.completions (.answer shown) = [] := by
    simp only [completions, hs]
  have step : s.next (.answer shown) = take (s.link.offered unit shown) outer :=
    next_answer hs shown
  cases pending : shown.filter Request.isPending with
  | none =>
    have skips : s.link.offered unit shown = s.link.passOn unit := Link.offered_none pending
    have turn : (s.link.passOn unit).turn.issues = [] := by cases unit <;> rfl
    rw [events_eq_issues (resumes.trans skips) quiet (s.link.passOn_served unit), turn, step, skips]
    exact .shownNone hs pending
  | some r =>
    obtain ⟨rfl, hr⟩ := Option.filter_eq_some_iff.mp pending
    cases progress : (s.link.service r).progress with
    | ready outcome =>
      have serves : s.link.offered unit (some r) = _ := Link.offered_ready pending progress
      have events : s.events (.answer (some r)) = [.served r (s.link.service r).request] := by
        simp only [Session.events, quiet, servings, Move.request?, resumes, serves, Turn.issues,
          List.nil_append, List.append_nil]
      rw [events, step, serves]
      exact .shown hs hr progress
    | pending =>
      have serves : s.link.offered unit (some r) = _ := Link.offered_short pending progress
      have turn : ((s.link.service r).link.passOn unit).turn.issues = [] := by cases unit <;> rfl
      have events : s.events (.answer (some r)) = [.served r (s.link.service r).request] := by
        simp only [Session.events, quiet, servings, Move.request?, resumes, serves, Advance.after,
          turn, List.nil_append, List.append_nil]
      rw [events, step, serves]
      exact .shownShort hs hr progress

theorem passage_answer (h : s.Sound) (shown : Option Request) :
    s.Passage (.answer shown) (s.events (.answer shown)) (s.next (.answer shown)) := by
  cases hs : s.stopped with
  | nil =>
    have quiet : s.completions (.answer shown) = [] := by
      simp only [completions, hs]
    rw [events_eq_issues (advance_answer_nil hs shown) quiet rfl, next_answer_nil hs shown]
    exact .aside s.link.schedule s.link.isOpen
  | cons d outer =>
    have resumes := advance_answer hs shown
    have step := next_answer hs shown
    have stacked := h.stacked
    rw [hs] at stacked
    cases d with
    | head unit => exact passage_offered hs shown
    | complete unit outcome =>
      have quiet : s.completions (.answer shown) = [] := by
        simp only [completions, hs]
      have turn : (s.link.passOn unit).turn.issues = [] := by cases unit <;> rfl
      rw [events_eq_issues resumes quiet (s.link.passOn_served unit), step]
      exact turn ▸ .completed hs
    | issueWrite channel frame count =>
      rcases stacked.of_issueWrite.1 with issuing | ⟨o, done⟩
      · -- no completion came while the write was being issued
        have quiet : s.completions (.answer shown) = [] := by
          simp only [completions, hs, issuing]
        have started : s.link.resume (.issueWrite channel frame count) shown =
            .done { s.link.publish with operation := .writing } [.flushing count] :=
          Link.writeIssued_pending issuing count
        rw [events_eq_issues (resumes.trans started) quiet rfl, step, started]
        exact .writeStarted hs issuing
      · exact passage_endsWrite h (.heldOver done hs)
    | issueRead channel =>
      have issuing := stacked.of_issueRead.1
      have quiet : s.completions (.answer shown) = [] := by
        simp only [completions, hs]
      have started : s.link.resume (.issueRead channel) shown =
          .done { s.link.publish with operation := .reading } [.polling] :=
        Link.readIssued_pending issuing
      rw [events_eq_issues (resumes.trans started) quiet rfl, step, started]
      exact .readStarted hs issuing

/-- From a sound session every move makes one of the passages. -/
theorem passage (h : s.Sound) (m : Move) : s.Passage m (s.events m) (s.next m) := by
  cases m with
  | answer shown => exact passage_answer h shown
  | call c =>
    cases c with
    | attach channel => exact passage_attach h channel
    | openUnit unit => exact passage_openUnit s unit
    | closeUnit unit => exact .aside s.link.schedule _
    | setPollInterval ticks => exact .aside _ s.link.isOpen
    | onTimer => exact passage_onTimer h
    | runTask => exact passage_task h .asked
    | service r => exact .served r
    | writeComplete o => exact passage_writeComplete h o
    | readComplete received => exact passage_readComplete s received

theorem sound_ofConfig (config : Config) : (ofConfig config).Sound :=
  ⟨rfl, fun _ => rfl, Buffers.inBounds_empty, .idle .asleep⟩

end Session

end PolledLink
