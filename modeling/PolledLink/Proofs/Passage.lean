import PolledLink.Proofs.Reception
import PolledLink.Proofs.Serving
import PolledLink.Proofs.Sound
import PolledLink.Proofs.Task

/-! Everything that one move can do to a sound session. There is one passage for each thing that can
come of a move, with the events that it makes and the session that it leaves, which is sound again. -/

namespace PolledLink.Session

/-- The calls that run the periodic task, with the schedule that they leave. -/
inductive RunsTask (s : Session) : Move → Schedule → Prop
  | asked : RunsTask s (.call .runTask) s.link.schedule
  | timed {schedule : Schedule} (h : s.link.schedule.tick = (true, schedule)) :
    RunsTask s (.call .onTimer) schedule

/-- The moves that bring a write to its end, with the snapshot published at that point and the calls
that are left. -/
inductive EndsWrite (s : Session) : Move → Outcome → Snapshot → List Demand → Prop
  | late {o : Outcome} (h : s.link.operation = .writing) :
    EndsWrite s (.call (.writeComplete o)) o s.link.published s.stopped
  | heldOver {o : Outcome} {channel : ChannelId} {frame : Frame} {count : Nat}
    {outer : List Demand} {shown : Option Request} (h : s.link.operation = .writeDone o)
    (hs : s.stopped = .issueWrite channel frame count :: outer) :
    EndsWrite s (.answer shown) o s.link.snapshot outer

/-- What a move can do, with the events that it makes. -/
inductive Passage (s : Session) : Move → List Event → Session → Prop
  /-- Nothing but the pace and the open units. -/
  | aside {m : Move} (schedule : Schedule) (isOpen : PerUnit Bool) :
    Passage s m [] { s with link := { s.link with schedule, isOpen } }
  | attached {channel : ChannelId} (idle : s.link.operation = .idle) :
    Passage s (.call (.attach channel)) []
      { s with link := { s.link with channel := some channel, configured := true }.unlock }
  | opened {unit : LinkUnit} (schedule : Schedule) (configured : s.link.configured = true) :
    Passage s (.call (.openUnit unit)) []
      { s with
        link :=
          { s.link with
            result := .ok, discards := 0, schedule, isOpen := s.link.isOpen.set unit true } }
  | served (r : Request) :
    Passage s (.call (.service r)) [.served r (s.link.service r).request]
      { s with link := (s.link.service r).link }
  | flushed {m : Move} {schedule : Schedule} {channel : ChannelId}
    (h : s.RunsTask m schedule) (idle : s.link.operation = .idle)
    (action : s.link.nextAction = .flush) (hc : s.link.channel = some channel) :
    Passage s m [.issued channel (.write (s.link.buffers.stamped s.link.config.source).tx)]
      { link :=
          { s.link with
            schedule, locks := s.link.locks.set .link true, operation := .issuingWrite
            buffers := s.link.buffers.stamped s.link.config.source }
        stopped :=
          .issueWrite channel (s.link.buffers.stamped s.link.config.source).tx
            s.link.buffers.writePos :: s.stopped }
  | polled {m : Move} {schedule : Schedule} {channel : ChannelId}
    (h : s.RunsTask m schedule) (idle : s.link.operation = .idle)
    (action : s.link.nextAction = .poll) (hc : s.link.channel = some channel) :
    Passage s m [.issued channel .read]
      { link :=
          { s.link with
            schedule, locks := s.link.locks.set .link true, operation := .issuingRead }
        stopped := .issueRead channel :: s.stopped }
  | unstarted {m : Move} {schedule : Schedule} (h : s.RunsTask m schedule)
    (idle : s.link.operation = .idle) (action : s.link.nextAction ≠ .wake)
    (hc : s.link.channel = none) :
    Passage s m []
      { s with link := { s.link with schedule, result := .error .notConfigured }.unlock }
  | wakeRefused {m : Move} {schedule : Schedule} (h : s.RunsTask m schedule)
    (idle : s.link.operation = .idle) (action : s.link.nextAction = .wake)
    (hw : s.link.locks.wake = true) :
    Passage s m []
      { s with
        link :=
          { s.link with
            schedule, wakeScheduled := s.link.wakeScheduled && s.link.failure?.isSome }.unlock }
  | woke {m : Move} {schedule : Schedule} (h : s.RunsTask m schedule)
    (idle : s.link.operation = .idle) (action : s.link.nextAction = .wake)
    (hw : s.link.locks.wake = false) :
    Passage s m []
      { link :=
          { s.link with
            schedule, wakeScheduled := s.link.wakeScheduled && s.link.failure?.isSome
            locks := s.link.locks.set .wake true }.unlock
        stopped := .head .input :: s.stopped }
  | shown {unit : LinkUnit} {r : Request} {outer : List Demand}
    (hs : s.stopped = .head unit :: outer) (pending : r.isPending = true) {outcome : Outcome}
    (hp : (s.link.service r).progress = .ready outcome) :
    Passage s (.answer (some r)) [.served r (s.link.service r).request]
      { link := (s.link.service r).link, stopped := .complete unit outcome :: outer }
  | shownShort {unit : LinkUnit} {r : Request} {outer : List Demand}
    (hs : s.stopped = .head unit :: outer) (pending : r.isPending = true)
    (hp : (s.link.service r).progress = .pending) :
    Passage s (.answer (some r)) [.served r (s.link.service r).request]
      (take ((s.link.service r).link.passOn unit) outer)
  | shownNone {unit : LinkUnit} {shown : Option Request} {outer : List Demand}
    (hs : s.stopped = .head unit :: outer) (none : shown.filter Request.isPending = none) :
    Passage s (.answer shown) [] (take (s.link.passOn unit) outer)
  | completed {unit : LinkUnit} {outcome : Outcome} {shown : Option Request} {outer : List Demand}
    (hs : s.stopped = .complete unit outcome :: outer) :
    Passage s (.answer shown) [] (take (s.link.passOn unit) outer)
  | writeStarted {channel : ChannelId} {frame : Frame} {count : Nat} {shown : Option Request}
    {outer : List Demand} (hs : s.stopped = .issueWrite channel frame count :: outer)
    (h : s.link.operation = .issuingWrite) :
    Passage s (.answer shown) []
      { link := { s.link.publish with operation := .writing }, stopped := outer }
  | readStarted {channel : ChannelId} {shown : Option Request} {outer : List Demand}
    (hs : s.stopped = .issueRead channel :: outer) (h : s.link.operation = .issuingRead) :
    Passage s (.answer shown) []
      { link := { s.link.publish with operation := .reading }, stopped := outer }
  | writeEarly {o : Outcome} (h : s.link.operation = .issuingWrite) :
    Passage s (.call (.writeComplete o)) []
      { s with link := { s.link with operation := .writeDone o } }
  | writeFailed {m : Move} {e : Error} {published : Snapshot} {outer : List Demand}
    (h : s.EndsWrite m (.error e) published outer) :
    Passage s m [.wrote (.error e)]
      { link := { s.link with operation := .idle, result := .error e }.unlock.nudge
        stopped := outer }
  | writeSent {m : Move} {published : Snapshot} {outer : List Demand}
    (h : s.EndsWrite m .ok published outer)
    (keeps : ¬ (s.link.buffers.readLeft = 0 ∧ s.link.wakeScheduled = false)) :
    Passage s m [.wrote .ok]
      { link :=
          { s.link with
            operation := .idle, result := .ok, buffers := s.link.buffers.reset }.unlock.nudge
        stopped := outer }
  | writeChained {m : Move} {published : Snapshot} {outer : List Demand} {channel : ChannelId}
    (h : s.EndsWrite m .ok published outer) (empty : s.link.buffers.readLeft = 0)
    (calm : s.link.wakeScheduled = false) (hc : s.link.channel = some channel) :
    Passage s m [.wrote .ok, .issued channel .read]
      { link :=
          { s.link with
            operation := .issuingRead, result := .ok, buffers := s.link.buffers.reset, published }
        stopped := .issueRead channel :: outer }
  | replyAccepted {received : Link.Received} {r : Reply} (h : s.link.operation = .reading)
    (hr : received.reply = .ok r) :
    Passage s (.call (.readComplete received)) [.received received]
      { s with
        link :=
          { s.link with
            operation := .idle, buffers := s.link.buffers.load r, wakeScheduled := true
            discards := 0, result := .ok }.unlock.nudge }
  | replyDiscarded {received : Link.Received} {e : Error} (h : s.link.operation = .reading)
    (hr : received.reply = .error e) (transient : e.isTransient = true) :
    Passage s (.call (.readComplete received)) [.received received]
      { s with
        link :=
          { s.link with
            operation := .idle, discards := min (s.link.discards + 1) Link.maxDiscards
            result := .error (s.link.discardError e) }.unlock.nudge }
  | readFailed {received : Link.Received} {e : Error} (h : s.link.operation = .reading)
    (hr : received.reply = .error e) (lasting : e.isTransient = false) :
    Passage s (.call (.readComplete received)) [.received received]
      { s with link := { s.link with operation := .idle, result := .error e }.unlock.nudge }

variable {s s' : Session} {m : Move} {es : List Event}

theorem EndsWrite.inFlight {o : Outcome} {published : Snapshot} {outer : List Demand}
    (h : s.EndsWrite m o published outer) : s.link.operation ≠ .idle := by
  cases h with
  | late writing => rw [writing]; nofun
  | heldOver done _ => rw [done]; nofun

namespace Sound

theorem waking_of_endsWrite {o : Outcome} {published : Snapshot} {outer : List Demand}
    (h : s.Sound) (ends : s.EndsWrite m o published outer) : Waking s.link.locks.wake outer := by
  cases ends with
  | late writing => exact h.waking writing rfl
  | heldOver done stopped =>
    have stacked := h.stacked
    rw [stopped] at stacked
    exact stacked.of_issueWrite.2

theorem served (h : s.Sound) (r : Request) : Sound { s with link := (s.link.service r).link } := by
  have serves := s.link.serves r
  obtain ⟨schedule, published, link⟩ := serves.link_eq
  have inBounds := serves.inBounds h.inBounds
  rw [link] at inBounds ⊢
  exact ⟨h.held, h.attached, inBounds, h.stacked⟩

end Sound

theorem Passage.sound (p : s.Passage m es s') (h : s.Sound) : s'.Sound := by
  cases p with
  | aside schedule isOpen => exact ⟨h.held, h.attached, h.inBounds, h.stacked⟩
  | attached idle => exact .of_unlock idle h.inBounds (h.waking idle rfl)
  | opened schedule configured => exact ⟨h.held, h.attached, h.inBounds, h.stacked⟩
  | served r => exact h.served r
  | flushed runs idle action hc =>
    exact ⟨rfl, fun none => absurd (hc.symm.trans none) nofun, h.inBounds.stamped _,
      .issuingWrite _ _ _ (h.waking idle rfl)⟩
  | polled runs idle action hc =>
    exact ⟨rfl, fun none => absurd (hc.symm.trans none) nofun, h.inBounds,
      .issuingRead _ (h.waking idle rfl)⟩
  | unstarted runs idle => exact .of_unlock idle h.inBounds (h.waking idle rfl)
  | wakeRefused runs idle => exact .of_unlock idle h.inBounds (h.waking idle rfl)
  | woke runs idle action hw =>
    have waking := h.waking idle rfl
    -- the wake lock was free, so that no earlier pass is stopped
    rw [hw] at waking
    rw [waking.eq_nil]
    exact .of_unlock idle h.inBounds (.head .input)
  | @shown unit r outer hs =>
    have served := h.served r
    rw [hs] at served
    exact served.stopAgain (.head unit) (.complete unit _)
  | @shownShort unit r outer hs =>
    have served := h.served r
    rw [hs] at served
    exact served.passOn (.head unit) unit
  | @shownNone unit shown outer hs =>
    have sound : Sound ⟨s.link, s.stopped⟩ := h
    rw [hs] at sound
    exact sound.passOn (.head unit) unit
  | @completed unit outcome shown outer hs =>
    have sound : Sound ⟨s.link, s.stopped⟩ := h
    rw [hs] at sound
    exact sound.passOn (.complete unit outcome) unit
  | writeStarted hs issuing =>
    have inFlight : s.link.operation ≠ .idle := by rw [issuing]; nofun
    have stacked := h.stacked
    rw [hs] at stacked
    exact ⟨h.busy inFlight, fun none => absurd (h.attached none) inFlight, h.inBounds,
      .writing stacked.of_issueWrite.2⟩
  | readStarted hs issuing =>
    have inFlight : s.link.operation ≠ .idle := by rw [issuing]; nofun
    have stacked := h.stacked
    rw [hs] at stacked
    exact ⟨h.busy inFlight, fun none => absurd (h.attached none) inFlight, h.inBounds,
      .reading stacked.of_issueRead.2⟩
  | @writeEarly o issuing =>
    have inFlight : s.link.operation ≠ .idle := by rw [issuing]; nofun
    have stacked := h.stacked
    rw [issuing] at stacked
    refine ⟨h.busy inFlight, fun none => absurd (h.attached none) inFlight, h.inBounds, ?_⟩
    generalize s.stopped = ds at stacked
    cases stacked with
    | issuingWrite channel frame count waking => exact .writeDone o channel frame count waking
  | writeFailed ends =>
    exact ⟨rfl, fun _ => rfl, h.inBounds, .idle (h.waking_of_endsWrite ends)⟩
  | writeSent ends =>
    exact ⟨rfl, fun _ => rfl, h.inBounds.reset, .idle (h.waking_of_endsWrite ends)⟩
  | writeChained ends empty calm hc =>
    exact ⟨h.busy ends.inFlight, fun none => absurd (hc.symm.trans none) nofun, h.inBounds.reset,
      .issuingRead _ (h.waking_of_endsWrite ends)⟩
  | @replyAccepted received r reading =>
    exact ⟨rfl, fun _ => rfl, h.inBounds.load r, .idle (h.waking reading rfl)⟩
  | replyDiscarded reading =>
    exact ⟨rfl, fun _ => rfl, h.inBounds, .idle (h.waking reading rfl)⟩
  | readFailed reading =>
    exact ⟨rfl, fun _ => rfl, h.inBounds, .idle (h.waking reading rfl)⟩

/-- The configuration of a link is fixed. -/
theorem Passage.config_eq (p : s.Passage m es s') : s'.link.config = s.link.config := by
  have served (r : Request) : (s.link.service r).link.config = s.link.config := by
    obtain ⟨schedule, published, link⟩ := (s.link.serves r).link_eq
    rw [link]
  cases p with
  | served r => exact served r
  | @shown unit r => exact served r
  | @shownShort unit r => cases unit <;> exact served r
  | @shownNone unit => cases unit <;> rfl
  | @completed unit => cases unit <;> rfl
  | _ => rfl

end PolledLink.Session
