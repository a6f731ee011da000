import PolledLink.Link.Completion

/-! What the periodic task, a visit of its wake pass and the end of a write come to, in each of the
states that they can meet. The link lock is free when the task runs, and no operation is outstanding
when a write ends. -/

namespace PolledLink.Link

variable {l : Link}

theorem acquire?_free (free : l.locks.link = false) :
    l.locks.acquire? .link = some (l.locks.set .link true) := by
  simp only [Locks.acquire?, Locks.held, free, Bool.false_eq_true, if_false]

theorem acquire?_held (held : l.locks.link = true) : l.locks.acquire? .link = none := by
  simp only [Locks.acquire?, Locks.held, held, if_true]

theorem nextAction_eq_flush :
    l.nextAction = .flush ↔
      l.failure? = none ∧ 0 < l.buffers.writePos ∧ l.wakeScheduled = false := by
  rw [nextAction, Action.next_eq_flush, Option.isSome_eq_false_iff, Option.isNone_iff_eq_none]

theorem nextAction_eq_poll :
    l.nextAction = .poll ↔
      l.failure? = none ∧ l.buffers.writePos = 0 ∧ l.buffers.readLeft = 0 ∧
        l.wakeScheduled = false := by
  rw [nextAction, Action.next_eq_poll, Option.isSome_eq_false_iff, Option.isNone_iff_eq_none]

theorem flush_unattached (hc : l.channel = none) :
    l.flush = .done { l with operation := .idle, result := .error .notConfigured }.unlock
      [.notStarted .notConfigured] := by
  simp only [flush, hc]
  rfl

theorem flush_attached {channel : ChannelId} (hc : l.channel = some channel)
    (hb : l.buffers.InBounds) :
    l.flush =
      .demand
        { l with operation := .issuingWrite, buffers := l.buffers.stamped l.config.source } []
        (.issueWrite channel (l.buffers.stamped l.config.source).tx l.buffers.writePos) := by
  simp only [flush, hc, hb.stamp_eq]

theorem poll_unattached (hc : l.channel = none) :
    l.poll = .done { l with operation := .idle, result := .error .notConfigured }.unlock
      [.notStarted .notConfigured] := by
  simp only [poll, hc]
  rfl

theorem poll_attached {channel : ChannelId} (hc : l.channel = some channel) :
    l.poll = .demand { l with operation := .issuingRead } [] (.issueRead channel) := by
  simp only [poll, hc]

theorem wake_refused (held : l.locks.wake = true) :
    l.wake = .done { l with wakeScheduled := l.wakeScheduled && l.failure?.isSome }.unlock
      [.wakeRunning] := by
  simp only [wake, Locks.acquire?, Locks.held, held, if_true]

theorem wake_taken (free : l.locks.wake = false) :
    l.wake =
      .demand
        { l with
          wakeScheduled := l.wakeScheduled && l.failure?.isSome
          locks := l.locks.set .wake true }.unlock [] (.head .input) := by
  simp only [wake, Locks.acquire?, Locks.held, free, Bool.false_eq_true, if_false]

theorem runTask_held (held : l.locks.link = true) : l.runTask = .done l [.taskSkipped] := by
  simp only [runTask, acquire?_held held]

theorem runTask_unattached (free : l.locks.link = false) (action : l.nextAction ≠ .wake)
    (hc : l.channel = none) :
    l.runTask = .done { l with operation := .idle, result := .error .notConfigured }.unlock
      [.taskRuns l.nextAction, .notStarted .notConfigured] := by
  have stay : { l with locks := l.locks.set .link true }.nextAction = l.nextAction := rfl
  have none : { l with locks := l.locks.set .link true }.channel = none := hc
  simp only [runTask, acquire?_free free, stay]
  cases h : l.nextAction with
  | flush => exact congrArg (Advance.after _) (flush_unattached none)
  | poll => exact congrArg (Advance.after _) (poll_unattached none)
  | wake => exact absurd h action

theorem runTask_flush {channel : ChannelId} (free : l.locks.link = false)
    (action : l.nextAction = .flush) (hc : l.channel = some channel) (hb : l.buffers.InBounds) :
    l.runTask =
      .demand
        { l with
          locks := l.locks.set .link true
          operation := .issuingWrite
          buffers := l.buffers.stamped l.config.source }
        [.taskRuns .flush]
        (.issueWrite channel (l.buffers.stamped l.config.source).tx l.buffers.writePos) := by
  have stay : { l with locks := l.locks.set .link true }.nextAction = .flush := action
  have some : { l with locks := l.locks.set .link true }.channel = some channel := hc
  simp only [runTask, acquire?_free free, stay]
  exact congrArg (Advance.after _) (flush_attached some hb)

theorem runTask_poll {channel : ChannelId} (free : l.locks.link = false)
    (action : l.nextAction = .poll) (hc : l.channel = some channel) :
    l.runTask =
      .demand { l with locks := l.locks.set .link true, operation := .issuingRead }
        [.taskRuns .poll] (.issueRead channel) := by
  have stay : { l with locks := l.locks.set .link true }.nextAction = .poll := action
  have some : { l with locks := l.locks.set .link true }.channel = some channel := hc
  simp only [runTask, acquire?_free free, stay]
  exact congrArg (Advance.after _) (poll_attached some)

theorem runTask_wakeRefused (free : l.locks.link = false) (action : l.nextAction = .wake)
    (held : l.locks.wake = true) :
    l.runTask = .done { l with wakeScheduled := l.wakeScheduled && l.failure?.isSome }.unlock
      [.taskRuns .wake, .wakeRunning] := by
  have stay : { l with locks := l.locks.set .link true }.nextAction = .wake := action
  have busy : { l with locks := l.locks.set .link true }.locks.wake = true := held
  simp only [runTask, acquire?_free free, stay]
  exact congrArg (Advance.after _) (wake_refused busy)

theorem runTask_wake (free : l.locks.link = false) (action : l.nextAction = .wake)
    (hw : l.locks.wake = false) :
    l.runTask =
      .demand
        { l with
          wakeScheduled := l.wakeScheduled && l.failure?.isSome
          locks := l.locks.set .wake true }.unlock [.taskRuns .wake] (.head .input) := by
  have stay : { l with locks := l.locks.set .link true }.nextAction = .wake := action
  have spare : { l with locks := l.locks.set .link true }.locks.wake = false := hw
  simp only [runTask, acquire?_free free, stay]
  exact congrArg (Advance.after _) (wake_taken spare)

theorem offered_none {unit : LinkUnit} {shown : Option Request}
    (none : shown.filter Request.isPending = none) : l.offered unit shown = l.passOn unit := by
  simp only [offered, none]

/-- The request is complete when it has been served. -/
theorem offered_ready {unit : LinkUnit} {shown : Option Request} {r : Request} {o : Outcome}
    (pending : shown.filter Request.isPending = some r)
    (told : (l.service r).progress = .ready o) :
    l.offered unit shown =
      ⟨(l.service r).link, (l.service r).notes ++ [.requestComplete unit o],
        some (l.service r).request, .demand (.complete unit o)⟩ := by
  simp only [offered, pending, told]

theorem offered_short {unit : LinkUnit} {shown : Option Request} {r : Request}
    (pending : shown.filter Request.isPending = some r)
    (told : (l.service r).progress = .pending) :
    l.offered unit shown =
      { ((l.service r).link.passOn unit).after (l.service r).notes with
        served := some (l.service r).request } := by
  simp only [offered, pending, told]

theorem passOn_served (l : Link) (unit : LinkUnit) : (l.passOn unit).served = none := by
  cases unit <;> rfl

theorem finishWrite_error (l : Link) (e : Error) :
    l.finishWrite (.error e) =
      .done { l with result := .error e }.unlock.nudge [.writeFailed e] := rfl

theorem finishWrite_keeps (keeps : ¬ (l.buffers.readLeft = 0 ∧ l.wakeScheduled = false)) :
    l.finishWrite .ok =
      .done { l with result := .ok, buffers := l.buffers.reset }.unlock.nudge [] := by
  have action : { l with result := .ok, buffers := l.buffers.reset }.nextAction ≠ .poll :=
    fun h => keeps (nextAction_eq_poll.mp h).2.2
  simp only [finishWrite, action, if_false]

theorem finishWrite_chains {channel : ChannelId} (empty : l.buffers.readLeft = 0)
    (calm : l.wakeScheduled = false) (hc : l.channel = some channel) :
    l.finishWrite .ok =
      .demand
        { l with result := .ok, buffers := l.buffers.reset, operation := .issuingRead }
        [.chainedPoll] (.issueRead channel) := by
  have action : { l with result := .ok, buffers := l.buffers.reset }.nextAction = .poll :=
    nextAction_eq_poll.mpr ⟨rfl, rfl, empty, calm⟩
  have polls := poll_attached (l := { l with result := .ok, buffers := l.buffers.reset }) hc
  simp only [finishWrite, action, if_true, polls]
  rfl

theorem finishWrite_served (l : Link) (o : Outcome) : (l.finishWrite o).served = none := by
  cases o with
  | error e => rfl
  | ok =>
    simp only [finishWrite]
    split
    · simp only [poll, Advance.after]
      split <;> rfl
    · rfl

theorem writeIssued_pending (h : l.operation = .issuingWrite) (count : Nat) :
    l.writeIssued count = .done { l.publish with operation := .writing } [.flushing count] := by
  have pending : l.publish.operation = .issuingWrite := h
  simp only [writeIssued, pending]
  rfl

theorem writeIssued_heldOver {o : Outcome} (h : l.operation = .writeDone o) (count : Nat) :
    l.writeIssued count =
      .after [.flushing count, .heldOver o] ({ l.publish with operation := .idle }.finishWrite o) := by
  have done : l.publish.operation = .writeDone o := h
  simp only [writeIssued, done]
  rfl

theorem readIssued_pending (h : l.operation = .issuingRead) :
    l.readIssued = .done { l.publish with operation := .reading } [.polling] := by
  have pending : l.publish.operation = .issuingRead := h
  simp only [readIssued, pending]

end PolledLink.Link
