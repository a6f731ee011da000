import PolledLink.Link.Advance
import PolledLink.Link.Service

/-! The periodic task. It either starts an operation on the channel, which then carries the link
lock until it completes, or makes a wake pass over the requests of both units. A write that has been
sent may start a poll in its turn. -/

namespace PolledLink.Link

/-- The operation could not be started. -/
def abandon (l : Link) (e : Error) : Advance :=
  .done { l with operation := .idle, result := .error e }.unlock [.notStarted e]

/-- Sends the staged bytes, with the link lock held. -/
def flush (l : Link) : Advance :=
  let l := { l with operation := .issuingWrite }
  match l.channel with
  | none => l.abandon .notConfigured
  | some channel =>
    match l.buffers.stamp l.config.source with
    | .error e => l.abandon e
    | .ok buffers =>
      .demand { l with buffers } [] (.issueWrite channel buffers.tx l.buffers.writePos)

/-- Asks the peripheral for a reply, with the link lock held. -/
def poll (l : Link) : Advance :=
  let l := { l with operation := .issuingRead }
  match l.channel with
  | none => l.abandon .notConfigured
  | some channel => .demand l [] (.issueRead channel)

/-- A write has come to its end, with the link lock held. Once sent, the staged bytes give way, and
if nothing is left to deliver a poll follows at once. -/
def finishWrite (l : Link) (outcome : Outcome) : Advance :=
  let l := { l with result := outcome }
  match outcome with
  | .ok =>
    let l := { l with buffers := l.buffers.reset }
    if l.nextAction = .poll then l.poll.after [.chainedPoll] else .done l.unlock.nudge []
  | .error e => .done l.unlock.nudge [.writeFailed e]

/-- The channel has started a write, which may be complete already. -/
def writeIssued (l : Link) (count : Nat) : Advance :=
  let l := l.publish
  .after [.flushing count] <|
    match l.operation with
    | .issuingWrite => .done { l with operation := .writing } []
    | .writeDone outcome =>
      ({ l with operation := .idle }.finishWrite outcome).after [.heldOver outcome]
    | operation => .done l [.unexpectedOperation operation.code]

/-- The channel has started a read. An outcome is held over only while a write is being started, so
that there is none to take up here (`Stacked.of_issueRead`). One that there was would be noted as
unexpected, and left where it is. -/
def readIssued (l : Link) : Advance :=
  let l := l.publish
  match l.operation with
  | .issuingRead => .done { l with operation := .reading } [.polling]
  | operation => .done l [.polling, .unexpectedOperation operation.code]

/-- Starts a wake pass, with the link lock held. The wake lock is taken before the link lock is
given up, since servicing takes the link lock for each request. -/
def wake (l : Link) : Advance :=
  let l := { l with wakeScheduled := l.wakeScheduled && l.failure?.isSome }
  match l.locks.acquire? .wake with
  | none => .done l.unlock [.wakeRunning]
  | some locks => .demand { l with locks }.unlock [] (.head .input)

/-- Goes on with the wake pass when `unit` has been dealt with. -/
def passOn (l : Link) : LinkUnit → Advance
  | .input => .demand l [] (.head .output)
  | .output => .done { l with locks := l.locks.release .wake } []

/-- The wake pass has been shown the oldest request of `unit`. -/
def offered (l : Link) (unit : LinkUnit) (request : Option Request) : Advance :=
  match request.filter Request.isPending with
  | none => l.passOn unit
  | some r =>
    let s := l.service r
    match s.progress with
    | .ready outcome =>
      ⟨s.link, s.notes ++ [.requestComplete unit outcome], some s.request,
        .demand (.complete unit outcome)⟩
    | .pending => { (s.link.passOn unit).after s.notes with served := some s.request }

def runTask (l : Link) : Advance :=
  match l.locks.acquire? .link with
  | none => .done l [.taskSkipped]
  | some locks =>
    let l := { l with locks }
    let action := l.nextAction
    .after [.taskRuns action] <|
      match action with
      | .flush => l.flush
      | .poll => l.poll
      | .wake => l.wake

def onTimer (l : Link) : Advance :=
  let (due, schedule) := l.schedule.tick
  let l := { l with schedule }
  if due then l.runTask else .done l []

end PolledLink.Link
