import PolledLink.Action
import PolledLink.Frame.Reply
import PolledLink.Request
import PolledLink.Text.Quoted

/-! Notes for the log. Every remark that a link or its runner makes about its own work is a value
here, with its level and its wording. -/

namespace PolledLink

inductive Level
  | error
  | warn
  | debug
  | trace

def Level.name : Level → String
  | error => "ERROR"
  | warn => "WARN"
  | debug => "DEBUG"
  | trace => "TRACE"

inductive Note
  | attached
  | openedUnattached (unit : LinkUnit)
  | taskStarted (interval : Nat)
  | opened (unit : LinkUnit)
  | closed (unit : LinkUnit)
  | taskSkipped
  | taskRuns (action : Action)
  | flushing (count : Nat)
  | polling
  | unexpectedOperation (code : Nat)
  | heldOver (outcome : Outcome)
  | notStarted (e : Error)
  | wakeRunning
  | strayWrite
  | writeDeferred
  | chainedPoll
  | writeFailed (e : Error)
  | readRefused
  | strayRead
  | readFailed (e : Error)
  | accepted (source : UInt8) (buffered overflow : Nat)
  | replyTooShort (claimed present : Nat)
  | discarded (e : Error) (count : Nat)
  | tooManyDiscards
  | leftPending (direction : Direction)
  | failing (direction : Direction) (e : Error)
  | moved (direction : Direction) (count processed requested : Nat)
  | requestComplete (unit : LinkUnit) (outcome : Outcome)
  | writingFrame (count : Nat)
  | stepFailed (e : Error)
  | serialFailed (direction : Direction) (reason : String)

namespace Note

def level : Note → Level
  | unexpectedOperation _ | tooManyDiscards => .error
  | openedUnattached _ | notStarted _ | strayWrite | writeFailed _ | strayRead | readFailed _
  | discarded _ _ | serialFailed _ _ => .warn
  | attached | taskStarted _ | opened _ | closed _ | flushing _ | readRefused | replyTooShort _ _
  | failing _ _ | requestComplete _ _ | stepFailed _ => .debug
  | taskSkipped | taskRuns _ | polling | heldOver _ | wakeRunning | writeDeferred | chainedPoll
  | accepted _ _ _ | leftPending _ | moved _ _ _ _ | writingFrame _ => .trace

def message : Note → String
  | attached => "Channel attached"
  | openedUnattached unit => s!"Can't open {unit.name}, no channel attached"
  | taskStarted interval => s!"Periodic task started, every {interval} ticks"
  | opened unit => s!"Opened {unit.name}"
  | closed unit => s!"Closed {unit.name}"
  | taskSkipped => "Link busy, skipping periodic task"
  | taskRuns action => s!"Periodic task: {action.name}"
  | flushing count => s!"Flushing {count} bytes"
  | polling => "Polling for reply"
  | unexpectedOperation code => s!"Unexpected operation state {code} after issue"
  | heldOver outcome => s!"Handling write completed during issue: {outcome.text}"
  | notStarted e => s!"Unable to start link operation: {e.name}"
  | wakeRunning => "Wake pass already running"
  | strayWrite => "Write completion with no write in flight"
  | writeDeferred => "Write completed during issue, deferred"
  | chainedPoll => "Flush done, chaining poll"
  | writeFailed e => s!"Write failed: {e.name}"
  | readRefused => "Read completed during issue, refused"
  | strayRead => "Read completion with no read in flight"
  | readFailed e => s!"Read failed: {e.name}"
  | accepted source buffered overflow =>
    s!"Reply from unit {source.toNat}: {buffered} bytes, {overflow} more to fetch"
  | replyTooShort claimed present => s!"Reply claims {claimed} bytes, frame only has {present}"
  | discarded e count => s!"Discarded reply: {e.name} ({count} in a row)"
  | tooManyDiscards => "Too many bad replies, failing link"
  | leftPending direction => s!"Link busy, {direction.name} request left pending"
  | failing direction e => s!"Failing {direction.name} request: {e.name}"
  | moved direction count processed requested =>
    s!"{direction.name} moved {count} bytes, {processed}/{requested} done"
  | requestComplete unit outcome => s!"{unit.name} request complete: {outcome.text}"
  | writingFrame count => s!"Writing {count} byte frame"
  | stepFailed e => s!"Link step failed: {e.name}"
  | serialFailed direction reason =>
    s!"Serial {direction.verb} failed: {Quoted.encode reason}"

/-- The line of the log. -/
def line (n : Note) : String := s!"{n.level.name} {n.message}"

end Note

/-- What is noted about bytes that are no reply. -/
def Rejection.notes : Rejection → List Note
  | header _ => []
  | payload claimed present => [.replyTooShort claimed present]

end PolledLink
