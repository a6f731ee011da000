import PolledLink.Link.Completion
import PolledLink.Mailbox

/-! Drives a link over a transport that performs one operation at a time. A step is a tick of the
link, followed by whatever operations the tick has left in the mailbox, including those that
completions leave there in turn. One frame buffer serves for writing and for reading. -/

namespace PolledLink

structure Runner (m : Type → Type) where
  /-- Ticks the link. -/
  onTimer : m Unit
  /-- Empties the mailbox, with the frame buffer to receive the bytes of a write. -/
  take : Frame → m (Option ChannelOperation × Frame)
  write : Bytes → m Outcome
  /-- Receives into the frame buffer. Gives the number of bytes received. -/
  read : Frame → m (Except Error Nat × Frame)
  writeComplete : Outcome → m Unit
  readComplete : Link.Received → m Outcome
  note : Note → m Unit

namespace Runner

/-- What a read has brought in, when its count is known. More than the buffer holds is a failure of
the transport. -/
def received (count : Except Error Nat) (buffer : Frame) : Link.Received :=
  match count with
  | .error e => .error e
  | .ok n => if n ≤ frameLength then .ok (buffer.bytes.take n) else .error .io

variable {m : Type → Type} [Monad m]

/-- Performs up to `bound` operations. The first error of them is the outcome. -/
def perform (r : Runner m) : Nat → Frame → Outcome → m (Outcome × Frame)
  | 0, buffer, outcome => pure (outcome, buffer)
  | bound + 1, buffer, outcome => do
    let (operation, buffer) ← r.take buffer
    match operation with
    | none => pure (outcome, buffer)
    | some (.write count) =>
      r.note (.writingFrame count)
      let result ← r.write (buffer.bytes.take count)
      r.writeComplete result
      r.perform bound buffer (outcome.andThen result)
    | some .read =>
      let (count, buffer) ← r.read buffer
      let result ← r.readComplete (received count buffer)
      r.perform bound buffer (outcome.andThen result)

def step (r : Runner m) (bound : Nat) (buffer : Frame) : m (Outcome × Frame) := do
  r.onTimer
  r.perform bound buffer .ok

/-- Steps until `done`, which is told the number of steps so far, with a delay after every step but
the last. Goes on for at most `limit` steps more. -/
def runUntil (r : Runner m) (bound : Nat) (done : Nat → m Bool) (delay : m Unit) :
    Nat → Nat → Frame → m (Nat × Frame)
  | 0, steps, buffer => pure (steps, buffer)
  | limit + 1, steps, buffer => do
    let (outcome, buffer) ← r.step bound buffer
    match outcome with
    | .ok => pure ()
    | .error e => r.note (.stepFailed e)
    if ← done (steps + 1) then pure (steps + 1, buffer)
    else do
      delay
      r.runUntil bound done delay limit (steps + 1) buffer

end Runner

end PolledLink
