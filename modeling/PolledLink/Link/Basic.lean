import PolledLink.Action
import PolledLink.Buffers
import PolledLink.Lock
import PolledLink.Request
import PolledLink.Schedule

/-! A link to the peripheral: its locks, its schedule, the operation outstanding on its channel, and
what the link lock guards. Copies of the guarded counts are published whenever the lock is given up,
so that they can be read without it. -/

namespace PolledLink

structure Config where
  pollInterval : Nat := 30
  source : UInt8 := 0
  reportUnfetched : Bool := true
  /-- How many bad replies in a row fail the link. With zero, none do. -/
  wrongTagLimit : UInt8 := 0
  deriving DecidableEq

/-- Who holds the link lock on behalf of a channel. While an operation is being issued its
completion may come early. The outcome of a write is then held over until the issue is done. -/
inductive Operation
  | idle
  | issuingWrite
  | issuingRead
  | writing
  | reading
  | writeDone (outcome : Outcome)
  deriving DecidableEq

def Operation.code : Operation → Nat
  | idle => 0
  | issuingWrite => 1
  | issuingRead => 2
  | writing => 3
  | reading => 4
  | writeDone _ => 5

structure Snapshot where
  writePending : Nat := 0
  available : Nat := 0
  bytesRead : UInt32 := 0
  bytesWritten : UInt32 := 0
  deriving DecidableEq

/-- The number that tells one attached channel from another. -/
abbrev ChannelId := Nat

structure Link where
  config : Config
  locks : Locks := {}
  schedule : Schedule := {}
  /-- The result of the last operation on the channel. -/
  result : Outcome := .ok
  operation : Operation := .idle
  configured : Bool := false
  isOpen : PerUnit Bool := ⟨false, false⟩
  discards : Nat := 0
  published : Snapshot := {}
  channel : Option ChannelId := none
  buffers : Buffers := {}
  wakeScheduled : Bool := false
  deriving DecidableEq

structure Status where
  result : Outcome
  snapshot : Snapshot
  pollInterval : Nat
  isOpen : PerUnit Bool
  inFlight : Bool
  busy : Bool
  deriving DecidableEq

namespace Link

def ofConfig (config : Config) : Link := { config }

def busy (l : Link) : Bool := l.locks.held .link

def inFlight (l : Link) : Bool := l.operation != .idle

def status (l : Link) : Status where
  result := l.result
  snapshot := l.published
  pollInterval := l.schedule.interval
  isOpen := l.isOpen
  inFlight := l.inFlight
  busy := l.busy

/-- The error that keeps the link from starting operations until it is opened again. -/
def failure? (l : Link) : Option Error := l.result.failure?

def nextAction (l : Link) : Action :=
  Action.next l.failure?.isSome l.buffers.writePos l.buffers.readLeft l.wakeScheduled

def snapshot (l : Link) : Snapshot where
  writePending := l.buffers.writePos
  available := l.buffers.readLeft + if l.config.reportUnfetched then l.buffers.readAvail else 0
  bytesRead := l.buffers.bytesRead
  bytesWritten := l.buffers.bytesWritten

def publish (l : Link) : Link := { l with published := l.snapshot }

/-- Gives up the link lock. -/
def unlock (l : Link) : Link := { l.publish with locks := l.locks.release .link }

def nudge (l : Link) : Link := { l with schedule := l.schedule.nudge }

end Link

end PolledLink
