import PolledLink.Bench.Host
import PolledLink.Runner

/-! The transport of a runner on a bench. Each transfer goes as the script says, and once the script
has come to its end the peer carries it out. -/

namespace PolledLink.Bench

/-- The error that a failed transfer counts as. -/
def fault (direction : Direction) (reason : String) : Transport → BenchM Error
  | .serial => do
    modify fun w => w.note (.serialFailed direction reason)
    pure .io
  | .framed => pure ((Error.ofName? reason).getD .io)

def transmit (inner : Inner) (transport : Transport) (bs : Bytes) : BenchM Outcome := do
  record (.ioWrite bs)
  reach inner .ioWrite
  let (transfer, w) := (← get).nextTransfer .write
  set w
  match transfer with
  | .fail reason =>
    record (.ioResult (.failed reason))
    pure (.error (← fault .write reason transport))
  | _ =>
    modify fun w => { w with peer := w.peer.take bs }
    record (.ioResult .wrote)
    pure .ok

def receive (inner : Inner) (transport : Transport) (buffer : Frame) :
    BenchM (Except Error Nat × Frame) := do
  record (.ioRead frameLength)
  reach inner .ioRead
  let (transfer, w) := (← get).nextTransfer .read
  set w
  match transfer with
  | .fail reason =>
    record (.ioResult (.failed reason))
    pure (.error (← fault .read reason transport), buffer)
  | .bytes bs count =>
    record (.ioResult (.read count))
    pure (.ok count, buffer.overlay 0 bs)
  | .plain =>
    let (count, filled, peer) := (← get).peer.replyInto buffer
    modify fun w => { w with peer }
    record (.ioResult (.read count))
    pure (.ok count, filled)

/-- Empties the mailbox into the frame buffer. -/
def takeOut (buffer : Frame) : BenchM (Option ChannelOperation × Frame) := do
  match (← get).mailbox with
  | none => pure (none, buffer)
  | some box =>
    let (operation, filled, box) := box.take buffer
    modify fun w => { w with mailbox := some box }
    pure (operation, filled)

def runner (inner : Inner) (transport : Transport) : Runner BenchM where
  onTimer := (host inner).run .onTimer
  take := takeOut
  write := transmit inner transport
  read := receive inner transport
  writeComplete outcome := (host inner).run (.writeComplete outcome)
  readComplete received := (host inner).outcome (.readComplete received)
  note n := modify fun w => w.note n

def delay (inner : Inner) : BenchM Unit := do
  record .delay
  reach inner .delay

/-- Lets the runner work with its frame buffer. While it works nobody else can set it to work. -/
def withRunner {α : Type} (inner : Inner) (act : Runner BenchM → Frame → BenchM (α × Frame)) :
    BenchM (Option α) := do
  match (← get).runner with
  | none => pure none
  | some (transport, buffer) =>
    modify fun w => { w with runner := none }
    let (a, buffer) ← act (runner inner transport) buffer
    modify fun w => { w with runner := some (transport, buffer) }
    pure (some a)

end PolledLink.Bench
