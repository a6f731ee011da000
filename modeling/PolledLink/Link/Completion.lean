import PolledLink.Link.Task

/-! Completions of operations. Each takes the link lock over from the operation, and asks for the
periodic task on the next tick. A completion that matches no operation changes nothing. -/

namespace PolledLink.Link

/-- The outcome of a write. While the write is still being issued the outcome is held over. -/
def writeComplete (l : Link) (outcome : Outcome) : Advance :=
  match l.operation with
  | .writing => { l with operation := .idle }.finishWrite outcome
  | .issuingWrite => .done { l with operation := .writeDone outcome } [.writeDeferred]
  | _ => .done l [.strayWrite]

/-- The most that the count of discards in a row comes to. -/
def maxDiscards : Nat := 255

/-- A reply that cannot be used. The link fails when there have been too many of them in a row. -/
def discard (l : Link) (e : Error) : Link × List Note :=
  let count := min (l.discards + 1) maxDiscards
  let l := { l with discards := count }
  let limit := l.config.wrongTagLimit.toNat
  if 0 < limit ∧ limit ≤ count then
    ({ l with result := .error .io }, [.discarded e count, .tooManyDiscards])
  else ({ l with result := .error e }, [.discarded e count])

/-- What a read brought in, or the error it ended with. -/
abbrev Received := Except Error Bytes

/-- Takes in what was received, with the link lock held. -/
def receive (l : Link) (received : Received) : Outcome × Link × List Note :=
  let reply : Except (Error × List Note) Reply :=
    match received with
    | .error e => .error (e, [])
    | .ok bs => (Reply.read bs).mapError fun r => (r.error, r.notes)
  match reply with
  | .ok r =>
    (.ok,
      { l with buffers := l.buffers.load r, wakeScheduled := true, discards := 0, result := .ok },
      [.accepted r.source r.buffered r.overflow])
  | .error (e, notes) =>
    if e.isTransient then
      let (l, more) := l.discard e
      (.error e, l, notes ++ more)
    else (.error e, { l with result := .error e }, notes ++ [.readFailed e])

/-- The outcome of a read. It is refused while the read is still being issued, and has to be
delivered again. -/
def readComplete (l : Link) (received : Received) : Outcome × Link × List Note :=
  match l.operation with
  | .reading =>
    let (outcome, l, notes) := { l with operation := .idle }.receive received
    (outcome, l.unlock.nudge, notes)
  | .issuingRead => (.error .busy, l, [.readRefused])
  | _ => (.ok, l, [.strayRead])

end PolledLink.Link
