import PolledLink.Link.Basic
import PolledLink.Note

/-! Moving bytes between a request of the host and the buffers of the link. -/

namespace PolledLink

/-- What became of a request that was offered to the link. The progress reported is that of the
request, except that a link which is busy reports any request as pending. -/
structure Serviced where
  link : Link
  request : Request
  progress : Progress
  notes : List Note

/-- Moves as many bytes as possible. Gives the buffers and the request after it, and the count. -/
def Buffers.exchange (b : Buffers) (r : Request) : Buffers × Request × Nat :=
  match r.direction with
  | .write =>
    let (accepted, b) := b.stage r.rest
    (b, { r with processed := r.processed + accepted }, accepted)
  | .read =>
    let (delivered, b) := b.drain r.rest.length
    (b,
      { r with
        buffer := r.buffer.overlay r.processed delivered
        processed := r.processed + delivered.length },
      delivered.length)

namespace Link

def service (l : Link) (r : Request) : Serviced :=
  match l.locks.acquire? .link with
  | none => ⟨l, r, .pending, [.leftPending r.direction]⟩
  | some locks =>
    let l := { l with locks }
    match l.failure? with
    | some e =>
      let progress := .ready (.error e)
      ⟨l.unlock, { r with progress }, progress, [.failing r.direction e]⟩
    | none =>
      let (buffers, r, count) := l.buffers.exchange r
      let l := { l with buffers }
      let notes := [.moved r.direction count r.processed r.requested]
      if r.processed = r.requested then
        ⟨l.unlock, { r with progress := .ready .ok }, .ready .ok, notes⟩
      else ⟨l.nudge.unlock, { r with progress := .pending }, .pending, notes⟩

end Link

end PolledLink
