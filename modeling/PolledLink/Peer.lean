import PolledLink.Frame.Reply

/-! A peripheral at the far end of a link, as far as its bytes go. -/

namespace PolledLink

structure Peer where
  received : Bytes := []
  outbox : Bytes := []
  /-- Whether bytes received are sent back. -/
  echoes : Bool := false

namespace Peer

/-- The most that a reply can report. -/
def maxTotal : Nat := 65535

def sourceUnit : UInt8 := 1

/-- Takes in a frame. One without a header is ignored. -/
def take (p : Peer) (frame : Bytes) : Peer :=
  match Header.parse frame with
  | .error _ => p
  | .ok h =>
    let payload := (frame.drop headerLength).take h.length.toNat
    { p with
      received := p.received ++ payload
      outbox := if p.echoes then p.outbox ++ payload else p.outbox }

/-- The reply to a poll. The bytes that travel in it leave the outbox. -/
def reply (p : Peer) : Reply × Peer :=
  let total := UInt16.ofNat (min p.outbox.length maxTotal)
  (⟨sourceUnit, total, p.outbox.take (carried total)⟩,
    { p with outbox := p.outbox.drop (carried total) })

/-- Replies into an area. Gives the number of meaningful bytes with it. -/
def replyInto (p : Peer) (area : Frame) : Nat × Frame × Peer :=
  let (r, p) := p.reply
  match r.encode area with
  | .ok (count, area) => (count, area, p)
  | .error _ => (0, area, p)

end Peer

end PolledLink
