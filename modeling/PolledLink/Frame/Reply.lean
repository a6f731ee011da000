import PolledLink.Frame.Basic

/-! Replies of the peripheral. A reply carries as many of the available bytes as its payload area
holds, and reports how many there were in all. The rest is fetched by later polls. -/

namespace PolledLink

structure Reply where
  source : UInt8
  total : UInt16
  payload : Bytes
  deriving DecidableEq

/-- Why received bytes are no reply. -/
inductive Rejection
  | header (e : Error)
  | payload (claimed present : Nat)
  deriving DecidableEq

def Rejection.error : Rejection → Error
  | header e => e
  | payload _ _ => .shortFrame

/-- How many of the available bytes travel in one frame. -/
def carried (total : UInt16) : Nat := min total.toNat payloadCapacity

namespace Reply

def buffered (r : Reply) : Nat := carried r.total

def overflow (r : Reply) : Nat := r.total.toNat - r.buffered

/-- Takes the bytes of one frame apart. Bytes behind the payload are no part of the reply, since
the payload area is received whole. -/
def read (bs : Bytes) : Except Rejection Reply :=
  match Header.parse bs with
  | .error e => .error (.header e)
  | .ok h =>
    if h.tag ≠ .reply then .error (.header .wrongTag)
    else
      let claimed := carried h.length
      let area := bs.drop headerLength
      if area.length < claimed then .error (.payload claimed area.length)
      else .ok ⟨h.source, h.length, area.take claimed⟩

def decode (bs : Bytes) : Except Error Reply := (read bs).mapError Rejection.error

/-- Lays the reply into a frame. Gives the number of meaningful bytes with it. -/
def encode (f : Frame) (r : Reply) : Except Error (Nat × Frame) :=
  if r.buffered < r.payload.length then .error .payloadTooLarge
  else if r.payload.length < r.buffered then .error .shortFrame
  else
    .ok (headerLength + r.payload.length,
      (f.stamp ⟨.reply, r.source, r.total⟩).overlay headerLength r.payload)

theorem payload_fits (f : Frame) {r : Reply} (whole : r.payload.length = r.buffered) :
    headerLength + r.payload.length ≤ f.bytes.length := by
  rw [f.length_bytes, whole]
  exact Nat.add_le_add_left (Nat.min_le_right _ _) headerLength

theorem buffered_add_overflow (r : Reply) : r.buffered + r.overflow = r.total.toNat := by
  simp only [overflow, buffered, carried]
  omega

end Reply

end PolledLink
