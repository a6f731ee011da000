import PolledLink.Frame.Header

/-! A frame is a header followed by a payload area of fixed size. Outgoing frames are always sent
whole, so bytes of earlier transfers stay in the area behind those that the header counts. -/

namespace PolledLink

def payloadCapacity : Nat := 500

def frameLength : Nat := headerLength + payloadCapacity

abbrev Frame := Block frameLength

namespace Frame

def stamp (f : Frame) (h : Header) : Frame := f.overlay 0 h.encode

/-- Marks the first `count` payload bytes as a request from `source`. -/
def request (f : Frame) (source : UInt8) (count : Nat) : Except Error Frame :=
  if payloadCapacity < count then .error .payloadTooLarge
  else .ok (f.stamp ⟨.request, source, UInt16.ofNat count⟩)

theorem header_fits (f : Frame) : headerLength ≤ f.bytes.length := by
  rw [f.length_bytes]
  exact Nat.le_add_right _ _

theorem bytes_stamp (f : Frame) (h : Header) :
    (f.stamp h).bytes = h.encode ++ f.bytes.drop headerLength := by
  have room : h.encode.length ≤ f.bytes.length := by
    rw [h.length_encode]
    exact f.header_fits
  rw [stamp, Block.bytes_overlay, Bytes.overlay_zero room, h.length_encode]

/-- A header takes the place of the one before it. -/
theorem stamp_stamp (f : Frame) (h h' : Header) : (f.stamp h).stamp h' = f.stamp h' := by
  apply Block.ext
  rw [bytes_stamp, bytes_stamp, bytes_stamp, List.drop_left' h.length_encode]

theorem parse_stamp (f : Frame) (h : Header) : Header.parse (f.stamp h).bytes = .ok h := by
  rw [bytes_stamp, Header.parse_encode_append]

end Frame

end PolledLink
