import PolledLink.Frame.Reply

/-! The bytes that a link holds: those staged for the next frame, and those received and not yet
delivered. Bytes to send are staged in the payload area of the outgoing frame, where a flush only
has to stamp the header. Received bytes are delivered from a cursor. -/

namespace PolledLink

structure Buffers where
  tx : Frame := Block.zero frameLength
  writePos : Nat := 0
  rx : Block payloadCapacity := Block.zero payloadCapacity
  readPos : Nat := 0
  readLeft : Nat := 0
  readAvail : Nat := 0
  bytesRead : UInt32 := 0
  bytesWritten : UInt32 := 0
  deriving DecidableEq

namespace Buffers

def writeSpace (b : Buffers) : Nat := payloadCapacity - b.writePos

/-- The bytes waiting to be flushed. -/
def staged (b : Buffers) : Bytes := b.tx.slice headerLength b.writePos

/-- The bytes received and not yet delivered. -/
def undelivered (b : Buffers) : Bytes := b.rx.slice b.readPos b.readLeft

/-- Stages as many of the bytes as there is room for, and tells how many. -/
def stage (b : Buffers) (bs : Bytes) : Nat × Buffers :=
  let accepted := min bs.length b.writeSpace
  (accepted,
    { b with
      tx := b.tx.overlay (headerLength + b.writePos) (bs.take accepted)
      writePos := b.writePos + accepted
      bytesWritten := b.bytesWritten + UInt32.ofNat accepted })

/-- Delivers at most `room` of the received bytes. -/
def drain (b : Buffers) (room : Nat) : Bytes × Buffers :=
  let delivered := min room b.readLeft
  (b.rx.slice b.readPos delivered,
    { b with
      readPos := b.readPos + delivered
      readLeft := b.readLeft - delivered
      bytesRead := b.bytesRead + UInt32.ofNat delivered })

/-- Delivers into the start of `out`, and tells how many bytes. -/
def drainInto (b : Buffers) (out : Bytes) : Nat × Bytes × Buffers :=
  let (delivered, b) := b.drain out.length
  (delivered.length, out.overlay 0 delivered, b)

/-- The staged bytes have been sent. They stay in the frame until others take their place. -/
def reset (b : Buffers) : Buffers := { b with writePos := 0 }

/-- Puts a reply in the place of whatever was received before. -/
def load (b : Buffers) (r : Reply) : Buffers :=
  let loaded := min r.buffered r.payload.length
  { b with
    rx := b.rx.overlay 0 (r.payload.take loaded)
    readPos := 0
    readLeft := loaded
    readAvail := r.total.toNat - loaded }

/-- Makes the frame that sends the staged bytes. -/
def stamp (b : Buffers) (source : UInt8) : Except Error Buffers :=
  (b.tx.request source b.writePos).map fun tx => { b with tx }

/-- The bytes with the header that sends those staged. -/
def stamped (b : Buffers) (source : UInt8) : Buffers :=
  { b with tx := b.tx.stamp ⟨.request, source, UInt16.ofNat b.writePos⟩ }

/-- The counts and cursors stay inside the areas. -/
structure InBounds (b : Buffers) : Prop where
  writePos_le : b.writePos ≤ payloadCapacity
  read_le : b.readPos + b.readLeft ≤ payloadCapacity

theorem inBounds_empty : InBounds {} := ⟨by decide, by decide⟩

theorem InBounds.stage {b : Buffers} (h : b.InBounds) (bs : Bytes) : (b.stage bs).2.InBounds := by
  refine ⟨?_, h.read_le⟩
  have := h.writePos_le
  simp only [Buffers.stage, writeSpace]
  omega

theorem InBounds.drain {b : Buffers} (h : b.InBounds) (room : Nat) :
    (b.drain room).2.InBounds := by
  refine ⟨h.writePos_le, ?_⟩
  have := h.read_le
  simp only [Buffers.drain]
  omega

theorem InBounds.reset {b : Buffers} (h : b.InBounds) : b.reset.InBounds :=
  ⟨Nat.zero_le _, h.read_le⟩

theorem InBounds.stamped {b : Buffers} (h : b.InBounds) (source : UInt8) :
    (b.stamped source).InBounds := ⟨h.writePos_le, h.read_le⟩

/-- What is staged always fits a frame. -/
theorem InBounds.stamp_eq {b : Buffers} (h : b.InBounds) (source : UInt8) :
    b.stamp source = .ok (b.stamped source) := by
  have fits : ¬ payloadCapacity < b.writePos := Nat.not_lt.mpr h.writePos_le
  rw [stamp, Frame.request, if_neg fits]
  rfl

theorem InBounds.load {b : Buffers} (h : b.InBounds) (r : Reply) : (b.load r).InBounds := by
  refine ⟨h.writePos_le, ?_⟩
  simp only [Buffers.load, Reply.buffered, carried]
  omega

/-- The header of a frame has room for the count of the staged bytes. -/
theorem InBounds.toNat_writePos {b : Buffers} (h : b.InBounds) :
    (UInt16.ofNat b.writePos).toNat = b.writePos := by
  rw [UInt16.toNat_ofNat', Nat.mod_eq_of_lt]
  exact Nat.lt_of_le_of_lt h.writePos_le (by decide)

theorem length_staged {b : Buffers} (h : b.InBounds) : b.staged.length = b.writePos :=
  Block.length_slice (by have := h.writePos_le; simp only [frameLength]; omega)

theorem length_undelivered {b : Buffers} (h : b.InBounds) : b.undelivered.length = b.readLeft :=
  Block.length_slice h.read_le

theorem staged_stage {b : Buffers} (h : b.InBounds) (bs : Bytes) :
    (b.stage bs).2.staged = b.staged ++ bs.take b.writeSpace := by
  have room := h.writePos_le
  have count : (bs.take (min bs.length b.writeSpace)).length = min bs.length b.writeSpace := by
    simp only [List.length_take]
    omega
  have cut : bs.take (min bs.length b.writeSpace) = bs.take b.writeSpace := by
    rw [Nat.min_comm, ← List.take_eq_take_min]
  have fits : headerLength + b.writePos + (bs.take b.writeSpace).length ≤ frameLength := by
    rw [← cut, count]
    simp only [writeSpace, frameLength]
    omega
  simp only [staged, stage, ← Block.slice_append, cut]
  congr 1
  · exact Block.slice_overlay_before (Nat.le_refl _) (by simp only [frameLength]; omega)
  · rw [← count, cut]
    exact Block.slice_overlay_self fits

theorem staged_stamped (b : Buffers) (source : UInt8) : (b.stamped source).staged = b.staged := by
  have skip (h : Header) : (h.encode ++ b.tx.bytes.drop headerLength).drop headerLength =
      b.tx.bytes.drop headerLength := List.drop_left' h.length_encode
  rw [staged, Block.slice, stamped, Frame.bytes_stamp, skip]
  rfl

theorem stamped_stamped (b : Buffers) (source : UInt8) :
    (b.stamped source).stamped source = b.stamped source := by
  unfold stamped
  rw [Frame.stamp_stamp]

@[simp] theorem staged_reset (b : Buffers) : b.reset.staged = [] := rfl

theorem drain_fst {b : Buffers} (h : b.InBounds) (room : Nat) :
    (b.drain room).1 = b.undelivered.take room := by
  have len := length_undelivered h
  rw [drain, ← Block.take_slice b.rx (Nat.min_le_right room b.readLeft), ← undelivered,
    ← List.take_take, List.take_of_length_le (Nat.le_of_eq len)]

theorem undelivered_drain (b : Buffers) (room : Nat) :
    (b.drain room).1 ++ (b.drain room).2.undelivered = b.undelivered := by
  simp only [drain, undelivered, Block.slice_append]
  congr 1
  omega

theorem drop_undelivered {b : Buffers} (h : b.InBounds) (room : Nat) :
    (b.drain room).2.undelivered = b.undelivered.drop room := by
  have split := undelivered_drain b room
  rw [drain_fst h] at split
  exact List.append_cancel_left (split.trans (List.take_append_drop _ _).symm)

theorem undelivered_load (b : Buffers) (r : Reply) :
    (b.load r).undelivered = r.payload.take r.buffered := by
  have cut : r.payload.take (min r.buffered r.payload.length) = r.payload.take r.buffered :=
    List.take_eq_take_min.symm
  have len : (r.payload.take r.buffered).length = min r.buffered r.payload.length :=
    List.length_take
  simp only [undelivered, load, cut]
  rw [← len]
  refine Block.slice_overlay_self ?_
  rw [len, Reply.buffered, carried]
  omega

end Buffers

end PolledLink
