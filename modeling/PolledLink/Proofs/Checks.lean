import PolledLink.Link.Service

/-! Accesses that are checked. A slice, an index or a difference is had only if it is in range, and what
is made up of them comes to nothing as soon as one of them is not. Frames can always be taken apart
and put together in this way. So can the buffers be used, as long as their cursors stay inside the
areas, and all of it comes to the same as without the checks. -/

namespace PolledLink

/-- The difference of two counts, the first of which has to be the larger. -/
def minus? (a b : Nat) : Option Nat := if b ≤ a then some (a - b) else none

theorem minus?_of_le {a b : Nat} (h : b ≤ a) : minus? a b = some (a - b) := if_pos h

namespace Bytes

/-- The bytes from `start` up to `stop`. -/
def slice? (bs : Bytes) (start stop : Nat) : Option Bytes :=
  if start ≤ stop ∧ stop ≤ bs.length then some ((bs.drop start).take (stop - start)) else none

/-- Copies over the bytes from `start` up to `stop`, which have to be as many. -/
def paste? (area : Bytes) (start stop : Nat) (bs : Bytes) : Option Bytes :=
  if start ≤ stop ∧ stop ≤ area.length ∧ bs.length = stop - start then
    some (area.overlay start bs)
  else none

def put? (area : Bytes) (i : Nat) (b : UInt8) : Option Bytes :=
  if i < area.length then some (area.set i b) else none

variable {area bs : Bytes} {start stop count : Nat}

theorem slice?_of_le (h : start ≤ stop) (fits : stop ≤ bs.length) :
    bs.slice? start stop = some ((bs.drop start).take (stop - start)) := if_pos ⟨h, fits⟩

theorem slice?_zero (fits : count ≤ bs.length) : bs.slice? 0 count = some (bs.take count) :=
  slice?_of_le (Nat.zero_le _) fits

theorem slice?_add (fits : start + count ≤ bs.length) :
    bs.slice? start (start + count) = some ((bs.drop start).take count) := by
  rw [slice?_of_le (Nat.le_add_right _ _) fits, Nat.add_sub_cancel_left]

theorem paste?_of_length (h : start + bs.length = stop) (fits : stop ≤ area.length) :
    area.paste? start stop bs = some (area.overlay start bs) :=
  if_pos ⟨by omega, fits, by omega⟩

/-- Writing over the rest of an area, and putting it back. -/
theorem overlay_overlay_drop (fits : start ≤ area.length) :
    area.overlay start (overlay (area.drop start) 0 bs) = area.overlay start bs := by
  have len : start + (overlay (area.drop start) 0 bs).length = area.length := by
    rw [length_overlay, List.length_drop]
    omega
  rw [overlay_of_fits (Nat.le_of_eq len), len, List.drop_length, List.append_nil]
  simp only [overlay, List.take_zero, List.nil_append, Nat.sub_zero, List.length_drop, Nat.zero_add,
    List.drop_drop, List.append_assoc]

/-- What does not fit an area makes no difference to it. -/
theorem overlay_take (area bs : Bytes) (start : Nat) :
    area.overlay start (bs.take (area.length - start)) = area.overlay start bs := by
  rcases Nat.le_total bs.length (area.length - start) with fits | beyond
  · rw [List.take_of_length_le fits]
  · have len : (bs.take (area.length - start)).length = area.length - start :=
      List.length_take_of_le beyond
    unfold overlay
    rw [List.take_take, Nat.min_self, List.drop_of_length_le (by omega),
      List.drop_of_length_le (by omega)]

end Bytes

namespace Block

variable {size : Nat}

/-- An area of the size that is due. -/
def ofBytes? (size : Nat) (bs : Bytes) : Option (Block size) :=
  if h : bs.length = size then some ⟨bs, h⟩ else none

def paste? (b : Block size) (start stop : Nat) (bs : Bytes) : Option (Block size) := do
  ofBytes? size (← b.bytes.paste? start stop bs)

theorem ofBytes?_bytes (b : Block size) : ofBytes? size b.bytes = some b := dif_pos b.length_bytes

theorem paste?_of_length {b : Block size} {start stop : Nat} {bs : Bytes}
    (h : start + bs.length = stop) (fits : stop ≤ size) :
    b.paste? start stop bs = some (b.overlay start bs) := by
  unfold paste?
  rw [Bytes.paste?_of_length h (by rwa [b.length_bytes])]
  exact ofBytes?_bytes (b.overlay start bs)

end Block

namespace Header

def write? (h : Header) (area : Bytes) : Option (Except Error Bytes) :=
  if area.length < headerLength then some (.error .bufferTooSmall)
  else do
    let area ← area.paste? 0 4 h.tag.bytes
    let area ← area.put? 4 h.source
    let area ← area.put? 5 0
    let area ← area.paste? 6 8 (Bytes.bigEndian 2 h.length.toNat)
    some (.ok area)

def parse? (bs : Bytes) : Option (Except Error Header) :=
  if bs.length < headerLength then some (.error .shortFrame)
  else do
    let tag := Bytes.toNat [← bs[0]?, ← bs[1]?, ← bs[2]?, ← bs[3]?]
    let length := Bytes.toNat [← bs[6]?, ← bs[7]?]
    match Tag.ofWord? tag with
    | some tag => some (.ok ⟨tag, ← bs[4]?, UInt16.ofNat length⟩)
    | none => some (.error .wrongTag)

theorem write?_eq (h : Header) (area : Bytes) : h.write? area = some (h.write area) := by
  unfold write? write
  split
  · rfl
  · rename_i long
    obtain ⟨t₀, t₁, t₂, t₃, source, reserved, l₀, l₁, rest, rfl⟩ :=
      exists_of_length_ge (Nat.le_of_not_lt long)
    rcases h with ⟨tag, unit, length⟩
    obtain ⟨c₀, c₁, count⟩ : ∃ c₀ c₁, Bytes.bigEndian 2 length.toNat = [c₀, c₁] := ⟨_, _, rfl⟩
    cases tag <;>
      simp [Bytes.paste?, Bytes.put?, Bytes.overlay, encode, Tag.bytes, count]

theorem parse?_eq (bs : Bytes) : parse? bs = some (parse bs) := by
  unfold parse?
  split
  · rename_i short
    unfold parse
    split
    · exact absurd short (by simp [headerLength])
    · rfl
  · rename_i long
    obtain ⟨t₀, t₁, t₂, t₃, source, reserved, l₀, l₁, rest, rfl⟩ :=
      exists_of_length_ge (Nat.le_of_not_lt long)
    simp only [parse]
    show (match Tag.ofWord? (Bytes.toNat [t₀, t₁, t₂, t₃]) with
      | some tag => _
      | none => _) = _
    cases Tag.ofWord? (Bytes.toNat [t₀, t₁, t₂, t₃]) <;> rfl

end Header

/-- The frame that sends what is in its payload area. -/
def Frame.request? (f : Frame) (source : UInt8) (count : Nat) : Option (Except Error Frame) :=
  if payloadCapacity < count then some (.error .payloadTooLarge)
  else do
    match ← Header.write? ⟨.request, source, UInt16.ofNat count⟩ f.bytes with
    | .ok bs => (Block.ofBytes? frameLength bs).map .ok
    | .error e => some (.error e)

theorem Frame.request?_eq (f : Frame) (source : UInt8) (count : Nat) :
    f.request? source count = some (f.request source count) := by
  unfold request? request
  split
  · rfl
  · rw [Header.write?_eq, Header.write, if_neg (Nat.not_lt.mpr f.header_fits)]
    exact congrArg (Option.map Except.ok) (Block.ofBytes?_bytes (f.stamp _))

namespace Reply

def overflow? (r : Reply) : Option Nat := minus? r.total.toNat r.buffered

theorem overflow?_eq (r : Reply) : r.overflow? = some r.overflow :=
  minus?_of_le (Nat.min_le_left _ _)

def read? (bs : Bytes) : Option (Except Rejection Reply) := do
  match ← Header.parse? bs with
  | .error e => some (.error (.header e))
  | .ok h =>
    if h.tag ≠ .reply then some (.error (.header .wrongTag))
    else
      let claimed := carried h.length
      let stop := headerLength + claimed
      if bs.length < stop then
        let present ← minus? bs.length headerLength
        some (.error (.payload claimed present))
      else
        let payload ← bs.slice? headerLength stop
        some (.ok ⟨h.source, h.length, payload⟩)

theorem read?_eq (bs : Bytes) : read? bs = some (read bs) := by
  unfold read? read
  rw [Header.parse?_eq]
  cases parsed : Header.parse bs with
  | error e => rfl
  | ok h =>
    have long : headerLength ≤ bs.length := by
      apply Nat.le_of_not_lt
      intro short
      have told := Header.parse?_eq bs
      rw [Header.parse?, if_pos short, parsed] at told
      nomatch told
    have area : (bs.drop headerLength).length = bs.length - headerLength := List.length_drop
    simp only [Option.bind_eq_bind, Option.bind_some, area]
    by_cases foreign : h.tag ≠ .reply
    · rw [if_pos foreign, if_pos foreign]
    · rw [if_neg foreign, if_neg foreign]
      by_cases short : bs.length < headerLength + carried h.length
      · rw [if_pos short, if_pos (by omega), minus?_of_le long]
        rfl
      · rw [if_neg short, if_neg (by omega), Bytes.slice?_add (Nat.le_of_not_lt short)]
        rfl

end Reply

namespace Buffers

def stage? (b : Buffers) (bs : Bytes) : Option (Nat × Buffers) := do
  let space ← minus? payloadCapacity b.writePos
  let accepted := min bs.length space
  if 0 < accepted then
    let start := headerLength + b.writePos
    let tx ← b.tx.paste? start (start + accepted) (← bs.slice? 0 accepted)
    some (accepted,
      { b with
        tx
        writePos := b.writePos + accepted
        bytesWritten := b.bytesWritten + UInt32.ofNat accepted })
  else some (accepted, b)

def drainInto? (b : Buffers) (out : Bytes) : Option (Nat × Bytes × Buffers) := do
  let delivered := min out.length b.readLeft
  if 0 < delivered then
    let bs ← b.rx.bytes.slice? b.readPos (b.readPos + delivered)
    let out ← out.paste? 0 delivered bs
    let readLeft ← minus? b.readLeft delivered
    some (delivered, out,
      { b with
        readPos := b.readPos + delivered
        readLeft
        bytesRead := b.bytesRead + UInt32.ofNat delivered })
  else some (delivered, out, b)

def load? (b : Buffers) (r : Reply) : Option Buffers := do
  let loaded := min r.buffered r.payload.length
  let rx ← b.rx.paste? 0 loaded (← r.payload.slice? 0 loaded)
  let readAvail ← minus? r.total.toNat loaded
  some { b with rx, readPos := 0, readLeft := loaded, readAvail }

def stamp? (b : Buffers) (source : UInt8) : Option (Except Error Buffers) := do
  let made ← b.tx.request? source b.writePos
  some (made.map fun tx => { b with tx })

/-- Takes the part of the request that is left out of its buffer, and puts what was delivered in its
place. -/
def exchange? (b : Buffers) (r : Request) : Option (Buffers × Request × Nat) := do
  let rest ← r.buffer.slice? r.processed r.requested
  match r.direction with
  | .write =>
    let (accepted, b) ← b.stage? rest
    some (b, { r with processed := r.processed + accepted }, accepted)
  | .read =>
    let (delivered, rest, b) ← b.drainInto? rest
    let buffer ← r.buffer.paste? r.processed r.requested rest
    some (b, { r with buffer, processed := r.processed + delivered }, delivered)

variable {b : Buffers}

theorem InBounds.stage?_eq (h : b.InBounds) (bs : Bytes) : b.stage? bs = some (b.stage bs) := by
  have space : minus? payloadCapacity b.writePos = some b.writeSpace := minus?_of_le h.writePos_le
  have taken : bs.slice? 0 (min bs.length b.writeSpace) =
      some (bs.take (min bs.length b.writeSpace)) := Bytes.slice?_zero (Nat.min_le_left _ _)
  have len : (bs.take (min bs.length b.writeSpace)).length = min bs.length b.writeSpace :=
    List.length_take_of_le (Nat.min_le_left _ _)
  have fits : headerLength + b.writePos + min bs.length b.writeSpace ≤ frameLength := by
    have := h.writePos_le
    simp only [writeSpace, frameLength]
    omega
  have pasted := Block.paste?_of_length (b := b.tx) (congrArg (headerLength + b.writePos + ·) len) fits
  unfold Buffers.stage? Buffers.stage
  rw [space]
  simp only [Option.bind_eq_bind, Option.bind_some, taken, pasted]
  split
  · rfl
  · have none : min bs.length b.writeSpace = 0 := by omega
    simp only [none, List.take_zero, Block.overlay_nil]
    rw [show UInt32.ofNat 0 = 0 from rfl, UInt32.add_zero]
    rfl

theorem InBounds.drainInto?_eq (h : b.InBounds) (out : Bytes) :
    b.drainInto? out = some (b.drainInto out) := by
  have reach := h.read_le
  have room : b.readPos + min out.length b.readLeft ≤ b.rx.bytes.length := by
    rw [b.rx.length_bytes]
    omega
  have len : (b.rx.slice b.readPos (min out.length b.readLeft)).length = min out.length b.readLeft :=
    Block.length_slice (by omega)
  have pasted : out.paste? 0 (min out.length b.readLeft)
      (b.rx.slice b.readPos (min out.length b.readLeft)) = _ :=
    Bytes.paste?_of_length ((Nat.zero_add _).trans len) (Nat.min_le_left _ _)
  have left := minus?_of_le (Nat.min_le_right out.length b.readLeft)
  unfold Buffers.drainInto? Buffers.drainInto Buffers.drain
  simp only [Option.bind_eq_bind, Bytes.slice?_add room, Option.bind_some, left, len]
  split
  · rw [show (b.rx.bytes.drop b.readPos).take _ = b.rx.slice b.readPos _ from rfl, pasted]
    rfl
  · have none : min out.length b.readLeft = 0 := by omega
    simp only [none, Block.slice_zero, Bytes.overlay_nil]
    rw [show UInt32.ofNat 0 = 0 from rfl, UInt32.add_zero]
    rfl

/-- A reply of any form can be loaded, into any buffers. -/
theorem load?_eq (b : Buffers) (r : Reply) : b.load? r = some (b.load r) := by
  have taken : r.payload.slice? 0 (min r.buffered r.payload.length) =
      some (r.payload.take (min r.buffered r.payload.length)) :=
    Bytes.slice?_zero (Nat.min_le_right _ _)
  have len : (r.payload.take (min r.buffered r.payload.length)).length =
      min r.buffered r.payload.length := List.length_take_of_le (Nat.min_le_right _ _)
  have small : min r.buffered r.payload.length ≤ payloadCapacity :=
    Nat.le_trans (Nat.min_le_left _ _) (Nat.min_le_right _ _)
  have pasted := Block.paste?_of_length (b := b.rx) ((Nat.zero_add _).trans len) small
  have avail : minus? r.total.toNat (min r.buffered r.payload.length) = _ :=
    minus?_of_le (Nat.le_trans (Nat.min_le_left _ _) (Nat.min_le_left _ _))
  unfold load? load
  simp only [Option.bind_eq_bind, Option.bind_some, taken, pasted, avail]

theorem stamp?_eq (b : Buffers) (source : UInt8) : b.stamp? source = some (b.stamp source) := by
  unfold stamp? stamp
  rw [Frame.request?_eq]
  rfl

theorem InBounds.exchange?_eq (h : b.InBounds) {r : Request} (fits : r.processed ≤ r.requested) :
    b.exchange? r = some (b.exchange r) := by
  have rest : r.buffer.slice? r.processed r.requested = some r.rest := by
    rw [Bytes.slice?_of_le fits (Nat.le_refl _)]
    exact congrArg some (List.take_of_length_le (by simp [Request.requested]))
  unfold Buffers.exchange? Buffers.exchange
  rw [rest]
  cases r.direction with
  | write => simp only [Option.bind_eq_bind, Option.bind_some, h.stage?_eq]
  | read =>
    simp only [Option.bind_eq_bind, Option.bind_some, h.drainInto?_eq, drainInto]
    generalize b.drain r.rest.length = drained
    obtain ⟨delivered, b⟩ := drained
    have len : r.processed + (r.rest.overlay 0 delivered).length = r.requested := by
      rw [Bytes.length_overlay, Request.rest, List.length_drop]
      exact Nat.add_sub_cancel' fits
    rw [Bytes.paste?_of_length len (Nat.le_refl _), Request.rest, Bytes.overlay_overlay_drop fits]
    rfl

end Buffers

end PolledLink
