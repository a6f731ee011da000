import PolledLink.Proofs.Checks

/-! Writing into an area in place. Headers, requests and replies are laid into an area part by part,
in which what has been written stays written when an error follows. Since every error comes before
the first of the parts, it leaves the area as it was, and what is laid without an error is the same
as when the area is made anew. -/

namespace PolledLink

/-- Work on an area. An access out of range brings it to nothing. -/
abbrev InPlace (α : Type) := ExceptT Error (StateT Bytes Option) α

namespace InPlace

variable {α β : Type} {area after : Bytes}

/-- The result of the work, and what is in the area by then. -/
def on (work : InPlace α) (area : Bytes) : Option (Except Error α × Bytes) := work.run.run area

/-- Makes a change that is checked to be in range. -/
def change (f : Bytes → Option Bytes) : InPlace Unit := fun area => (f area).map (.ok (), ·)

theorem on_change {f : Bytes → Option Bytes} (h : f area = some after) :
    (change f).on area = some (.ok (), after) := congrArg (Option.map (Except.ok (), ·)) h

/-- Work goes on in the area that earlier work has left. -/
theorem on_bind {first : InPlace α} {a : α} (h : first.on area = some (.ok a, after))
    (next : α → InPlace β) : (first >>= next).on area = (next a).on after := by
  show (first.on area >>= fun (result, area) => _) = _
  rw [h]
  rfl

end InPlace

/-- Writes the header part by part. -/
def Header.writeInPlace (h : Header) : InPlace Unit := do
  if (← get).length < headerLength then throw .bufferTooSmall
  .change (·.paste? 0 4 h.tag.bytes)
  .change (·.put? 4 h.source)
  .change (·.put? 5 0)
  .change (·.paste? 6 8 (Bytes.bigEndian 2 h.length.toNat))

/-- Marks the payload area of a frame as a request. -/
def Frame.requestInPlace (source : UInt8) (count : Nat) : InPlace Unit := do
  if payloadCapacity < count then throw .payloadTooLarge
  Header.writeInPlace ⟨.request, source, UInt16.ofNat count⟩

/-- Lays the reply into a frame. Gives the number of meaningful bytes. -/
def Reply.encodeInPlace (r : Reply) : InPlace Nat := do
  if r.buffered < r.payload.length then throw .payloadTooLarge
  if r.payload.length < r.buffered then throw .shortFrame
  Header.writeInPlace ⟨.reply, r.source, r.total⟩
  .change (·.paste? headerLength (headerLength + r.payload.length) r.payload)
  pure (headerLength + r.payload.length)

namespace Header

variable {area : Bytes}

theorem write_short (h : Header) (short : area.length < headerLength) :
    h.write area = .error .bufferTooSmall ∧
      h.writeInPlace.on area = some (.error .bufferTooSmall, area) := by
  constructor
  · exact if_pos short
  · unfold writeInPlace
    show InPlace.on (if area.length < headerLength then _ else _) area = _
    rw [if_pos short]
    rfl

theorem write_long (h : Header) (long : headerLength ≤ area.length) :
    h.write area = .ok (h.encode ++ area.drop headerLength) ∧
      h.writeInPlace.on area = some (.ok (), h.encode ++ area.drop headerLength) := by
  have room : ¬ area.length < headerLength := Nat.not_lt.mpr long
  have written : h.write area = .ok (h.encode ++ area.drop headerLength) := by
    rw [write, if_neg room, Bytes.overlay_zero (by rwa [h.length_encode]), h.length_encode]
  refine ⟨written, ?_⟩
  -- the four parts, one after the other
  have parts := h.write?_eq area
  rw [written, write?, if_neg room] at parts
  simp only [Option.bind_eq_bind, Option.bind_eq_some_iff] at parts
  obtain ⟨a, tag, b, source, c, reserved, d, length, last⟩ := parts
  obtain rfl := Except.ok.inj (Option.some.inj last)
  unfold writeInPlace
  show InPlace.on (if area.length < headerLength then _ else _) area = _
  rw [if_neg room]
  calc _ = _ := InPlace.on_bind (InPlace.on_change tag) _
    _ = _ := InPlace.on_bind (InPlace.on_change source) _
    _ = _ := InPlace.on_bind (InPlace.on_change reserved) _
    _ = _ := InPlace.on_change length

end Header

theorem Frame.request_large (f : Frame) (source : UInt8) {count : Nat}
    (large : payloadCapacity < count) :
    f.request source count = .error .payloadTooLarge ∧
      (requestInPlace source count).on f.bytes = some (.error .payloadTooLarge, f.bytes) := by
  constructor
  · exact if_pos large
  · rw [requestInPlace, if_pos large]
    rfl

theorem Frame.request_fits (f : Frame) (source : UInt8) {count : Nat}
    (fits : count ≤ payloadCapacity) :
    let made := f.stamp ⟨.request, source, UInt16.ofNat count⟩
    f.request source count = .ok made ∧
      (requestInPlace source count).on f.bytes = some (.ok (), made.bytes) := by
  intro made
  have room : ¬ payloadCapacity < count := Nat.not_lt.mpr fits
  constructor
  · exact if_neg room
  · rw [requestInPlace, if_neg room, Frame.bytes_stamp]
    exact (Header.write_long _ f.header_fits).2

namespace Reply

theorem encode_large (f : Frame) {r : Reply} (large : r.buffered < r.payload.length) :
    r.encode f = .error .payloadTooLarge ∧
      r.encodeInPlace.on f.bytes = some (.error .payloadTooLarge, f.bytes) := by
  constructor
  · exact if_pos large
  · rw [encodeInPlace, if_pos large]
    rfl

theorem encode_small (f : Frame) {r : Reply} (small : r.payload.length < r.buffered) :
    r.encode f = .error .shortFrame ∧
      r.encodeInPlace.on f.bytes = some (.error .shortFrame, f.bytes) := by
  have other : ¬ r.buffered < r.payload.length := Nat.lt_asymm small
  constructor
  · rw [encode, if_neg other, if_pos small]
  · rw [encodeInPlace, if_neg other, if_pos small]
    rfl

theorem encode_whole (f : Frame) {r : Reply} (whole : r.payload.length = r.buffered) :
    let made := (f.stamp ⟨.reply, r.source, r.total⟩).overlay headerLength r.payload
    r.encode f = .ok (headerLength + r.payload.length, made) ∧
      r.encodeInPlace.on f.bytes =
        some (.ok (headerLength + r.payload.length), made.bytes) := by
  intro made
  have same : ¬ r.payload.length < r.payload.length := Nat.lt_irrefl _
  have room := payload_fits (f.stamp ⟨.reply, r.source, r.total⟩) whole
  constructor
  · rw [encode, ← whole, if_neg same, if_neg same]
  · rw [encodeInPlace, ← whole, if_neg same, if_neg same]
    have header := (Header.write_long ⟨.reply, r.source, r.total⟩ f.header_fits).2
    rw [← Frame.bytes_stamp] at header
    calc _ = _ := InPlace.on_bind header _
      _ = _ := InPlace.on_bind (InPlace.on_change (Bytes.paste?_of_length rfl room)) _

end Reply

end PolledLink
