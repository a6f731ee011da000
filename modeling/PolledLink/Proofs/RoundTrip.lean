import PolledLink.Proofs.InPlace
import PolledLink.Proofs.ReplyGrammar

/-! What is written reads back. A header does so whatever it is written over and whatever follows it,
and a reply does from any bytes that hold the meaningful ones. Fewer of them are never taken for
another reply. -/

namespace PolledLink

namespace Bytes

/-- A part of the bytes that reaches beyond `first`. -/
theorem take_append_beyond {first rest : Bytes} {count : Nat} (h : first.length ≤ count) :
    (first ++ rest).take count = first ++ rest.take (count - first.length) := by
  rw [List.take_append, List.take_of_length_le h]

end Bytes

namespace Header

theorem spelt_of_parse {bs : Bytes} {h : Header} (parsed : parse bs = .ok h) :
    ∃ reserved rest, bs = h.spell reserved ++ rest := by
  have parses := parses bs
  rw [parsed] at parses
  cases parses with
  | spelt _ reserved rest => exact ⟨reserved, rest, rfl⟩

theorem reserved_encode (h : Header) (rest : Bytes) : (h.encode ++ rest)[5]? = some 0 := by
  rcases h with ⟨tag, source, length⟩
  cases tag <;> rfl

/-- What is left of bytes that a header was written over. -/
theorem written (h : Header) (tail : Bytes) :
    (h.encode ++ tail).drop headerLength = tail ∧
      (h.encode ++ tail)[5]? = some 0 ∧
      (∀ count, headerLength ≤ count → parse ((h.encode ++ tail).take count) = .ok h) ∧
      ∀ rest, parse ((h.encode ++ tail).take headerLength ++ rest) = .ok h := by
  refine ⟨List.drop_left' h.length_encode, h.reserved_encode tail, ?_, ?_⟩
  · intro count beyond
    rw [Bytes.take_append_beyond (by rwa [h.length_encode])]
    exact h.parse_encode_append _
  · intro rest
    rw [List.take_left' h.length_encode]
    exact h.parse_encode_append rest

/-- Whatever area a header is written over, nothing behind it changes, and it reads back, with a zero
in the reserved place. It is refused by an area that is too small for it, which is then left as it
is. A header that was read and is written back changes nothing but the reserved byte. In the same way
a request can be made in a frame of any content. It counts its bytes exactly, is refused if these are
more than fit, and is never taken for a reply. -/
theorem headers_and_requests_read_back :
    (∀ (h : Header) (area : Bytes),
      (area.length < 8 → h.write area = .error .bufferTooSmall ∧
        h.writeInPlace.on area = some (.error .bufferTooSmall, area)) ∧
      (8 ≤ area.length → ∃ after, h.write area = .ok after ∧
        h.writeInPlace.on area = some (.ok (), after) ∧
        after.length = area.length ∧ after.drop 8 = area.drop 8 ∧ after[5]? = some 0 ∧
        ∀ rest, parse (after.take 8 ++ rest) = .ok h)) ∧
    (∀ bs h, parse bs = .ok h → h.write bs = .ok (bs.set 5 0)) ∧
    ∀ (f : Frame) (source : UInt8) (count : Nat),
      (500 < count → f.request source count = .error .payloadTooLarge ∧
        (Frame.requestInPlace source count).on f.bytes = some (.error .payloadTooLarge, f.bytes)) ∧
      (count ≤ 500 → ∃ made, f.request source count = .ok made ∧
        (Frame.requestInPlace source count).on f.bytes = some (.ok (), made.bytes) ∧
        (∃ length, parse made.bytes = .ok ⟨.request, source, length⟩ ∧ length.toNat = count) ∧
        made.bytes.drop 8 = f.bytes.drop 8 ∧
        ∀ m, 8 ≤ m → m ≤ 508 → Reply.decode (made.bytes.take m) = .error .wrongTag) := by
  refine ⟨?_, ?_, ?_⟩
  · intro h area
    refine ⟨h.write_short, fun long => ?_⟩
    obtain ⟨writes, inPlace⟩ := h.write_long long
    obtain ⟨behind, reserved, -, reads⟩ := h.written (area.drop headerLength)
    have len : (h.encode ++ area.drop headerLength).length = area.length := by
      rw [List.length_append, h.length_encode, List.length_drop]
      exact Nat.add_sub_cancel' long
    exact ⟨_, writes, inPlace, len, behind, reserved, reads⟩
  · intro bs h parsed
    obtain ⟨reserved, rest, rfl⟩ := spelt_of_parse parsed
    have long : headerLength ≤ (h.spell reserved ++ rest).length := by
      rw [List.length_append, h.length_spell]
      exact Nat.le_add_right _ _
    have behind : (h.spell reserved ++ rest).drop headerLength = rest :=
      List.drop_left' (h.length_spell reserved)
    rw [(h.write_long long).1, behind, set_spell, ← encode_eq_spell]
  · intro f source count
    refine ⟨f.request_large source, fun fits => ?_⟩
    let h : Header := ⟨.request, source, UInt16.ofNat count⟩
    obtain ⟨makes, inPlace⟩ := f.request_fits source fits
    obtain ⟨behind, -, reads, -⟩ := h.written (f.bytes.drop headerLength)
    rw [← Frame.bytes_stamp] at behind reads
    have counted : (UInt16.ofNat count).toNat = count := by
      rw [UInt16.toNat_ofNat', Nat.mod_eq_of_lt]
      exact Nat.lt_of_le_of_lt fits (by decide)
    refine ⟨_, makes, inPlace, ⟨_, f.parse_stamp h, counted⟩, behind, ?_⟩
    intro m long _
    rw [Reply.decode, Reply.read, reads m long]
    rfl

-- the ninth byte is not touched
example : (writeInPlace ⟨.reply, 3, 0x0102⟩).on (List.replicate 9 7) =
    some (.ok (), [0x46, 0x52, 0x50, 0x59, 3, 0, 1, 2, 7]) := by rfl

end Header

namespace Reply

variable {bs : Bytes} {r : Reply}

theorem decode_headless (short : bs.length < headerLength) : decode bs = .error .shortFrame := by
  have reads := reads bs
  unfold decode
  generalize read bs = result at reads
  cases reads with
  | headless => rfl
  | foreign long => exact absurd short (Nat.not_lt.mpr long)
  | cut =>
    rw [length_spell_append] at short
    omega
  | whole =>
    rw [length_spell_append] at short
    omega

/-- A reply of which part of the payload is missing. -/
theorem decode_cut (source : UInt8) (total : UInt16) {area : Bytes}
    (short : area.length < carried total) :
    decode (Header.encode ⟨.reply, source, total⟩ ++ area) = .error .shortFrame := by
  have beyond : (Header.encode ⟨.reply, source, total⟩ ++ area).drop headerLength = area :=
    List.drop_left' (Header.length_encode _)
  unfold decode read
  rw [Header.parse_encode_append]
  simp only [beyond, short, ne_eq, not_true_eq_false, if_false, if_true]
  rfl

theorem decode_meaningful_append (whole : r.payload.length = r.buffered) (rest : Bytes) :
    decode (r.meaningful ++ rest) = .ok r := by
  rw [meaningful, List.append_assoc, Header.encode_eq_spell]
  exact decode_eq_ok.mpr ⟨whole, 0, rest, rfl⟩

theorem decode_meaningful_take (whole : r.payload.length = r.buffered) {count : Nat}
    (few : count < headerLength + r.payload.length) :
    decode (r.meaningful.take count) = .error .shortFrame := by
  rcases Nat.lt_or_ge count headerLength with short | long
  · exact decode_headless (Nat.lt_of_le_of_lt (List.length_take_le _ _) short)
  · have missing : (r.payload.take (count - headerLength)).length < carried r.total := by
      rw [List.length_take, ← buffered, ← whole]
      omega
    rw [meaningful, Bytes.take_append_beyond (by rwa [Header.length_encode]), Header.length_encode]
    exact decode_cut r.source r.total missing

/-- A reply can be laid into a frame of any content exactly if it comes with as many of its bytes as
one frame carries. Otherwise it is refused, and the frame is left as it is. Nothing behind the
meaningful bytes changes, and these read as the reply again, whatever follows them. Any fewer of them
read as a frame that is too short. -/
theorem decode_undoes_encode (f : Frame) (r : Reply) :
    let enclosed := min r.total.toNat 500
    (enclosed < r.payload.length → r.encode f = .error .payloadTooLarge ∧
      r.encodeInPlace.on f.bytes = some (.error .payloadTooLarge, f.bytes)) ∧
    (r.payload.length < enclosed → r.encode f = .error .shortFrame ∧
      r.encodeInPlace.on f.bytes = some (.error .shortFrame, f.bytes)) ∧
    (r.payload.length = enclosed → ∃ n made, r.encode f = .ok (n, made) ∧
      r.encodeInPlace.on f.bytes = some (.ok n, made.bytes) ∧
      n = 8 + r.payload.length ∧ made.bytes.drop n = f.bytes.drop n ∧
      (∀ m, n ≤ m → m ≤ 508 → decode (made.bytes.take m) = .ok r) ∧
      (∀ rest, decode (made.bytes.take n ++ rest) = .ok r) ∧
      ∀ m, m < n → decode (made.bytes.take m) = .error .shortFrame) := by
  intro enclosed
  refine ⟨encode_large f, encode_small f, fun whole => ?_⟩
  obtain ⟨lays, inPlace⟩ := encode_whole f whole
  have bytes := bytes_encoded f whole
  have len := r.length_meaningful
  refine ⟨_, _, lays, inPlace, rfl, ?_, ?_, ?_, ?_⟩
  · rw [bytes]
    exact List.drop_left' len
  · intro m enough _
    rw [bytes, Bytes.take_append_beyond (Nat.le_trans (Nat.le_of_eq len) enough)]
    exact decode_meaningful_append whole _
  · intro rest
    rw [bytes, List.take_left' len]
    exact decode_meaningful_append whole rest
  · intro m few
    rw [bytes, List.take_append_of_le_length (Nat.le_of_lt (Nat.lt_of_lt_of_eq few len.symm))]
    exact decode_meaningful_take whole few

end Reply

end PolledLink
