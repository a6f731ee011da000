import PolledLink.Frame.Reply

/-! The form of a reply. Received bytes are a reply if they begin with the letters `FRPY`, a source, a
byte of no meaning, the count of the bytes available, and as many bytes as a frame carries of them.
What follows is no part of it. Anything else is rejected, for the first of its faults. -/

namespace PolledLink

theorem Bytes.toNat_inj {a b : Bytes} (len : a.length = b.length) :
    a.toNat = b.toNat ↔ a = b := by
  refine ⟨fun same => ?_, congrArg toNat⟩
  rw [← bigEndian_toNat a, ← bigEndian_toNat b, len, same]

namespace Header

/-- The header as it is spelt, with any byte in the reserved place. -/
def spell (h : Header) (reserved : UInt8) : Bytes :=
  h.tag.bytes ++ [h.source, reserved] ++ Bytes.bigEndian 2 h.length.toNat

theorem length_spell (h : Header) (reserved : UInt8) : (h.spell reserved).length = headerLength := by
  rcases h with ⟨tag, source, length⟩
  cases tag <;> simp [spell, Tag.bytes, headerLength]

theorem encode_eq_spell (h : Header) : h.encode = h.spell 0 := rfl

theorem set_spell (h : Header) (reserved byte : UInt8) (rest : Bytes) :
    (h.spell reserved ++ rest).set 5 byte = h.spell byte ++ rest := by
  rcases h with ⟨tag, source, length⟩
  cases tag <;> rfl

theorem toNat_length (h : Header) : (Bytes.bigEndian 2 h.length.toNat).toNat = h.length.toNat := by
  rw [Bytes.toNat_bigEndian]
  exact Nat.mod_eq_of_lt h.length.toNat_lt

/-- What can come of parsing a header. -/
inductive Parses : Bytes → Except Error Header → Prop
  | short {bs : Bytes} (h : bs.length < headerLength) : Parses bs (.error .shortFrame)
  | foreign {bs : Bytes} (h : headerLength ≤ bs.length) (unknown : ∀ t : Tag, bs.take 4 ≠ t.bytes) :
    Parses bs (.error .wrongTag)
  | spelt (h : Header) (reserved : UInt8) (rest : Bytes) :
    Parses (h.spell reserved ++ rest) (.ok h)

theorem parses (bs : Bytes) : Parses bs (parse bs) := by
  unfold parse
  split
  · rename_i t₀ t₁ t₂ t₃ source reserved l₀ l₁ rest
    have word (t : Tag) : [t₀, t₁, t₂, t₃] = t.bytes ↔ Bytes.toNat [t₀, t₁, t₂, t₃] = t.word :=
      (Bytes.toNat_inj (by cases t <;> rfl)).symm
    cases known : Tag.ofWord? (Bytes.toNat [t₀, t₁, t₂, t₃]) with
    | none =>
      refine .foreign (by simp [headerLength]) fun t same => ?_
      exact Tag.ofWord?_eq_none.mp known t ((word t).mp same)
    | some tag =>
      have letters := (word tag).mpr (Tag.ofWord?_eq_some.mp known)
      have small : Bytes.toNat [l₀, l₁] < UInt16.size := by
        have := l₀.toNat_lt
        have := l₁.toNat_lt
        simp only [Bytes.toNat, List.foldl, UInt16.size]
        omega
      have count : Bytes.bigEndian 2 (UInt16.ofNat (Bytes.toNat [l₀, l₁])).toNat = [l₀, l₁] := by
        rw [UInt16.toNat_ofNat', Nat.mod_eq_of_lt small]
        exact Bytes.bigEndian_toNat [l₀, l₁]
      have spelt : t₀ :: t₁ :: t₂ :: t₃ :: source :: reserved :: l₀ :: l₁ :: rest =
          spell ⟨tag, source, UInt16.ofNat (Bytes.toNat [l₀, l₁])⟩ reserved ++ rest := by
        rw [spell, count, ← letters]
        rfl
      rw [spelt]
      exact .spelt _ reserved rest
  · rename_i short
    refine .short (Nat.lt_of_not_ge fun long => ?_)
    obtain ⟨t₀, t₁, t₂, t₃, source, reserved, l₀, l₁, rest, rfl⟩ := exists_of_length_ge long
    exact short t₀ t₁ t₂ t₃ source reserved l₀ l₁ rest rfl

/-- The byte in the reserved place is not looked at. -/
theorem parse_set (bs : Bytes) (byte : UInt8) : parse (bs.set 5 byte) = parse bs := by
  match bs with
  | [] | [_] | [_, _] | [_, _, _] | [_, _, _, _] | [_, _, _, _, _] | [_, _, _, _, _, _]
  | [_, _, _, _, _, _, _] => rfl
  | _ :: _ :: _ :: _ :: _ :: _ :: _ :: _ :: _ => rfl

theorem parse_spell_append (h : Header) (reserved : UInt8) (rest : Bytes) :
    parse (h.spell reserved ++ rest) = .ok h := by
  rw [← parse_set _ 0, set_spell, ← encode_eq_spell, parse_encode_append]

end Header

namespace Reply

/-- What can come of reading received bytes. -/
inductive Reads : Bytes → Except Rejection Reply → Prop
  | headless {bs : Bytes} (h : bs.length < headerLength) :
    Reads bs (.error (.header .shortFrame))
  | foreign {bs : Bytes} (h : headerLength ≤ bs.length) (letters : bs.take 4 ≠ Tag.reply.bytes) :
    Reads bs (.error (.header .wrongTag))
  | cut (source : UInt8) (total : UInt16) (reserved : UInt8) {area : Bytes}
    (short : area.length < carried total) :
    Reads (Header.spell ⟨.reply, source, total⟩ reserved ++ area)
      (.error (.payload (carried total) area.length))
  | whole (r : Reply) (reserved : UInt8) (rest : Bytes) (h : r.payload.length = r.buffered) :
    Reads (Header.spell ⟨.reply, r.source, r.total⟩ reserved ++ (r.payload ++ rest)) (.ok r)

theorem reads (bs : Bytes) : Reads bs (read bs) := by
  unfold read
  have parsed := Header.parses bs
  generalize Header.parse bs = result at parsed
  cases parsed with
  | short h => exact .headless h
  | foreign h unknown => exact .foreign h (unknown .reply)
  | spelt h reserved area =>
    rcases h with ⟨tag, source, total⟩
    have beyond : (Header.spell ⟨tag, source, total⟩ reserved ++ area).drop headerLength = area :=
      List.drop_left' (Header.length_spell _ reserved)
    simp only [beyond]
    cases tag with
    | request =>
      exact .foreign (by simp [Header.length_spell]) (by
        intro same
        nomatch same)
    | reply =>
      simp only [ne_eq, not_true_eq_false, if_false]
      split
      · rename_i short
        exact .cut source total reserved short
      · rename_i long
        have len : (area.take (carried total)).length = carried total :=
          List.length_take_of_le (Nat.le_of_not_lt long)
        have whole := Reads.whole ⟨source, total, area.take (carried total)⟩ reserved
          (area.drop (carried total)) len
        rwa [List.take_append_drop] at whole

theorem read_set (bs : Bytes) (byte : UInt8) : read (bs.set 5 byte) = read bs := by
  have area : (bs.set 5 byte).drop headerLength = bs.drop headerLength := by
    rw [List.drop_set, if_pos (by decide)]
  unfold read
  rw [Header.parse_set, area]

/-- The replies that received bytes can be. -/
theorem decode_eq_ok {bs : Bytes} {r : Reply} :
    decode bs = .ok r ↔ r.payload.length = r.buffered ∧
      ∃ reserved rest,
        bs = Header.spell ⟨.reply, r.source, r.total⟩ reserved ++ (r.payload ++ rest) := by
  constructor
  · intro h
    have reads := reads bs
    unfold decode at h
    cases result : read bs with
    | error rejection =>
      rw [result] at h
      nomatch h
    | ok reply =>
      rw [result] at h reads
      obtain rfl : reply = r := Except.ok.inj h
      cases reads with
      | whole _ reserved rest whole => exact ⟨whole, reserved, rest, rfl⟩
  · rintro ⟨whole, reserved, rest, rfl⟩
    have beyond : (Header.spell ⟨.reply, r.source, r.total⟩ reserved ++
        (r.payload ++ rest)).drop headerLength = r.payload ++ rest :=
      List.drop_left' (Header.length_spell _ reserved)
    have claimed : carried r.total = r.payload.length := whole.symm
    have enough : ¬ (r.payload ++ rest).length < r.payload.length := by
      rw [List.length_append]
      omega
    unfold decode read
    rw [Header.parse_spell_append]
    simp only [beyond, claimed, ne_eq, not_true_eq_false, if_false, enough, List.take_left]
    rfl

/-- The bytes of which a reply is made up. -/
def meaningful (r : Reply) : Bytes := Header.encode ⟨.reply, r.source, r.total⟩ ++ r.payload

theorem length_meaningful (r : Reply) : r.meaningful.length = headerLength + r.payload.length := by
  rw [meaningful, List.length_append, Header.length_encode]

theorem bytes_encoded (f : Frame) {r : Reply} (whole : r.payload.length = r.buffered) :
    ((f.stamp ⟨.reply, r.source, r.total⟩).overlay headerLength r.payload).bytes =
      r.meaningful ++ f.bytes.drop (headerLength + r.payload.length) := by
  rw [Block.bytes_overlay, Bytes.overlay_of_fits (payload_fits _ whole), Frame.bytes_stamp,
    ← List.drop_drop, List.take_left' (Header.length_encode _),
    List.drop_left' (Header.length_encode _), List.drop_drop, meaningful]

/-- A reply takes the same place in any frame that it is laid into. -/
theorem take_encode (f : Frame) {r : Reply} (whole : r.payload.length = r.buffered) :
    ∃ area, r.encode f = .ok (headerLength + r.payload.length, area) ∧
      area.bytes.take (headerLength + r.payload.length) = r.meaningful := by
  refine ⟨(f.stamp ⟨.reply, r.source, r.total⟩).overlay headerLength r.payload, ?_, ?_⟩
  · simp only [encode, whole, Nat.lt_irrefl, if_false]
  · rw [bytes_encoded f whole]
    exact List.take_left' r.length_meaningful

/-- Received bytes that a reply was laid into read as that reply. -/
theorem read_encode (f : Frame) {r : Reply} (whole : r.payload.length = r.buffered) :
    ∃ area, r.encode f = .ok (headerLength + r.payload.length, area) ∧
      Reply.read (area.bytes.take (headerLength + r.payload.length)) = .ok r := by
  obtain ⟨area, laid, bytes⟩ := r.take_encode f whole
  have claimed : carried r.total = r.payload.length := whole.symm
  refine ⟨area, laid, ?_⟩
  rw [bytes, meaningful, Reply.read, Header.parse_encode_append]
  simp only [List.drop_left' (Header.length_encode _), claimed, Nat.lt_irrefl, if_false, ne_eq,
    not_true_eq_false, List.take_length]

/-- The count that a header has in its last two bytes. -/
def available (bs : Bytes) : Nat := Bytes.toNat ((bs.drop 6).take 2)

theorem available_spell (h : Header) (reserved : UInt8) (rest : Bytes) :
    available (h.spell reserved ++ rest) = h.length.toNat := by
  have place : ((h.spell reserved ++ rest).drop 6).take 2 = Bytes.bigEndian 2 h.length.toNat := by
    rcases h with ⟨tag, source, length⟩
    cases tag <;> rfl
  rw [available, place, h.toNat_length]

theorem length_spell_append (h : Header) (reserved : UInt8) (area : Bytes) :
    (h.spell reserved ++ area).length = headerLength + area.length := by
  rw [List.length_append, Header.length_spell]

/-- The faults of received bytes that are no reply. -/
theorem decode_eq_error {bs : Bytes} {e : Error} (h : decode bs = .error e) :
    (bs.length < 8 ∧ e = .shortFrame) ∨
      (8 ≤ bs.length ∧ bs.take 4 ≠ Tag.reply.bytes ∧ e = .wrongTag) ∨
      (8 ≤ bs.length ∧ bs.take 4 = Tag.reply.bytes ∧ bs.length < 8 + min (available bs) 500 ∧
        e = .shortFrame) := by
  have reads := reads bs
  unfold decode at h
  generalize read bs = result at reads h
  cases reads with
  | headless short => exact .inl ⟨short, (Except.error.inj h).symm⟩
  | foreign long letters => exact .inr (.inl ⟨long, letters, (Except.error.inj h).symm⟩)
  | cut source total reserved short =>
    rw [available_spell, length_spell_append]
    exact .inr (.inr ⟨Nat.le_add_right _ _, rfl, Nat.add_lt_add_left short _,
      (Except.error.inj h).symm⟩)
  | whole => nomatch h

/-- Received bytes are a reply exactly if they have the form of one, and it is then told from them
byte by byte. Otherwise the first of the faults is the error: too few bytes for a header, other
letters than those of a reply, too few bytes for the payload. The reserved byte and what follows the
payload have no part in it, so that all of the bytes but the reserved one are those that the reply
is sent as. -/
theorem decode_accepts_replies (bs : Bytes) :
    let letters : Bytes := [0x46, 0x52, 0x50, 0x59]
    let available := Bytes.toNat ((bs.drop 6).take 2)
    let enclosed := min available 500
    (((∃ r, decode bs = .ok r) ↔
        8 ≤ bs.length ∧ bs.take 4 = letters ∧ 8 + enclosed ≤ bs.length) ∧
      (bs.length < 8 → decode bs = .error .shortFrame) ∧
      (8 ≤ bs.length → bs.take 4 ≠ letters → decode bs = .error .wrongTag) ∧
      (8 ≤ bs.length → bs.take 4 = letters → bs.length < 8 + enclosed →
        decode bs = .error .shortFrame)) ∧
    (∀ r, decode bs = .ok r →
      bs[4]? = some r.source ∧ r.total.toNat = available ∧
      r.payload = (bs.drop 8).take enclosed ∧ r.payload.length = enclosed ∧
      r.buffered = r.payload.length ∧ r.buffered + r.overflow = available) ∧
    (∀ reserved, decode (bs.set 5 reserved) = decode bs) ∧
    ∀ r, decode bs = .ok r →
      (∀ rest, decode (bs.take (8 + r.payload.length) ++ rest) = .ok r) ∧
      ∀ f : Frame, ∃ area, r.encode f = .ok (8 + r.payload.length, area) ∧
        area.bytes.take (8 + r.payload.length) = (bs.take (8 + r.payload.length)).set 5 0 := by
  intro letters available enclosed
  have told {r : Reply} (h : decode bs = .ok r) :
      bs[4]? = some r.source ∧ r.total.toNat = available ∧
        r.payload = (bs.drop 8).take enclosed ∧ r.payload.length = enclosed ∧
        8 ≤ bs.length ∧ bs.take 4 = letters ∧ 8 + enclosed ≤ bs.length := by
    obtain ⟨whole, reserved, rest, rfl⟩ := decode_eq_ok.mp h
    have count : available = r.total.toNat := available_spell _ reserved _
    have len : r.payload.length = enclosed := whole.trans (congrArg (min · 500) count.symm)
    refine ⟨rfl, count.symm, ?_, len, ?_, rfl, ?_⟩
    · exact (List.take_left' len).symm
    · rw [length_spell_append]
      exact Nat.le_add_right _ _
    · rw [length_spell_append, List.length_append, len]
      exact Nat.add_le_add_left (Nat.le_add_right _ _) _
  refine ⟨?_, ?_, ?_, ?_⟩
  · cases h : decode bs with
    | ok r =>
      obtain ⟨-, -, -, -, long, same, enough⟩ := told h
      exact ⟨⟨fun _ => ⟨long, same, enough⟩, fun _ => ⟨r, rfl⟩⟩,
        fun short => absurd long (Nat.not_le_of_lt short), fun _ other => absurd same other,
        fun _ _ short => absurd enough (Nat.not_le_of_lt short)⟩
    | error e =>
      rcases decode_eq_error h with ⟨short, rfl⟩ | ⟨long, other, rfl⟩ | ⟨long, same, short, rfl⟩
      · have never : ¬ 8 ≤ bs.length := Nat.not_le_of_lt short
        exact ⟨⟨nofun, fun form => absurd form.1 never⟩, fun _ => rfl,
          fun long => absurd long never, fun long => absurd long never⟩
      · exact ⟨⟨nofun, fun form => absurd form.2.1 other⟩,
          fun short => absurd long (Nat.not_le_of_lt short), fun _ _ => rfl,
          fun _ same => absurd same other⟩
      · exact ⟨⟨nofun, fun form => absurd form.2.2 (Nat.not_le_of_lt short)⟩, fun _ => rfl,
          fun _ other => absurd same other, fun _ _ _ => rfl⟩
  · intro r h
    obtain ⟨source, total, payload, len, -⟩ := told h
    have whole := (decode_eq_ok.mp h).1
    exact ⟨source, total, payload, len, whole.symm, r.buffered_add_overflow.trans total⟩
  · intro reserved
    rw [decode, read_set, decode]
  · intro r h
    obtain ⟨whole, reserved, rest, rfl⟩ := decode_eq_ok.mp h
    have cut : (Header.spell ⟨.reply, r.source, r.total⟩ reserved ++ (r.payload ++ rest)).take
        (8 + r.payload.length) = Header.spell ⟨.reply, r.source, r.total⟩ reserved ++ r.payload := by
      rw [← List.append_assoc]
      exact List.take_left' (length_spell_append _ reserved _)
    rw [cut]
    constructor
    · intro other
      rw [List.append_assoc]
      exact decode_eq_ok.mpr ⟨whole, reserved, other, rfl⟩
    · intro f
      obtain ⟨area, laid, bytes⟩ := r.take_encode f whole
      refine ⟨area, laid, bytes.trans ?_⟩
      rw [Header.set_spell, ← Header.encode_eq_spell, meaningful]

-- neither the 9 in the reserved place nor the 7 behind the payload is looked at
example : decode [0x46, 0x52, 0x50, 0x59, 1, 9, 0, 2, 5, 6, 7] = .ok ⟨1, 2, [5, 6]⟩ := by rfl

end Reply

end PolledLink
