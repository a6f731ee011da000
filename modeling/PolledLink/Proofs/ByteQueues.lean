import PolledLink.Buffers

/-! The buffers as two queues of bytes. What is staged goes to the back of the one until a reset, and a
reply takes the place of all that the other holds. The payload area of the outgoing frame is never
cleared, so that behind the staged bytes it has those of earlier frames. -/

namespace PolledLink

namespace Bytes

theorem getElem?_overlay {area bs : Bytes} {start : Nat} (fits : start + bs.length ≤ area.length)
    (i : Nat) :
    (overlay area start bs)[i]? =
      if start ≤ i ∧ i < start + bs.length then bs[i - start]? else area[i]? := by
  have len : (area.take start).length = start := List.length_take_of_le (by omega)
  rw [overlay_of_fits fits, List.append_assoc]
  rcases Nat.lt_or_ge i start with before | after
  · rw [if_neg (by omega), List.getElem?_append_left (by omega), List.getElem?_take_of_lt before]
  · rw [List.getElem?_append_right (by omega), len]
    rcases Nat.lt_or_ge i (start + bs.length) with inside | beyond
    · rw [if_pos ⟨after, inside⟩, List.getElem?_append_left (by omega)]
    · rw [if_neg (by omega), List.getElem?_append_right (by omega), List.getElem?_drop]
      congr 1
      omega

end Bytes

namespace Buffers

/-- What can be done with the buffers. -/
inductive Use
  | stage (bs : Bytes)
  | drain (out : Bytes)
  | reset
  | load (r : Reply)
  | stamp (source : UInt8)

inductive Answer
  | accepted (count : Nat)
  | delivered (count : Nat) (out : Bytes)
  | nothing
  | frame (made : Except Error Bytes)

def use (b : Buffers) : Use → Answer × Buffers
  | .stage bs =>
    let (count, b) := b.stage bs
    (.accepted count, b)
  | .drain out =>
    let (count, out, b) := b.drainInto out
    (.delivered count out, b)
  | .reset => (.nothing, b.reset)
  | .load r => (.nothing, b.load r)
  | .stamp source =>
    match b.stamp source with
    | .ok b => (.frame (.ok b.tx.bytes), b)
    | .error e => (.frame (.error e), b)

def useAll (b : Buffers) : List Use → List Answer × Buffers
  | [] => ([], b)
  | u :: us =>
    let (answer, b) := b.use u
    let (answers, b) := b.useAll us
    (answer :: answers, b)

end Buffers

structure ByteQueues where
  staged : Bytes := []
  /-- What was staged up to each reset, the newest first. -/
  earlier : List Bytes := []
  undelivered : Bytes := []
  unfetched : Nat := 0
  /-- How many bytes were delivered since the last reply. -/
  drained : Nat := 0

namespace ByteQueues

/-- The byte that was last staged in a place, where the newest of the frames is the first. -/
def lastStaged (frames : List Bytes) (place : Nat) : UInt8 :=
  (frames.findSome? fun frame => frame[place]?).getD 0

/-- The payload area of the next frame. -/
def area (q : ByteQueues) : Bytes :=
  (List.range payloadCapacity).map (lastStaged (q.staged :: q.earlier))

/-- The letters `FREQ`, the source, the reserved byte, the count of the bytes staged, and the payload
area. -/
def frame (q : ByteQueues) (source : UInt8) : Bytes :=
  [0x46, 0x52, 0x45, 0x51, source, 0] ++ Bytes.bigEndian 2 q.staged.length ++ q.area

def use (q : ByteQueues) : Buffers.Use → Buffers.Answer × ByteQueues
  | .stage bs =>
    let count := min bs.length (payloadCapacity - q.staged.length)
    (.accepted count, { q with staged := q.staged ++ bs.take count })
  | .drain out =>
    let count := min out.length q.undelivered.length
    (.delivered count (q.undelivered.take count ++ out.drop count),
      { q with undelivered := q.undelivered.drop count, drained := q.drained + count })
  | .reset => (.nothing, { q with staged := [], earlier := q.staged :: q.earlier })
  | .load r =>
    let count := min (min r.total.toNat payloadCapacity) r.payload.length
    (.nothing,
      { q with
        undelivered := r.payload.take count, unfetched := r.total.toNat - count, drained := 0 })
  | .stamp source => (.frame (.ok (q.frame source)), q)

def useAll (q : ByteQueues) : List Buffers.Use → List Buffers.Answer × ByteQueues
  | [] => ([], q)
  | u :: us =>
    let (answer, q) := q.use u
    let (answers, q) := q.useAll us
    (answer :: answers, q)

theorem lastStaged_cons (frame : Bytes) (frames : List Bytes) (place : Nat) :
    lastStaged (frame :: frames) place = (frame[place]?).getD (lastStaged frames place) := by
  unfold lastStaged
  rw [List.findSome?_cons]
  cases frame[place]? <;> rfl

theorem getElem?_area (q : ByteQueues) {place : Nat} (h : place < payloadCapacity) :
    q.area[place]? = some (lastStaged (q.staged :: q.earlier) place) := by
  simp only [area, List.getElem?_map, List.getElem?_range h, Option.map_some]

/-- Bytes that are added to a frame are the last in their places, and no others change. -/
theorem lastStaged_append (frame bs : Bytes) (frames : List Bytes) (place : Nat) :
    some (lastStaged ((frame ++ bs) :: frames) place) =
      if frame.length ≤ place ∧ place < frame.length + bs.length then bs[place - frame.length]?
      else some (lastStaged (frame :: frames) place) := by
  rw [lastStaged_cons, lastStaged_cons]
  rcases Nat.lt_or_ge place frame.length with before | after
  · rw [if_neg (by omega), List.getElem?_append_left before]
  · rw [List.getElem?_append_right after, List.getElem?_eq_none after]
    rcases Nat.lt_or_ge place (frame.length + bs.length) with inside | beyond
    · rw [if_pos ⟨after, inside⟩, List.getElem?_eq_getElem (by omega)]
      rfl
    · rw [if_neg (by omega), List.getElem?_eq_none (by omega)]

end ByteQueues

namespace Buffers

/-- The buffers hold what is in the queues. -/
structure Holds (b : Buffers) (q : ByteQueues) : Prop extends b.InBounds where
  staged : b.staged = q.staged
  undelivered : b.undelivered = q.undelivered
  unfetched : b.readAvail = q.unfetched
  drained : b.readPos = q.drained
  area : b.tx.bytes.drop headerLength = q.area

variable {b : Buffers} {q : ByteQueues}

theorem area_eq (h : ∀ place < payloadCapacity, b.tx.bytes[headerLength + place]? =
    some (ByteQueues.lastStaged (q.staged :: q.earlier) place)) :
    b.tx.bytes.drop headerLength = q.area := by
  apply List.ext_getElem?
  intro place
  rw [List.getElem?_drop]
  rcases Nat.lt_or_ge place payloadCapacity with inside | beyond
  · rw [h place inside, q.getElem?_area inside]
  · have len := b.tx.length_bytes
    rw [List.getElem?_eq_none (by simp only [frameLength] at len; omega),
      List.getElem?_eq_none (by simpa [ByteQueues.area] using beyond)]

theorem holds_empty : Holds {} {} where
  toInBounds := inBounds_empty
  staged := rfl
  undelivered := rfl
  unfetched := rfl
  drained := rfl
  area := by
    have zeros : ByteQueues.area {} = List.replicate payloadCapacity 0 := by
      rw [ByteQueues.area, show ByteQueues.lastStaged [[]] = fun _ => 0 from rfl, List.map_const',
        List.length_range]
    rw [zeros]
    exact List.drop_replicate

namespace Holds

theorem writePos_eq (h : b.Holds q) : b.writePos = q.staged.length := by
  rw [← h.staged, length_staged h.toInBounds]

theorem readLeft_eq (h : b.Holds q) : b.readLeft = q.undelivered.length := by
  rw [← h.undelivered, length_undelivered h.toInBounds]

theorem getElem?_tx (h : b.Holds q) {place : Nat} (inside : place < payloadCapacity) :
    b.tx.bytes[headerLength + place]? =
      some (ByteQueues.lastStaged (q.staged :: q.earlier) place) := by
  rw [← List.getElem?_drop, h.area, q.getElem?_area inside]

theorem stage (h : b.Holds q) (bs : Bytes) :
    (b.use (.stage bs)).1 = (q.use (.stage bs)).1 ∧
      (b.use (.stage bs)).2.Holds (q.use (.stage bs)).2 := by
  have space : b.writeSpace = payloadCapacity - q.staged.length := by rw [writeSpace, h.writePos_eq]
  have count : min bs.length b.writeSpace = min bs.length (payloadCapacity - q.staged.length) := by
    rw [space]
  refine ⟨congrArg Answer.accepted count, h.toInBounds.stage bs, ?_, h.undelivered, h.unfetched,
    h.drained, area_eq fun place inside => ?_⟩
  · refine (staged_stage h.toInBounds bs).trans ?_
    rw [h.staged, space, List.take_eq_take_min, Nat.min_comm]
    rfl
  · let taken := bs.take (min bs.length b.writeSpace)
    have len : taken.length ≤ b.writeSpace := by
      rw [List.length_take]
      omega
    have fits : headerLength + b.writePos + taken.length ≤ b.tx.bytes.length := by
      have := h.writePos_le
      rw [b.tx.length_bytes]
      simp only [writeSpace, frameLength] at len ⊢
      omega
    show (Bytes.overlay b.tx.bytes (headerLength + b.writePos) taken)[headerLength + place]? =
      some (ByteQueues.lastStaged ((q.staged ++ bs.take _) :: q.earlier) place)
    rw [← count, ByteQueues.lastStaged_append, Bytes.getElem?_overlay fits, h.getElem?_tx inside,
      ← h.writePos_eq, Nat.add_sub_add_left]
    simp only [Nat.add_assoc, Nat.add_le_add_iff_left, Nat.add_lt_add_iff_left]
    rfl

theorem drain (h : b.Holds q) (out : Bytes) :
    (b.use (.drain out)).1 = (q.use (.drain out)).1 ∧
      (b.use (.drain out)).2.Holds (q.use (.drain out)).2 := by
  let count := min out.length q.undelivered.length
  have delivered : (b.drain out.length).1 = q.undelivered.take count := by
    rw [drain_fst h.toInBounds, h.undelivered, List.take_eq_take_min]
  have len : (q.undelivered.take count).length = count :=
    List.length_take_of_le (Nat.min_le_right _ _)
  have filled : out.overlay 0 (q.undelivered.take count) =
      q.undelivered.take count ++ out.drop count := by
    rw [Bytes.overlay_zero (by omega), len]
  refine ⟨?_, h.toInBounds.drain out.length, h.staged, ?_, h.unfetched, ?_, h.area⟩
  · simp only [Buffers.use, drainInto, delivered, len, filled]
    rfl
  · refine (drop_undelivered h.toInBounds out.length).trans ?_
    rw [h.undelivered, List.drop_eq_drop_min]
    rfl
  · show b.readPos + min out.length b.readLeft = q.drained + count
    rw [h.drained, h.readLeft_eq]

theorem reset (h : b.Holds q) :
    (b.use .reset).1 = (q.use .reset).1 ∧ (b.use .reset).2.Holds (q.use .reset).2 := by
  refine ⟨rfl, h.toInBounds.reset, rfl, h.undelivered, h.unfetched, h.drained, ?_⟩
  exact area_eq fun place inside => h.getElem?_tx inside

theorem load (h : b.Holds q) (r : Reply) :
    (b.use (.load r)).1 = (q.use (.load r)).1 ∧
      (b.use (.load r)).2.Holds (q.use (.load r)).2 := by
  refine ⟨rfl, h.toInBounds.load r, h.staged, ?_, rfl, rfl, h.area⟩
  exact (undelivered_load b r).trans List.take_eq_take_min

theorem stamp (h : b.Holds q) (source : UInt8) :
    (b.use (.stamp source)).1 = (q.use (.stamp source)).1 ∧
      (b.use (.stamp source)).2.Holds (q.use (.stamp source)).2 := by
  have header : Header.encode ⟨.request, source, UInt16.ofNat b.writePos⟩ =
      [0x46, 0x52, 0x45, 0x51, source, 0] ++ Bytes.bigEndian 2 q.staged.length := by
    rw [Header.encode, h.toInBounds.toNat_writePos, h.writePos_eq]
    rfl
  have made : (b.stamped source).tx.bytes = q.frame source := by
    rw [stamped, Frame.bytes_stamp, header, h.area]
    rfl
  have stamps : b.use (.stamp source) =
      (.frame (.ok (b.stamped source).tx.bytes), b.stamped source) := by
    simp only [Buffers.use, h.toInBounds.stamp_eq]
  rw [stamps, made]
  refine ⟨rfl, h.toInBounds.stamped source, (b.staged_stamped source).trans h.staged,
    h.undelivered, h.unfetched, h.drained, ?_⟩
  have area : (b.stamped source).tx.bytes.drop headerLength = b.tx.bytes.drop headerLength := by
    rw [stamped, Frame.bytes_stamp]
    exact List.drop_left' (Header.length_encode _)
  exact area.trans h.area

theorem use (h : b.Holds q) (u : Use) :
    (b.use u).1 = (q.use u).1 ∧ (b.use u).2.Holds (q.use u).2 := by
  cases u with
  | stage bs => exact h.stage bs
  | drain out => exact h.drain out
  | reset => exact h.reset
  | load r => exact h.load r
  | stamp source => exact h.stamp source

theorem useAll (h : b.Holds q) (us : List Use) :
    (b.useAll us).1 = (q.useAll us).1 ∧ (b.useAll us).2.Holds (q.useAll us).2 := by
  induction us generalizing b q with
  | nil => exact ⟨rfl, h⟩
  | cons u us ih =>
    obtain ⟨answer, held⟩ := h.use u
    obtain ⟨answers, held⟩ := ih held
    exact ⟨by simp only [Buffers.useAll, ByteQueues.useAll, answer, answers], held⟩

end Holds

/-- However new buffers are used, they answer as the two queues do, and hold what is in them. The
cursors tell how much that is, and stay inside the areas. A reply that is loaded is accounted for in
full, whatever payload it comes with. A frame can always be made. It is a whole one whose header
counts the bytes staged, and behind these it has in every place the byte that an earlier frame had
last there. -/
theorem act_as_queues (us : List Use) :
    let (answers, b) := useAll {} us
    let (expected, q) := ByteQueues.useAll {} us
    answers = expected ∧
    b.staged = q.staged ∧ b.undelivered = q.undelivered ∧
    b.writePos = q.staged.length ∧ b.writePos ≤ 500 ∧
    b.readLeft = q.undelivered.length ∧ b.readAvail = q.unfetched ∧
    b.readPos = q.drained ∧ b.readPos + b.readLeft ≤ 500 ∧
    (∀ r, (b.load r).readLeft = min (min r.total.toNat 500) r.payload.length ∧
      (b.load r).readLeft + (b.load r).readAvail = r.total.toNat) ∧
    ∀ source, ∃ b', b.stamp source = .ok b' ∧ b'.tx.bytes.length = 508 ∧
      (∃ length, Header.parse b'.tx.bytes = .ok ⟨.request, source, length⟩ ∧
        length.toNat = q.staged.length) ∧
      ∀ place < 500, b'.tx.bytes[8 + place]? =
        some (ByteQueues.lastStaged (q.staged :: q.earlier) place) := by
  obtain ⟨answers, holds⟩ := holds_empty.useAll us
  refine ⟨answers, holds.staged, holds.undelivered, holds.writePos_eq, holds.writePos_le,
    holds.readLeft_eq, holds.unfetched, holds.drained, holds.read_le, ?_, ?_⟩
  · intro r
    refine ⟨rfl, ?_⟩
    simp only [load, Reply.buffered, carried]
    omega
  · intro source
    have made := (holds.stamp source).2
    simp only [Buffers.use, holds.toInBounds.stamp_eq] at made
    refine ⟨_, holds.toInBounds.stamp_eq source, Block.length_bytes _,
      ⟨_, Frame.parse_stamp _ _, ?_⟩, fun place inside => made.getElem?_tx inside⟩
    rw [holds.toInBounds.toNat_writePos, holds.writePos_eq]

-- the second and third byte are those of the frame before
example :
    (useAll {} [.stage [1, 2, 3], .reset, .stage [9], .stamp 7]).2.tx.slice headerLength 4 =
      [9, 2, 3, 0] := by
  decide +kernel

end Buffers

end PolledLink
