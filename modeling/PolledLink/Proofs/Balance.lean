import PolledLink.Proofs.Outstanding

/-! The books of a link balance. Bytes taken from write requests have been sent or are still staged,
and bytes received have been delivered to read requests or are still waiting, both in order. The
counts are those of the bytes taken and delivered. -/

namespace PolledLink

namespace Traffic

variable {before after : Request}

theorem note_served_write (t : Traffic) (hd : before.direction = .write) :
    t.note (.served before after) =
      { t with accepted := t.accepted ++ after.movedSince before } := by
  simp only [note, hd]

theorem note_served_read (t : Traffic) (hd : before.direction = .read) :
    t.note (.served before after) =
      { t with delivered := t.delivered ++ after.movedSince before } := by
  simp only [note, hd]

end Traffic

namespace Link

structure Balances (l : Link) (t : Traffic) : Prop where
  written : t.sent ++ l.buffers.staged = t.accepted
  read : t.received = t.delivered ++ l.buffers.undelivered
  writtenCount : l.buffers.bytesWritten = UInt32.ofNat t.accepted.length
  readCount : l.buffers.bytesRead = UInt32.ofNat t.delivered.length

variable {l : Link} {t : Traffic}

theorem Balances.serves {r : Request} {sv : Serviced} (h : l.Balances t) (serves : l.Serves r sv)
    (hb : l.buffers.InBounds) : sv.link.Balances (t.note (.served r sv.request)) := by
  cases hd : r.direction with
  | write =>
    obtain ⟨staged, undelivered, bytesRead, bytesWritten⟩ := serves.write hb hd
    rw [t.note_served_write hd]
    refine ⟨?_, ?_, ?_, ?_⟩
    · rw [staged, ← List.append_assoc, h.written]
    · rw [undelivered]
      exact h.read
    · rw [bytesWritten, h.writtenCount, List.length_append, UInt32.ofNat_add]
    · rw [bytesRead]
      exact h.readCount
  | read =>
    obtain ⟨undelivered, staged, bytesWritten, bytesRead⟩ := serves.read hb hd
    rw [t.note_served_read hd]
    refine ⟨?_, ?_, ?_, ?_⟩
    · rw [staged]
      exact h.written
    · rw [List.append_assoc, ← undelivered]
      exact h.read
    · rw [bytesWritten]
      exact h.writtenCount
    · rw [bytesRead, h.readCount, List.length_append, UInt32.ofNat_add]

theorem Balances.passOn (h : l.Balances t) (unit : LinkUnit) :
    (l.passOn unit).link.Balances t := by
  cases unit with
  | input => exact h
  | output => exact ⟨h.written, h.read, h.writtenCount, h.readCount⟩

/-- The frame that is being written carries exactly the staged bytes. -/
theorem TrackedBy.payload_eq (h : l.TrackedBy t) (hb : l.buffers.InBounds)
    (writes : l.operation.writes = true) : l.buffers.tx.payload = l.buffers.staged := by
  rw [Frame.payload, (h.writes writes).2]
  simp only [hb.toNat_writePos]
  rfl

/-- A write that succeeds turns the staged bytes into bytes sent. -/
theorem Balances.wrote (h : l.Balances t) (ht : l.TrackedBy t) (hb : l.buffers.InBounds)
    (writes : l.operation.writes = true) :
    (t.note (.wrote .ok)).sent ++ l.buffers.reset.staged = t.accepted := by
  have sent : (t.note (.wrote .ok)).sent = t.sent ++ l.buffers.staged := by
    rw [Traffic.note, (ht.writes writes).1]
    exact congrArg (t.sent ++ ·) (ht.payload_eq hb writes)
  rw [sent, Buffers.staged_reset, List.append_nil]
  exact h.written

/-- A reply that is accepted finds nothing left to deliver. -/
theorem Balances.received (h : l.Balances t) {received : Received} {r : Reply}
    (hr : received.reply = .ok r) (empty : l.buffers.readLeft = 0) :
    (t.note (.received received)).received =
      (t.note (.received received)).delivered ++ (l.buffers.load r).undelivered := by
  have none : l.buffers.undelivered = [] := by
    rw [Buffers.undelivered, empty, Block.slice_zero]
  have before : t.received = t.delivered := by
    rw [h.read, none, List.append_nil]
  have loaded : (l.buffers.load r).undelivered = received.payload := by
    rw [Buffers.undelivered_load, Received.payload_eq hr]
    exact List.take_of_length_le (Nat.le_of_eq (Received.length_payload hr))
  rw [loaded]
  exact congrArg (· ++ received.payload) before

theorem Balances.refused (h : l.Balances t) {received : Received} {e : Error}
    (hr : received.reply = .error e) :
    (t.note (.received received)).received = t.delivered ++ l.buffers.undelivered := by
  have none : (t.note (.received received)).received = t.received ++ received.payload := rfl
  rw [none, Received.payload_eq_nil hr, List.append_nil]
  exact h.read

end Link

namespace Session

variable {s s' : Session} {m : Move} {es : List Event} {t : Traffic}

theorem Passage.balances (p : s.Passage m es s') (h : s.Steady) (ht : s.link.TrackedBy t)
    (b : s.link.Balances t) : s'.link.Balances (t.noteAll es) := by
  cases p with
  | aside schedule isOpen => exact ⟨b.written, b.read, b.writtenCount, b.readCount⟩
  | attached => exact ⟨b.written, b.read, b.writtenCount, b.readCount⟩
  | opened => exact ⟨b.written, b.read, b.writtenCount, b.readCount⟩
  | served r => exact b.serves (s.link.serves r) h.inBounds
  | flushed =>
    refine ⟨?_, b.read, b.writtenCount, b.readCount⟩
    exact (congrArg (t.sent ++ ·) (s.link.buffers.staged_stamped _)).trans b.written
  | polled => exact ⟨b.written, b.read, b.writtenCount, b.readCount⟩
  | unstarted => exact ⟨b.written, b.read, b.writtenCount, b.readCount⟩
  | wakeRefused => exact ⟨b.written, b.read, b.writtenCount, b.readCount⟩
  | woke => exact ⟨b.written, b.read, b.writtenCount, b.readCount⟩
  | @shown unit r => exact b.serves (s.link.serves r) h.inBounds
  | @shownShort unit r => exact (b.serves (s.link.serves r) h.inBounds).passOn unit
  | @shownNone unit => exact b.passOn unit
  | @completed unit => exact b.passOn unit
  | writeStarted => exact ⟨b.written, b.read, b.writtenCount, b.readCount⟩
  | readStarted => exact ⟨b.written, b.read, b.writtenCount, b.readCount⟩
  | writeEarly => exact ⟨b.written, b.read, b.writtenCount, b.readCount⟩
  | writeFailed => exact ⟨b.written, b.read, b.writtenCount, b.readCount⟩
  | writeSent ends =>
    exact ⟨b.wrote ht h.inBounds ends.writes, b.read, b.writtenCount, b.readCount⟩
  | writeChained ends =>
    exact ⟨b.wrote ht h.inBounds ends.writes, b.read, b.writtenCount, b.readCount⟩
  | replyAccepted reading hr =>
    -- the read was asked for with nothing left, and no request has been served since
    have empty := (h.disciplined.empty (by rw [reading]; rfl)).2
    exact ⟨b.written, b.received hr empty, b.writtenCount, b.readCount⟩
  | replyDiscarded reading hr => exact ⟨b.written, b.refused hr, b.writtenCount, b.readCount⟩
  | readFailed reading hr => exact ⟨b.written, b.refused hr, b.writtenCount, b.readCount⟩

/-- A write that is asked for is one of the staged bytes. -/
theorem Passage.issuedWrite {channel : ChannelId} {frame : Frame} (p : s.Passage m es s')
    (he : .issued channel (.write frame) ∈ es) :
    s'.link.operation = .issuingWrite ∧ frame = s'.link.buffers.tx ∧
      s'.link.buffers.staged = s.link.buffers.staged := by
  cases p with
  | flushed =>
    rcases List.mem_singleton.mp he with ⟨⟩
    exact ⟨rfl, rfl, s.link.buffers.staged_stamped _⟩
  | _ => simp at he

theorem Passage.issuedRead {channel : ChannelId} (p : s.Passage m es s')
    (he : .issued channel .read ∈ es) : s'.link.operation = .issuingRead := by
  cases p with
  | polled => rfl
  | writeChained => rfl
  | _ => simp at he

theorem balances_ofConfig (config : Config) : (ofConfig config).link.Balances {} :=
  ⟨rfl, rfl, rfl, rfl⟩

theorem Steady.balances_run (h : s.Steady) (ms : List Move) (ht : s.link.TrackedBy t)
    (b : s.link.Balances t) : (s.run ms).link.Balances (t.noteAll (s.history ms)) := by
  have both := h.keeps (P := fun s t => s.link.TrackedBy t ∧ s.link.Balances t)
    (fun steady p kept => ⟨p.tracked steady kept.1, p.balances steady kept.1 kept.2⟩) ms ⟨ht, b⟩
  exact both.2

/-- The books of every run of a new link balance. -/
theorem balances_traffic (config : Config) (ms : List Move) :
    ((ofConfig config).run ms).link.Balances ((ofConfig config).traffic ms) :=
  (steady_ofConfig config).balances_run ms (tracked_ofConfig config) (balances_ofConfig config)

end Session

end PolledLink
