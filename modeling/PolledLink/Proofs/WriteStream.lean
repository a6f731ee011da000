import PolledLink.Proofs.Balance

/-! The stream of bytes written. What write requests hand in goes out in order, without loss or
repetition, and what has not been sent is staged. A write that fails takes nothing out of the frame,
so that the next one begins with the same bytes. -/

namespace PolledLink

theorem Link.Serves.staged_grows {l : Link} {r : Request} {sv : Serviced} (h : l.Serves r sv)
    (hb : l.buffers.InBounds) : l.buffers.staged <+: sv.link.buffers.staged := by
  cases hd : r.direction with
  | write => exact ⟨_, (h.write hb hd).1.symm⟩
  | read =>
    have same := (h.read hb hd).2.1
    exact ⟨[], (List.append_nil _).trans same.symm⟩

namespace Session

variable {s s' : Session} {m : Move} {es : List Event} {t : Traffic}

/-- What a frame that is being asked for carries. -/
theorem Passage.payload_issued {channel : ChannelId} {frame : Frame} (p : s.Passage m es s')
    (h : s.Steady) (ht : s.link.TrackedBy t) (he : .issued channel (.write frame) ∈ es) :
    Header.parse frame.bytes = .ok ⟨.request, s'.link.config.source,
        UInt16.ofNat s'.link.buffers.writePos⟩ ∧
      frame.payload = s'.link.buffers.staged ∧
      s'.link.buffers.staged <+: frame.bytes.drop headerLength := by
  obtain ⟨issuing, rfl, -⟩ := p.issuedWrite he
  have writes : s'.link.operation.writes = true := by rw [issuing]; rfl
  have tracked := p.tracked h ht
  exact ⟨(tracked.writes writes).2, tracked.payload_eq (p.steady h).inBounds writes,
    List.take_prefix _ _⟩

theorem Passage.wroteError_eq {e : Error} (p : s.Passage m es s') (he : .wrote (.error e) ∈ es) :
    s.link.operation.writes = true ∧ es = [.wrote (.error e)] ∧
      s'.link = { s.link with operation := .idle, result := .error e }.unlock.nudge := by
  cases p with
  | writeFailed ends =>
    rcases List.mem_singleton.mp he with ⟨⟩
    exact ⟨ends.writes, rfl, rfl⟩
  | _ => simp at he

theorem Passage.wroteError {e : Error} (p : s.Passage m es s') (he : .wrote (.error e) ∈ es) :
    s.link.operation.writes = true ∧ s'.link.operation = .idle ∧
      s'.link.buffers = s.link.buffers := by
  obtain ⟨writes, -, link⟩ := p.wroteError_eq he
  rw [link]
  exact ⟨writes, rfl, rfl⟩

/-- As long as no write is asked for, staged bytes are only added to. -/
theorem Passage.staged_grows (p : s.Passage m es s') (h : s.Sound)
    (rests : s.link.operation.writes = false)
    (quiet : ∀ channel frame, .issued channel (.write frame) ∉ es) :
    s.link.buffers.staged <+: s'.link.buffers.staged ∧ s'.link.operation.writes = false := by
  have still : s.link.buffers.staged <+: s.link.buffers.staged := List.prefix_rfl
  have served (r : Request) : (s.link.service r).link.operation.writes = false := by
    obtain ⟨schedule, published, link⟩ := (s.link.serves r).link_eq
    rw [link]
    exact rests
  have busy {op : Operation} (hop : s.link.operation = op) : op.writes = false := hop ▸ rests
  cases p with
  | aside => exact ⟨still, rests⟩
  | attached => exact ⟨still, rests⟩
  | opened => exact ⟨still, rests⟩
  | served r => exact ⟨(s.link.serves r).staged_grows h.inBounds, served r⟩
  -- a flush is ruled out, and no write is outstanding that could come to its end
  | flushed => exact absurd (List.mem_singleton.mpr rfl) (quiet _ _)
  | polled => exact ⟨still, rfl⟩
  | unstarted => exact ⟨still, rests⟩
  | wakeRefused => exact ⟨still, rests⟩
  | woke => exact ⟨still, rests⟩
  | @shown unit r => exact ⟨(s.link.serves r).staged_grows h.inBounds, served r⟩
  | @shownShort unit r =>
    have grows := (s.link.serves r).staged_grows h.inBounds
    cases unit <;> exact ⟨grows, served r⟩
  | @shownNone unit => cases unit <;> exact ⟨still, rests⟩
  | @completed unit => cases unit <;> exact ⟨still, rests⟩
  | writeStarted hs issuing => nomatch busy issuing
  | readStarted => exact ⟨still, rfl⟩
  | writeEarly issuing => nomatch busy issuing
  | writeFailed ends => exact absurd (ends.writes.symm.trans rests) nofun
  | writeSent ends => exact absurd (ends.writes.symm.trans rests) nofun
  | writeChained ends => exact absurd (ends.writes.symm.trans rests) nofun
  | replyAccepted => exact ⟨still, rfl⟩
  | replyDiscarded => exact ⟨still, rfl⟩
  | readFailed => exact ⟨still, rfl⟩

theorem Steady.staged_grows_run (h : s.Steady) (rests : s.link.operation.writes = false)
    (ms : List Move) (quiet : ∀ channel frame, .issued channel (.write frame) ∉ s.history ms) :
    s.link.buffers.staged <+: (s.run ms).link.buffers.staged := by
  induction ms generalizing s with
  | nil => exact List.prefix_rfl
  | cons m ms ih =>
    have first : ∀ channel frame, .issued channel (.write frame) ∉ s.events m :=
      fun channel frame he => quiet channel frame (List.mem_append_left _ he)
    have later : ∀ channel frame, .issued channel (.write frame) ∉ (s.next m).history ms :=
      fun channel frame he => quiet channel frame (List.mem_append_right _ he)
    obtain ⟨grows, still⟩ := (passage h.toSound m).staged_grows h.toSound rests first
    exact grows.trans (ih (h.next m) still later)

/-- In every run of a new link, however its calls are nested, the bytes of write requests are sent in
order, each of them once. Every frame asked for is a whole one that carries the staged bytes. A
write that fails leaves them staged, so that the next frame begins with its payload. The count of
bytes written is that of the bytes accepted, as far as it goes. -/
theorem written_bytes_sent_in_order (config : Config) (ms : List Move) :
    let s := (ofConfig config).run ms
    let t := (ofConfig config).traffic ms
    t.sent ++ s.link.buffers.staged = t.accepted ∧
    (∀ m channel frame, .issued channel (.write frame) ∈ s.events m →
      frame.bytes.length = 508 ∧
      (∃ length, Header.parse frame.bytes = .ok ⟨.request, config.source, length⟩ ∧
        length.toNat = (s.next m).link.buffers.staged.length) ∧
      (s.next m).link.buffers.staged <+: frame.bytes.drop headerLength) ∧
    (∀ m e, .wrote (.error e) ∈ s.events m →
      (s.next m).link.buffers.staged = s.link.buffers.staged ∧
      ∃ frame, t.outstanding = some (.write frame) ∧
        ∀ later, (∀ channel other, .issued channel (.write other) ∉ (s.next m).history later) →
        ∀ m' channel other, .issued channel (.write other) ∈ ((s.next m).run later).events m' →
          frame.payload <+: other.payload) ∧
    s.link.status.snapshot.bytesWritten = UInt32.ofNat t.accepted.length := by
  intro s t
  have steady : s.Steady := steady_run config ms
  have tracked : s.link.TrackedBy t := tracked_traffic config ms
  have balances : s.link.Balances t := balances_traffic config ms
  have fixed : s.link.config = config := (steady_ofConfig config).config_run ms
  refine ⟨balances.written, ?_, ?_, ?_⟩
  · intro m channel frame he
    have p := passage steady.toSound m
    have inBounds := (steady.next m).inBounds
    obtain ⟨parse, -, starts⟩ := p.payload_issued steady tracked he
    rw [p.config_eq, fixed] at parse
    refine ⟨frame.length_bytes, ⟨_, parse, ?_⟩, starts⟩
    rw [inBounds.toNat_writePos, Buffers.length_staged inBounds]
  · intro m e he
    have p := passage steady.toSound m
    obtain ⟨writes, idle, same⟩ := p.wroteError he
    refine ⟨by rw [same], _, (tracked.writes writes).1, ?_⟩
    intro later quiet m' channel other issued
    have rests : (s.next m).link.operation.writes = false := by rw [idle]; rfl
    have next := steady.next m
    have p' := passage (next.run later).toSound m'
    have tracked' := next.tracked_run later (p.tracked steady tracked)
    have grows := next.staged_grows_run rests later quiet
    -- the frame that failed, the bytes staged since, the frame that follows
    rw [tracked.payload_eq steady.inBounds writes, ← same,
      (p'.payload_issued (next.run later) tracked' issued).2.1, (p'.issuedWrite issued).2.2]
    exact grows
  · exact steady.disciplined.counts.1.trans balances.writtenCount

-- the first write fails, and the link is opened again before the second
example :
    ((ofConfig {}).traffic
      [.call (.attach 0), .call (.service { direction := .write, buffer := [1, 2, 3] }),
        .call .runTask, .answer none, .call (.writeComplete (.error .io)),
        .call (.openUnit .output),
        .call .runTask, .answer none, .call (.writeComplete .ok)]).sent = [1, 2, 3] := by
  decide +kernel

end Session

end PolledLink
