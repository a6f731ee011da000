import PolledLink.Proofs.Balance

/-! The stream of bytes read. The payloads of the replies that were accepted go to read requests in
order, without loss or repetition. A reply is loaded only where nothing is left of the last one, since
it was asked for with nothing left and no request is served while it is on its way. -/

namespace PolledLink.Session

variable {s s' : Session} {m : Move} {es : List Event}

theorem Passage.loaded {received : Link.Received} {r : Reply} (p : s.Passage m es s')
    (h : s.Steady) (he : .received received ∈ es) (hr : received.reply = .ok r) :
    s.link.buffers.readLeft = 0 ∧ s'.link.buffers.undelivered = r.payload := by
  cases p with
  | @replyAccepted received' r' reading accepted =>
    rcases List.mem_singleton.mp he with ⟨⟩
    obtain rfl : r' = r := Except.ok.inj (accepted.symm.trans hr)
    have reads : s.link.operation.reads = true := by rw [reading]; rfl
    have whole : r'.payload.length ≤ r'.buffered := Nat.le_of_eq (Link.Received.length_payload hr)
    refine ⟨(h.disciplined.empty reads).2, ?_⟩
    exact (Buffers.undelivered_load _ r').trans (List.take_of_length_le whole)
  | replyDiscarded reading refused =>
    rcases List.mem_singleton.mp he with ⟨⟩
    nomatch refused.symm.trans hr
  | readFailed reading refused =>
    rcases List.mem_singleton.mp he with ⟨⟩
    nomatch refused.symm.trans hr
  | _ => simp at he

theorem Passage.refused {received : Link.Received} {e : Error} (p : s.Passage m es s')
    (he : .received received ∈ es) (hr : received.reply = .error e) :
    s'.link.buffers = s.link.buffers := by
  cases p with
  | replyAccepted reading accepted =>
    rcases List.mem_singleton.mp he with ⟨⟩
    nomatch accepted.symm.trans hr
  | replyDiscarded => rfl
  | readFailed => rfl
  | _ => simp at he

/-- In every run of a new link, however its calls are nested and whatever is received, the payloads of
the replies accepted are delivered in order, each byte of them once. A reply that is accepted finds
nothing left to deliver, and one that is not changes no byte. The count of bytes read is that of the
bytes delivered, as far as it goes. -/
theorem received_bytes_delivered_in_order (config : Config) (ms : List Move) :
    let s := (ofConfig config).run ms
    let t := (ofConfig config).traffic ms
    t.received = t.delivered ++ s.link.buffers.undelivered ∧
    (∀ m received r, .received received ∈ s.events m → received.reply = .ok r →
      s.link.buffers.readLeft = 0 ∧ t.received = t.delivered ∧
      (s.next m).link.buffers.undelivered = r.payload) ∧
    (∀ m received e, .received received ∈ s.events m → received.reply = .error e →
      (s.next m).link.buffers = s.link.buffers) ∧
    s.link.status.snapshot.bytesRead = UInt32.ofNat t.delivered.length := by
  intro s t
  have steady : s.Steady := steady_run config ms
  have balances : s.link.Balances t := balances_traffic config ms
  refine ⟨balances.read, ?_, ?_, ?_⟩
  · intro m received r he hr
    obtain ⟨empty, loaded⟩ := (passage steady.toSound m).loaded steady he hr
    have none : s.link.buffers.undelivered = [] := by
      rw [Buffers.undelivered, empty, Block.slice_zero]
    refine ⟨empty, ?_, loaded⟩
    rw [balances.read, none, List.append_nil]
  · intro m received e he hr
    exact (passage steady.toSound m).refused he hr
  · exact steady.disciplined.counts.2.trans balances.readCount

end PolledLink.Session
