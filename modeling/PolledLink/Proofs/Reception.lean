import PolledLink.Proofs.History

/-! Taking in what a read has brought. A reply is loaded, and anything else leaves the bytes as they
are, whether it is the channel or the frame that is at fault. -/

namespace PolledLink.Link

variable {received : Received}

/-- A reply that was received whole carries all the bytes that it claims to. -/
theorem Received.length_payload {r : Reply} (h : received.reply = .ok r) :
    r.payload.length = r.buffered := by
  cases received with
  | error e => nomatch h
  | ok bs =>
    simp only [Received.reply, Reply.decode, Reply.read] at h
    cases hp : Header.parse bs with
    | error e =>
      rw [hp] at h
      nomatch h
    | ok header =>
      simp only [hp] at h
      split at h
      · nomatch h
      · split at h
        · nomatch h
        · rename_i whole
          obtain rfl := Except.ok.inj h
          exact List.length_take_of_le (Nat.le_of_not_lt whole)

theorem Received.payload_eq {r : Reply} (h : received.reply = .ok r) :
    received.payload = r.payload := by
  rw [Received.payload, h]

theorem Received.payload_eq_nil {e : Error} (h : received.reply = .error e) :
    received.payload = [] := by
  rw [Received.payload, h]

theorem receive_accepted {r : Reply} (l : Link) (h : received.reply = .ok r) :
    ∃ notes, l.receive received =
      (.ok,
        { l with buffers := l.buffers.load r, wakeScheduled := true, discards := 0, result := .ok },
        notes) := by
  cases received with
  | error e => nomatch h
  | ok bs =>
    rw [Received.reply, Reply.decode] at h
    cases hread : Reply.read bs with
    | error rejection =>
      rw [hread] at h
      nomatch h
    | ok reply =>
      rw [hread] at h
      obtain rfl : reply = r := Except.ok.inj h
      simp only [receive, hread]
      exact ⟨_, rfl⟩

theorem receive_refused {e : Error} (l : Link) (h : received.reply = .error e) :
    ∃ notes, l.receive received =
      (.error e, if e.isTransient then (l.discard e).1 else { l with result := .error e }, notes) := by
  -- an error of the channel and a rejection of the bytes are dealt with alike
  have split (notes : List Note) : ∃ later,
      (if e.isTransient then (Outcome.error e, (l.discard e).1, notes ++ (l.discard e).2)
        else (.error e, { l with result := .error e }, notes ++ [.readFailed e])) =
      (Outcome.error e, if e.isTransient then (l.discard e).1 else { l with result := .error e },
        later) := by
    split <;> exact ⟨_, rfl⟩
  cases received with
  | error f =>
    obtain rfl : f = e := Except.error.inj h
    exact split []
  | ok bs =>
    rw [Received.reply, Reply.decode] at h
    cases hread : Reply.read bs with
    | ok reply =>
      rw [hread] at h
      nomatch h
    | error rejection =>
      rw [hread] at h
      obtain rfl : rejection.error = e := Except.error.inj h
      simp only [receive, hread]
      exact split rejection.notes

/-- The error that a discard leaves behind. At the limit it is no longer that of the reply. -/
def discardError (l : Link) (e : Error) : Error :=
  let limit := l.config.wrongTagLimit.toNat
  if 0 < limit ∧ limit ≤ min (l.discards + 1) maxDiscards then .io else e

/-- A discard shows in the count and in the result alone. -/
theorem discard_eq (l : Link) (e : Error) :
    (l.discard e).1 =
      { l with
        discards := min (l.discards + 1) maxDiscards, result := .error (l.discardError e) } := by
  simp only [discard, discardError]
  split
  · rfl
  · rfl

end PolledLink.Link

namespace PolledLink.Session

/-- A read that brings no reply leaves the bytes alone, and whoever delivers its outcome is told
why. -/
theorem advance_refused {s : Session} {received : Link.Received} {e : Error}
    (reading : s.link.operation = .reading) (refused : received.reply = .error e) :
    ∃ notes, s.advance (.call (.readComplete received)) =
      ⟨{ s.link with
          operation := .idle
          discards :=
            if e.isTransient then min (s.link.discards + 1) Link.maxDiscards else s.link.discards
          result := .error (if e.isTransient then s.link.discardError e else e) }.unlock.nudge,
        notes, none, .returned (.outcome (.error e))⟩ := by
  obtain ⟨notes, receives⟩ := Link.receive_refused { s.link with operation := .idle } refused
  rw [Link.discard_eq] at receives
  refine ⟨notes, ?_⟩
  simp only [advance, Link.call, Link.readComplete, reading, receives]
  cases e.isTransient <;> rfl

end PolledLink.Session
