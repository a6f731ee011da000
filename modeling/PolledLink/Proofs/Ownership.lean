import PolledLink.Proofs.Outstanding
import PolledLink.Proofs.Remarks

/-! Who holds the link lock. It is held exactly while an operation is outstanding, and there is one of
these at a time. When it comes to its end the lock is free again, unless a write that succeeded
passes it on to a poll. -/

namespace PolledLink

/-- Whether the event is an operation that comes to its end. -/
def Event.Ends : Event → Prop
  | .wrote _ | .received _ => True
  | .issued _ _ | .served _ _ => False

namespace Session

variable {s s' : Session} {m : Move} {es : List Event}

theorem Sound.attach_eq_busy (h : s.Sound) (channel : ChannelId) :
    (s.link.attach channel).1 = .error .busy ↔ s.link.operation ≠ .idle := by
  unfold Link.attach
  by_cases idle : s.link.operation = .idle
  · rw [Link.acquire?_free (h.free idle)]
    exact ⟨nofun, fun inFlight => absurd idle inFlight⟩
  · rw [Link.acquire?_held (h.busy idle)]
    exact ⟨fun _ => idle, fun _ => rfl⟩

/-- With no call stopped, an operation is either started or not begun at all. -/
theorem Sound.operation_of_stopped_nil (h : s.Sound) (none : s.stopped = []) :
    s.link.operation = .idle ∨ s.link.operation = .writing ∨ s.link.operation = .reading := by
  have stacked := h.stacked
  rw [none] at stacked
  generalize s.link.operation = op at stacked
  cases stacked with
  | idle => exact .inl rfl
  | writing => exact .inr (.inl rfl)
  | reading => exact .inr (.inr rfl)

theorem Passage.ends (p : s.Passage m es s') (h : s.Sound) {e : Event} (he : e ∈ es)
    (ends : e.Ends) :
    (s'.link.operation = .idle ∧ s'.link.locks.link = false ∧ es = [e]) ∨
      (e = .wrote .ok ∧ s'.link.operation = .issuingRead ∧ s'.link.locks.link = true ∧
        ∃ channel, es = [e, .issued channel .read]) := by
  have alone {e' : Event} (he : e ∈ [e']) : e = e' := List.mem_singleton.mp he
  cases p with
  | served => exact absurd ends (alone he ▸ id)
  | flushed => exact absurd ends (alone he ▸ id)
  | polled => exact absurd ends (alone he ▸ id)
  | shown => exact absurd ends (alone he ▸ id)
  | shownShort => exact absurd ends (alone he ▸ id)
  | writeFailed => exact .inl ⟨rfl, rfl, by rw [alone he]⟩
  | writeSent => exact .inl ⟨rfl, rfl, by rw [alone he]⟩
  | @writeChained m published outer channel chained =>
    rcases List.mem_cons.mp he with rfl | issued
    · exact .inr ⟨rfl, rfl, h.busy chained.inFlight, channel, rfl⟩
    · exact absurd ends (alone issued ▸ id)
  | replyAccepted => exact .inl ⟨rfl, rfl, by rw [alone he]⟩
  | replyDiscarded => exact .inl ⟨rfl, rfl, by rw [alone he]⟩
  | readFailed => exact .inl ⟨rfl, rfl, by rw [alone he]⟩
  | _ => exact absurd he List.not_mem_nil

theorem wrote_mem_events (writing : s.link.operation = .writing) (o : Outcome) :
    .wrote o ∈ s.events (.call (.writeComplete o)) := by
  have ends : s.completions (.call (.writeComplete o)) = [.wrote o] := if_pos writing
  rw [Session.events, ends]
  exact List.mem_cons_self

theorem received_mem_events (reading : s.link.operation = .reading) (received : Link.Received) :
    .received received ∈ s.events (.call (.readComplete received)) := by
  rw [s.events_readComplete reading received]
  exact List.mem_cons_self

/-- A write that was complete early ends once the channel has started it. -/
theorem Sound.wrote_mem_events_answer {o : Outcome} (h : s.Sound)
    (done : s.link.operation = .writeDone o) (shown : Option Request) :
    .wrote o ∈ s.events (.answer shown) := by
  have stacked := h.stacked
  rw [done] at stacked
  have ends : s.completions (.answer shown) = [.wrote o] := by
    unfold completions
    generalize s.stopped = stopped at stacked
    cases stacked with
    | writeDone =>
      rw [done]
  rw [Session.events, ends]
  exact List.mem_cons_self

/-- In every run of a new link, however its calls are nested, the link lock belongs to the one
operation that is outstanding. -/
theorem lock_held_for_one_operation (config : Config) (ms : List Move) :
    let s := (ofConfig config).run ms
    let t := (ofConfig config).traffic ms
    (s.link.locks.link = true ↔ s.link.operation ≠ .idle) ∧
    s.link.status.busy = s.link.status.inFlight ∧
    (∀ channel, (s.link.attach channel).1 = .error .busy ↔ s.link.operation ≠ .idle) ∧
    ({} : Traffic).AdmitsAll ((ofConfig config).history ms) ∧
    (s.stopped = [] →
      (s.link.operation = .idle ∧ t.outstanding = none) ∨
      (s.link.operation = .writing ∧ ∃ frame, t.outstanding = some (.write frame)) ∨
      (s.link.operation = .reading ∧ t.outstanding = some .read)) ∧
    (∀ m, ∀ e ∈ s.events m, e.Ends →
      ((s.next m).link.operation = .idle ∧ (s.next m).link.locks.link = false ∧
        s.events m = [e]) ∨
      (e = .wrote .ok ∧ (s.next m).link.operation = .issuingRead ∧
        (s.next m).link.locks.link = true ∧ ∃ channel, s.events m = [e, .issued channel .read])) ∧
    (∀ o, s.link.operation = .writing → .wrote o ∈ s.events (.call (.writeComplete o))) ∧
    (∀ received, s.link.operation = .reading →
      .received received ∈ s.events (.call (.readComplete received))) ∧
    (∀ o shown, s.link.operation = .writeDone o → .wrote o ∈ s.events (.answer shown)) ∧
    ∀ m code, Note.unexpectedOperation code ∉ (s.step m).1.notes := by
  intro s t
  have steady : s.Steady := steady_run config ms
  have tracked : s.link.TrackedBy t := tracked_traffic config ms
  refine ⟨?_, steady.held, steady.toSound.attach_eq_busy, ?_, ?_, ?_, ?_, ?_, ?_, ?_⟩
  · constructor
    · intro held idle
      exact absurd ((steady.free idle).symm.trans held) nofun
    · exact steady.busy
  · exact (steady_ofConfig config).admitsAll_history ms (tracked_ofConfig config)
  · intro none
    rcases steady.operation_of_stopped_nil none with idle | writing | reading
    · exact .inl ⟨idle, tracked.idle idle⟩
    · exact .inr (.inl ⟨writing, _, (tracked.writes (by rw [writing]; rfl)).1⟩)
    · exact .inr (.inr ⟨reading, tracked.reads (by rw [reading]; rfl)⟩)
  · intro m e he ends
    exact (passage steady.toSound m).ends steady.toSound he ends
  · exact fun o writing => wrote_mem_events writing o
  · exact fun received reading => received_mem_events reading received
  · exact fun o shown done => steady.wrote_mem_events_answer done shown
  · intro m code
    have expected := steady.toSound.expected m code
    cases m with
    | call c => exact expected
    | answer shown => exact expected

end Session

end PolledLink
