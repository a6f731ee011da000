import PolledLink.Proofs.Moves

/-! The discipline that a link keeps. An operation is outstanding only on a link that has not failed
and that owes its requests no wake. A write is outstanding only with bytes staged, and a read only
with none staged and none left to deliver. -/

namespace PolledLink

namespace Operation

def writes : Operation → Bool
  | issuingWrite | writing | writeDone _ => true
  | idle | issuingRead | reading => false

def reads : Operation → Bool
  | issuingRead | reading => true
  | idle | issuingWrite | writing | writeDone _ => false

theorem ne_idle_of_writes {op : Operation} (h : op.writes = true) : op ≠ .idle := by
  rintro rfl
  nomatch h

theorem ne_idle_of_reads {op : Operation} (h : op.reads = true) : op ≠ .idle := by
  rintro rfl
  nomatch h

end Operation

namespace Link

structure Disciplined (l : Link) : Prop where
  calm : l.operation ≠ .idle → l.failure? = none ∧ l.wakeScheduled = false
  works : l.wakeScheduled = true → l.failure? = none
  staged : l.operation.writes = true → 0 < l.buffers.writePos
  empty : l.operation.reads = true → l.buffers.writePos = 0 ∧ l.buffers.readLeft = 0
  /-- What is published lags behind in the staged bytes alone. -/
  published : ∃ writePending, l.published = { l.snapshot with writePending }

variable {l : Link}

theorem Disciplined.counts (h : l.Disciplined) :
    l.status.snapshot.bytesWritten = l.buffers.bytesWritten ∧
      l.status.snapshot.bytesRead = l.buffers.bytesRead := by
  obtain ⟨writePending, published⟩ := h.published
  unfold status
  rw [published]
  exact ⟨rfl, rfl⟩

/-- With no operation outstanding and the counts just published. -/
theorem Disciplined.of_idle (idle : l.operation = .idle) (published : l.published = l.snapshot)
    (works : l.wakeScheduled = true → l.failure? = none) : l.Disciplined where
  calm inFlight := absurd idle inFlight
  works := works
  staged writes := absurd idle (Operation.ne_idle_of_writes writes)
  empty reads := absurd idle (Operation.ne_idle_of_reads reads)
  published := ⟨l.buffers.writePos, published⟩

/-- What keeps the task from a wake pass. -/
theorem of_nextAction_ne_wake (h : l.nextAction ≠ .wake) :
    l.failure? = none ∧ l.wakeScheduled = false := by
  cases action : l.nextAction with
  | flush =>
    obtain ⟨works, _, calm⟩ := nextAction_eq_flush.mp action
    exact ⟨works, calm⟩
  | poll =>
    obtain ⟨works, _, _, calm⟩ := nextAction_eq_poll.mp action
    exact ⟨works, calm⟩
  | wake => exact absurd action h

theorem Serves.published {r : Request} {sv : Serviced} (h : l.Serves r sv) :
    sv.link = l ∨ sv.link.published = sv.link.snapshot := by
  cases h with
  | busy => exact .inl rfl
  | failed => exact .inr rfl
  | finished => exact .inr rfl
  | unfinished => exact .inr rfl

theorem Serves.eq_of_held {r : Request} {sv : Serviced} (h : l.Serves r sv)
    (held : l.locks.link = true) : sv.link = l ∧ sv.request = r := by
  cases h with
  | busy => exact ⟨rfl, rfl⟩
  | failed free => exact absurd (free.symm.trans held) nofun
  | finished free => exact absurd (free.symm.trans held) nofun
  | unfinished free => exact absurd (free.symm.trans held) nofun

theorem Disciplined.serves {r : Request} {sv : Serviced} (h : l.Disciplined)
    (serves : l.Serves r sv) (held : l.operation ≠ .idle → l.locks.link = true) :
    sv.link.Disciplined := by
  -- a link with an operation outstanding is busy, and then nothing changes
  by_cases idle : l.operation = .idle
  · rcases serves.published with same | published
    · rw [same]
      exact h
    · obtain ⟨schedule, snapshot, link⟩ := serves.link_eq
      refine .of_idle ?_ published ?_
      · rw [link]
        exact idle
      · rw [link]
        exact h.works
  · rw [(serves.eq_of_held (held idle)).1]
    exact h

theorem Disciplined.passOn (h : l.Disciplined) (unit : LinkUnit) :
    (l.passOn unit).link.Disciplined := by
  cases unit with
  | input => exact h
  | output => exact ⟨h.calm, h.works, h.staged, h.empty, h.published⟩

end Link

namespace Session

variable {s s' : Session} {m : Move} {es : List Event}

theorem EndsWrite.writes {o : Outcome} {published : Snapshot} {outer : List Demand}
    (h : s.EndsWrite m o published outer) : s.link.operation.writes = true := by
  cases h with
  | late writing => rw [writing]; rfl
  | heldOver done _ => rw [done]; rfl

theorem EndsWrite.published_eq {o : Outcome} {published : Snapshot} {outer : List Demand}
    (h : s.EndsWrite m o published outer) (hd : s.link.Disciplined) :
    ∃ writePending, published = { s.link.snapshot with writePending } := by
  cases h with
  | late => exact hd.published
  | heldOver => exact ⟨s.link.buffers.writePos, rfl⟩

theorem Passage.disciplined (p : s.Passage m es s') (h : s.Sound) (hd : s.link.Disciplined) :
    s'.link.Disciplined := by
  cases p with
  | aside schedule isOpen => exact ⟨hd.calm, hd.works, hd.staged, hd.empty, hd.published⟩
  | attached idle => exact .of_idle idle rfl hd.works
  | opened schedule configured =>
    exact ⟨fun inFlight => ⟨rfl, (hd.calm inFlight).2⟩, fun _ => rfl, hd.staged, hd.empty,
      hd.published⟩
  | served r => exact hd.serves (s.link.serves r) h.busy
  | flushed runs idle action hc =>
    obtain ⟨works, staged, calm⟩ := Link.nextAction_eq_flush.mp action
    exact ⟨fun _ => ⟨works, calm⟩, fun _ => works, fun _ => staged, nofun, hd.published⟩
  | polled runs idle action hc =>
    obtain ⟨works, staged, left, calm⟩ := Link.nextAction_eq_poll.mp action
    exact ⟨fun _ => ⟨works, calm⟩, fun _ => works, nofun, fun _ => ⟨staged, left⟩, hd.published⟩
  | unstarted runs idle action hc =>
    have calm := (Link.of_nextAction_ne_wake action).2
    exact .of_idle idle rfl fun scheduled => absurd (calm.symm.trans scheduled) nofun
  | wakeRefused runs idle action hw =>
    exact .of_idle idle rfl fun scheduled => hd.works (Bool.and_eq_true_iff.mp scheduled).1
  | woke runs idle action hw =>
    exact .of_idle idle rfl fun scheduled => hd.works (Bool.and_eq_true_iff.mp scheduled).1
  | @shown unit r outer hs => exact hd.serves (s.link.serves r) h.busy
  | @shownShort unit r outer hs => exact (hd.serves (s.link.serves r) h.busy).passOn unit
  | @shownNone unit => exact hd.passOn unit
  | @completed unit => exact hd.passOn unit
  | writeStarted hs issuing =>
    have inFlight : s.link.operation ≠ .idle := by rw [issuing]; nofun
    exact ⟨fun _ => hd.calm inFlight, hd.works, fun _ => hd.staged (by rw [issuing]; rfl), nofun,
      ⟨s.link.buffers.writePos, rfl⟩⟩
  | readStarted hs issuing =>
    have inFlight : s.link.operation ≠ .idle := by rw [issuing]; nofun
    exact ⟨fun _ => hd.calm inFlight, hd.works, nofun, fun _ => hd.empty (by rw [issuing]; rfl),
      ⟨s.link.buffers.writePos, rfl⟩⟩
  | writeEarly issuing =>
    have inFlight : s.link.operation ≠ .idle := by rw [issuing]; nofun
    exact ⟨fun _ => hd.calm inFlight, hd.works, fun _ => hd.staged (by rw [issuing]; rfl), nofun,
      hd.published⟩
  | writeFailed ends =>
    have calm := (hd.calm ends.inFlight).2
    exact .of_idle rfl rfl fun scheduled => absurd (calm.symm.trans scheduled) nofun
  | writeSent ends => exact .of_idle rfl rfl fun _ => rfl
  | writeChained ends empty calm hc =>
    -- nothing is staged any more, and the poll was chained since nothing is left to deliver
    exact ⟨fun _ => ⟨rfl, calm⟩, fun _ => rfl, nofun, fun _ => ⟨rfl, empty⟩, ends.published_eq hd⟩
  | replyAccepted reading => exact .of_idle rfl rfl fun _ => rfl
  | replyDiscarded reading =>
    have calm := (hd.calm (by rw [reading]; nofun)).2
    exact .of_idle rfl rfl fun scheduled => absurd (calm.symm.trans scheduled) nofun
  | readFailed reading =>
    have calm := (hd.calm (by rw [reading]; nofun)).2
    exact .of_idle rfl rfl fun scheduled => absurd (calm.symm.trans scheduled) nofun

/-- What holds of every session that a new link can come to. -/
structure Steady (s : Session) : Prop extends s.Sound where
  disciplined : s.link.Disciplined

theorem steady_ofConfig (config : Config) : (ofConfig config).Steady where
  toSound := sound_ofConfig config
  disciplined := .of_idle rfl (by cases config with | mk _ _ report _ => cases report <;> rfl) nofun

theorem Passage.steady (p : s.Passage m es s') (h : s.Steady) : s'.Steady :=
  ⟨p.sound h.toSound, p.disciplined h.toSound h.disciplined⟩

theorem Steady.next (h : s.Steady) (m : Move) : (s.next m).Steady :=
  (passage h.toSound m).steady h

theorem Steady.run (h : s.Steady) (ms : List Move) : (s.run ms).Steady := by
  induction ms generalizing s with
  | nil => exact h
  | cons m ms ih => exact ih (h.next m)

theorem steady_run (config : Config) (ms : List Move) : ((ofConfig config).run ms).Steady :=
  (steady_ofConfig config).run ms

theorem Steady.config_run (h : s.Steady) (ms : List Move) :
    (s.run ms).link.config = s.link.config := by
  induction ms generalizing s with
  | nil => rfl
  | cons m ms ih => exact (ih (h.next m)).trans (passage h.toSound m).config_eq

/-- What holds of the traffic before a run, and is kept by every passage, holds after it. -/
theorem Steady.keeps {P : Session → Traffic → Prop}
    (step : ∀ {s s' : Session} {m : Move} {es : List Event} {t : Traffic},
      s.Steady → s.Passage m es s' → P s t → P s' (t.noteAll es))
    (h : s.Steady) (ms : List Move) {t : Traffic} (start : P s t) :
    P (s.run ms) (t.noteAll (s.history ms)) := by
  induction ms generalizing s t with
  | nil => exact start
  | cons m ms ih =>
    rw [history, Traffic.noteAll_append]
    exact ih (h.next m) (step h (passage h.toSound m) start)

end Session

end PolledLink
