import PolledLink.Proofs.Balance
import PolledLink.Proofs.Ownership

/-! Staged bytes go out before anything is read. What the periodic task saw when it chose an operation
still holds when that operation comes to its end, since in the meantime the link lock keeps the bytes
as they are. -/

namespace PolledLink

namespace Link

variable {l : Link} {t : Traffic}

/-- While a read is outstanding there are no bytes to send or to deliver. -/
theorem Disciplined.empty_of_reads (h : l.Disciplined) (reads : l.operation.reads = true) :
    l.buffers.staged = [] ∧ l.buffers.undelivered = [] := by
  obtain ⟨staged, left⟩ := h.empty reads
  unfold Buffers.staged Buffers.undelivered
  rw [staged, left, Block.slice_zero, Block.slice_zero]
  exact ⟨rfl, rfl⟩

theorem Disciplined.length_staged_of_writes (h : l.Disciplined) (hb : l.buffers.InBounds)
    (writes : l.operation.writes = true) :
    1 ≤ l.buffers.staged.length ∧ l.buffers.staged.length ≤ 500 := by
  rw [Buffers.length_staged hb]
  exact ⟨h.staged writes, hb.writePos_le⟩

/-- With nothing staged all that was accepted has been sent. -/
theorem Balances.sent_eq (h : l.Balances t) (empty : l.buffers.staged = []) :
    t.sent = t.accepted := by
  have written := h.written
  rw [empty, List.append_nil] at written
  exact written

end Link

namespace Session

variable {s s' : Session} {m : Move} {es : List Event}

theorem Passage.inFlight_of_issued {channel : ChannelId} {issue : Issue} (p : s.Passage m es s')
    (he : .issued channel issue ∈ es) : s'.link.operation ≠ .idle := by
  cases issue with
  | write frame =>
    rw [(p.issuedWrite he).1]
    nofun
  | read =>
    rw [p.issuedRead he]
    nofun

/-- What an operation in flight leaves as it is. -/
structure Undisturbed (before after : Session) : Prop where
  inFlight : after.link.operation ≠ .idle
  buffers : after.link.buffers = before.link.buffers
  wakeScheduled : after.link.wakeScheduled = before.link.wakeScheduled

namespace Undisturbed

theorem refl (inFlight : s.link.operation ≠ .idle) : Undisturbed s s := ⟨inFlight, rfl, rfl⟩

theorem trans {s'' : Session} (first : Undisturbed s s') (second : Undisturbed s' s'') :
    Undisturbed s s'' where
  inFlight := second.inFlight
  buffers := second.buffers.trans first.buffers
  wakeScheduled := second.wakeScheduled.trans first.wakeScheduled

end Undisturbed

/-- No move disturbs an operation in flight other than by ending it. -/
theorem Passage.undisturbed (p : s.Passage m es s') (h : s.Sound)
    (inFlight : s.link.operation ≠ .idle) (quiet : ∀ e ∈ es, ¬ e.Ends) : Undisturbed s s' := by
  have served (r : Request) : (s.link.service r).link = s.link :=
    ((s.link.serves r).eq_of_held (h.busy inFlight)).1
  have lasts {e : Event} (he : e ∈ es) (ends : e.Ends) : Undisturbed s s' :=
    absurd ends (quiet e he)
  cases p with
  | aside => exact ⟨inFlight, rfl, rfl⟩
  | attached idle => exact absurd idle inFlight
  | opened => exact ⟨inFlight, rfl, rfl⟩
  | served r =>
    rw [served r]
    exact ⟨inFlight, rfl, rfl⟩
  | flushed runs idle => exact absurd idle inFlight
  | polled runs idle => exact absurd idle inFlight
  | unstarted runs idle => exact absurd idle inFlight
  | wakeRefused runs idle => exact absurd idle inFlight
  | woke runs idle => exact absurd idle inFlight
  | @shown unit r =>
    rw [served r]
    exact ⟨inFlight, rfl, rfl⟩
  | @shownShort unit r =>
    rw [served r]
    cases unit <;> exact ⟨inFlight, rfl, rfl⟩
  | @shownNone unit => cases unit <;> exact ⟨inFlight, rfl, rfl⟩
  | @completed unit => cases unit <;> exact ⟨inFlight, rfl, rfl⟩
  | writeStarted => exact ⟨nofun, rfl, rfl⟩
  | readStarted => exact ⟨nofun, rfl, rfl⟩
  | writeEarly => exact ⟨nofun, rfl, rfl⟩
  | writeFailed => exact lasts List.mem_cons_self trivial
  | writeSent => exact lasts List.mem_cons_self trivial
  | writeChained => exact lasts List.mem_cons_self trivial
  | replyAccepted => exact lasts List.mem_cons_self trivial
  | replyDiscarded => exact lasts List.mem_cons_self trivial
  | readFailed => exact lasts List.mem_cons_self trivial

theorem Sound.undisturbed_run (h : s.Sound) (inFlight : s.link.operation ≠ .idle) (ms : List Move)
    (quiet : ∀ e ∈ s.history ms, ¬ e.Ends) : Undisturbed s (s.run ms) := by
  induction ms generalizing s with
  | nil => exact .refl inFlight
  | cons m ms ih =>
    have p := passage h m
    have first : Undisturbed s (s.next m) :=
      p.undisturbed h inFlight fun e he => quiet e (List.mem_append_left _ he)
    have rest : Undisturbed (s.next m) ((s.next m).run ms) :=
      ih (p.sound h) first.inFlight fun e he => quiet e (List.mem_append_right _ he)
    exact first.trans rest

/-- In every run of a new link, however its calls are nested, a read is asked for only when all the
bytes accepted have been sent and all those received have been delivered, and a write only with
bytes staged. From then on until the operation comes to its end the bytes stay as they are. A wake
is owed only while no operation is outstanding. -/
theorem flushed_before_polled (config : Config) (ms : List Move) :
    let s := (ofConfig config).run ms
    (∀ m channel, .issued channel .read ∈ s.events m →
      let t := (ofConfig config).traffic (ms ++ [m])
      (s.next m).link.failure? = none ∧ (s.next m).link.wakeScheduled = false ∧
      (s.next m).link.buffers.staged = [] ∧ t.sent = t.accepted ∧
      (s.next m).link.buffers.undelivered = []) ∧
    (∀ m channel frame, .issued channel (.write frame) ∈ s.events m →
      (s.next m).link.failure? = none ∧ (s.next m).link.wakeScheduled = false ∧
      1 ≤ (s.next m).link.buffers.staged.length ∧
      (s.next m).link.buffers.staged.length ≤ 500) ∧
    (∀ m channel issue, .issued channel issue ∈ s.events m →
      ∀ later, (∀ e ∈ (s.next m).history later, ¬ e.Ends) →
      Undisturbed (s.next m) ((s.next m).run later) ∧
      ((s.next m).run later).link.failure? = none) ∧
    (s.link.wakeScheduled = true → s.link.operation = .idle ∧ s.link.failure? = none) := by
  intro s
  have steady : s.Steady := steady_run config ms
  refine ⟨?_, ?_, ?_, ?_⟩
  · intro m channel he t
    have next : (ofConfig config).run (ms ++ [m]) = s.next m := run_append _ ms [m]
    have balances : (s.next m).link.Balances t := next ▸ balances_traffic config (ms ++ [m])
    have disciplined := (steady.next m).disciplined
    have issuing := (passage steady.toSound m).issuedRead he
    obtain ⟨works, calm⟩ := disciplined.calm (by rw [issuing]; nofun)
    obtain ⟨staged, undelivered⟩ := disciplined.empty_of_reads (by rw [issuing]; rfl)
    exact ⟨works, calm, staged, balances.sent_eq staged, undelivered⟩
  · intro m channel frame he
    have next := steady.next m
    have issuing := ((passage steady.toSound m).issuedWrite he).1
    obtain ⟨works, calm⟩ := next.disciplined.calm (by rw [issuing]; nofun)
    exact ⟨works, calm, next.disciplined.length_staged_of_writes next.inBounds (by rw [issuing]; rfl)⟩
  · intro m channel issue he later quiet
    have next := steady.next m
    have inFlight := (passage steady.toSound m).inFlight_of_issued he
    have undisturbed := next.undisturbed_run inFlight later quiet
    exact ⟨undisturbed, ((next.run later).disciplined.calm undisturbed.inFlight).1⟩
  · intro scheduled
    refine ⟨?_, steady.disciplined.works scheduled⟩
    apply Decidable.byContradiction
    intro inFlight
    have calm := (steady.disciplined.calm inFlight).2
    exact absurd (calm.symm.trans scheduled) nofun

end Session

end PolledLink
