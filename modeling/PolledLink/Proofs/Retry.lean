import PolledLink.Proofs.Ownership
import PolledLink.Proofs.Publication
import PolledLink.Proofs.WriteStream

/-! Operations that fail. None of the bytes that the link holds are lost by it, and the error shows
in the result alone. If the fault is one that passes, the next run of the periodic task asks for the
same operation again. -/

namespace PolledLink

/-- Whether bytes of a write request are staged. -/
def Event.stages : Event → Bool
  | .served before after => before.direction = .write && !(after.movedSince before).isEmpty
  | _ => false

namespace Buffers

variable {b : Buffers} {r : Request}

theorem exchange_still (hd : r.direction = .write)
    (still : (b.exchange r).2.1.movedSince r = []) : (b.exchange r).1 = b := by
  rw [movedSince_exchange_write hd, List.take_eq_nil_iff] at still
  have none : min r.rest.length b.writeSpace = 0 := by
    rcases still with full | empty
    · rw [full, Nat.min_zero]
    · rw [empty, List.length_nil, Nat.zero_min]
  simp only [exchange, hd, stage, none, List.take_zero, Block.overlay_nil, Nat.add_zero]
  exact congrArg (fun count => { b with bytesWritten := count }) (UInt32.add_zero _)

end Buffers

namespace Link

/-- What the periodic task asks for, unless it makes a wake pass. -/
inductive Intends (l : Link) : Issue → Prop
  | write (action : l.nextAction = .flush) :
    Intends l (.write (l.buffers.stamped l.config.source).tx)
  | read (action : l.nextAction = .poll) : Intends l .read

/-- The link is left with all that the periodic task goes by. -/
structure Alike (before after : Link) : Prop where
  operation : after.operation = before.operation
  attached : before.channel ≠ none → after.channel ≠ none
  works : before.failure? = none → after.failure? = none
  wakeScheduled : after.wakeScheduled = before.wakeScheduled
  config : after.config = before.config
  tx : after.buffers.tx = before.buffers.tx
  writePos : after.buffers.writePos = before.buffers.writePos
  readLeft : after.buffers.readLeft ≤ before.buffers.readLeft

variable {l l' : Link} {issue : Issue}

namespace Alike

theorem refl (l : Link) : l.Alike l := ⟨rfl, id, id, rfl, rfl, rfl, rfl, Nat.le_refl _⟩

theorem trans {l'' : Link} (first : l.Alike l') (second : l'.Alike l'') : l.Alike l'' where
  operation := second.operation.trans first.operation
  attached := second.attached ∘ first.attached
  works := second.works ∘ first.works
  wakeScheduled := second.wakeScheduled.trans first.wakeScheduled
  config := second.config.trans first.config
  tx := second.tx.trans first.tx
  writePos := second.writePos.trans first.writePos
  readLeft := Nat.le_trans second.readLeft first.readLeft

theorem passOn (h : l.Alike l') (unit : LinkUnit) : l.Alike (l'.passOn unit).link := by
  cases unit with
  | input => exact h
  | output => exact { h with }

theorem intends (h : l.Alike l') (i : l.Intends issue) : l'.Intends issue := by
  cases i with
  | write action =>
    obtain ⟨works, staged, calm⟩ := nextAction_eq_flush.mp action
    have action' : l'.nextAction = .flush :=
      nextAction_eq_flush.mpr ⟨h.works works, by rwa [h.writePos], h.wakeScheduled.trans calm⟩
    have intends := Intends.write action'
    unfold Buffers.stamped at intends ⊢
    rwa [h.tx, h.writePos, h.config] at intends
  | read action =>
    obtain ⟨works, staged, left, calm⟩ := nextAction_eq_poll.mp action
    exact .read <| nextAction_eq_poll.mpr ⟨h.works works, h.writePos.trans staged,
      Nat.eq_zero_of_le_zero (Nat.le_trans h.readLeft (Nat.le_of_eq left)),
      h.wakeScheduled.trans calm⟩

end Alike

/-- Serving a request changes none of it, unless bytes are staged. -/
theorem Serves.alike {r : Request} {sv : Serviced} (h : l.Serves r sv)
    (still : (Event.served r sv.request).stages = false) : l.Alike sv.link := by
  have moves (d : r.direction = .write) : sv.request.movedSince r = [] := by
    rw [Event.stages, decide_eq_true d, Bool.true_and, Bool.not_eq_false'] at still
    exact List.isEmpty_iff.mp still
  have exchanged (same : sv.request.movedSince r = (l.buffers.exchange r).2.1.movedSince r) :
      (l.buffers.exchange r).1.tx = l.buffers.tx ∧
        (l.buffers.exchange r).1.writePos = l.buffers.writePos ∧
        (l.buffers.exchange r).1.readLeft ≤ l.buffers.readLeft := by
    cases hd : r.direction with
    | write =>
      rw [Buffers.exchange_still hd (same.symm.trans (moves hd))]
      exact ⟨rfl, rfl, Nat.le_refl _⟩
    | read =>
      simp only [Buffers.exchange, hd]
      exact ⟨rfl, rfl, Nat.sub_le _ _⟩
  cases h with
  | busy => exact .refl l
  | failed free =>
    simp only [unlock, publish, release_of_free free]
    exact { Alike.refl l with }
  | finished free works hx =>
    rw [hx] at exchanged
    obtain ⟨tx, writePos, readLeft⟩ := exchanged rfl
    exact ⟨rfl, id, id, rfl, rfl, tx, writePos, readLeft⟩
  | unfinished free works hx =>
    rw [hx] at exchanged
    obtain ⟨tx, writePos, readLeft⟩ := exchanged rfl
    exact ⟨rfl, id, id, rfl, rfl, tx, writePos, readLeft⟩

/-- The frame that a write is outstanding for has the header with which it would be sent again. -/
def Stamped (l : Link) : Prop :=
  l.operation.writes = true → l.buffers.stamped l.config.source = l.buffers

/-- The link as it is left by an operation that has failed. -/
def setBack (l : Link) (e : Error) (discards : Nat) : Link :=
  { l with
    operation := .idle
    locks := { l.locks with link := false }
    schedule := { l.schedule with countdown := 1 }
    result := .error e
    discards }

end Link

namespace Session

/-- Whether the move has the periodic task run. -/
def runsTask (s : Session) : Move → Bool
  | .call .runTask => true
  | .call .onTimer => s.link.schedule.tick.1
  | _ => false

/-- The periodic task does not run, and no bytes are staged. -/
def Dormant (s : Session) : List Move → Prop
  | [] => True
  | m :: ms =>
    s.runsTask m = false ∧ (s.events m).all (!·.stages) = true ∧ (s.next m).Dormant ms

instance decidableDormant (s : Session) : (ms : List Move) → Decidable (s.Dormant ms)
  | [] => isTrue trivial
  | m :: ms =>
    have := decidableDormant (s.next m) ms
    inferInstanceAs (Decidable (s.runsTask m = false ∧ (s.events m).all (!·.stages) = true ∧ _))

/-- As soon as the periodic task runs again it asks for the operation, unless bytes have been staged
meanwhile. -/
def Retries (s : Session) (issue : Issue) : Prop :=
  ∀ later m, s.Dormant later → (s.run later).runsTask m = true →
    ∃ channel, (s.run later).link.channel = some channel ∧
      (s.run later).events m = [.issued channel issue]

variable {s s' : Session} {m : Move} {es : List Event} {e : Error} {issue : Issue}

theorem runsTask_iff : s.runsTask m = true ↔ ∃ schedule, s.RunsTask m schedule := by
  constructor
  · intro runs
    unfold runsTask at runs
    split at runs
    · exact ⟨_, .asked⟩
    · exact ⟨_, .timed (Prod.ext runs rfl)⟩
    · nomatch runs
  · rintro ⟨schedule, runs⟩
    cases runs with
    | asked => rfl
    | timed tick => exact congrArg Prod.fst tick

/-- With no operation outstanding only the periodic task changes what it goes by itself. -/
theorem Passage.alike (p : s.Passage m es s') (idle : s.link.operation = .idle)
    (rests : s.runsTask m = false) (still : es.all (!·.stages) = true) :
    s.link.Alike s'.link := by
  have served {r : Request} (he : .served r (s.link.service r).request ∈ es) :
      s.link.Alike (s.link.service r).link :=
    (s.link.serves r).alike (by simpa using List.all_eq_true.mp still _ he)
  have runs {schedule : Schedule} {P : Prop} (h : s.RunsTask m schedule) : P :=
    absurd (rests.symm.trans (runsTask_iff.mpr ⟨schedule, h⟩)) nofun
  have busy {op : Operation} {P : Prop} (here : s.link.operation = op) (outstanding : op ≠ .idle) :
      P := absurd (here.symm.trans idle) outstanding
  have ended {o : Outcome} {published : Snapshot} {outer : List Demand} {P : Prop}
      (ends : s.EndsWrite m o published outer) : P := absurd idle ends.inFlight
  cases p with
  | aside => exact { Link.Alike.refl s.link with }
  | attached => exact { Link.Alike.refl s.link with attached := fun _ => nofun }
  | opened => exact { Link.Alike.refl s.link with works := fun _ => rfl }
  | served r => exact served List.mem_cons_self
  | flushed h => exact runs h
  | polled h => exact runs h
  | unstarted h => exact runs h
  | wakeRefused h => exact runs h
  | woke h => exact runs h
  | @shown unit r => exact served List.mem_cons_self
  | @shownShort unit r => exact (served List.mem_cons_self).passOn unit
  | @shownNone unit => exact (Link.Alike.refl s.link).passOn unit
  | @completed unit => exact (Link.Alike.refl s.link).passOn unit
  | writeStarted _ issuing => exact busy issuing nofun
  | readStarted _ issuing => exact busy issuing nofun
  | writeEarly issuing => exact busy issuing nofun
  | writeFailed ends => exact ended ends
  | writeSent ends => exact ended ends
  | writeChained ends => exact ended ends
  | replyAccepted reading => exact busy reading nofun
  | replyDiscarded reading => exact busy reading nofun
  | readFailed reading => exact busy reading nofun

theorem Sound.alike_run (h : s.Sound) (idle : s.link.operation = .idle) (ms : List Move)
    (dormant : s.Dormant ms) : s.link.Alike (s.run ms).link := by
  induction ms generalizing s with
  | nil => exact .refl s.link
  | cons m ms ih =>
    obtain ⟨rests, still, later⟩ := dormant
    have p := passage h m
    have first := p.alike idle rests still
    exact first.trans (ih (p.sound h) (first.operation.trans idle) later)

/-- The periodic task asks for what it goes by. -/
theorem Sound.events_task {schedule : Schedule} {channel : ChannelId} (h : s.Sound)
    (idle : s.link.operation = .idle) (hc : s.link.channel = some channel)
    (i : s.link.Intends issue) (runs : s.RunsTask m schedule) :
    s.events m = [.issued channel issue] := by
  obtain ⟨asked, quiet, -⟩ := runs.eq_runTask
  let l : Link := { s.link with schedule }
  have free : l.locks.link = false := h.free idle
  cases i with
  | write action =>
    have task := Link.runTask_flush (l := l) free action hc h.inBounds
    rw [events_eq_issues asked quiet (by rw [task]; rfl), task]
    rfl
  | read action =>
    have task := Link.runTask_poll (l := l) free action hc
    rw [events_eq_issues asked quiet (by rw [task]; rfl), task]
    rfl

theorem Steady.retries (h : s.Steady) (idle : s.link.operation = .idle)
    (attached : s.link.channel ≠ none) (i : s.link.Intends issue) : s.Retries issue := by
  intro later m dormant runs
  have alike := h.alike_run idle later dormant
  obtain ⟨channel, hc⟩ := Option.ne_none_iff_exists'.mp (alike.attached attached)
  obtain ⟨schedule, runs⟩ := runsTask_iff.mp runs
  exact ⟨channel, hc,
    (h.run later).events_task (alike.operation.trans idle) hc (alike.intends i) runs⟩

/-- A frame is stamped when it is first asked for, and not changed from then on. -/
theorem Passage.stamped (p : s.Passage m es s') (h : s.Sound) (stamped : s.link.Stamped) :
    s'.link.Stamped := by
  have served (r : Request) : (s.link.service r).link.Stamped := by
    have serves := s.link.serves r
    intro writes
    obtain ⟨schedule, published, link⟩ := serves.link_eq
    have writes' : s.link.operation.writes = true := by rwa [link] at writes
    rw [(serves.eq_of_held (h.busy (Operation.ne_idle_of_writes writes'))).1]
    exact stamped writes'
  cases p with
  | served r => exact served r
  | flushed => exact fun _ => Buffers.stamped_stamped _ _
  | @shown unit r => exact served r
  | @shownShort unit r => cases unit <;> exact served r
  | @shownNone unit => cases unit <;> exact stamped
  | @completed unit => cases unit <;> exact stamped
  | writeStarted _ issuing => exact fun _ => stamped (by rw [issuing]; rfl)
  | writeEarly issuing => exact fun _ => stamped (by rw [issuing]; rfl)
  | aside => exact stamped
  | attached => exact stamped
  | opened => exact stamped
  | unstarted => exact stamped
  | wakeRefused => exact stamped
  | woke => exact stamped
  | _ => exact nofun

theorem stamped_run (config : Config) (ms : List Move) :
    ((ofConfig config).run ms).link.Stamped :=
  (steady_ofConfig config).keeps (P := fun s _ => s.link.Stamped) (t := {})
    (fun steady p stamped => p.stamped steady.toSound stamped) ms nofun

end Session

namespace Link

variable {l : Link}

/-- The error that a refused read leaves behind. -/
theorem discardError_of_transient (l : Link) (e : Error) :
    (if e.isTransient then l.discardError e else e) =
      if e.isTransient ∧ 0 < l.config.wrongTagLimit.toNat ∧
          l.config.wrongTagLimit.toNat ≤
            (if e.isTransient then min (l.discards + 1) maxDiscards else l.discards) then .io
      else e := by
  cases e.isTransient with
  | false => rfl
  | true => simp only [if_true, true_and, discardError]

/-- Nothing is published anew when an operation has failed. -/
theorem unlock_eq_setBack (shows : l.Shows l.buffers.writePos) (e : Error) (discards : Nat) :
    { l with operation := .idle, discards, result := .error e }.unlock.nudge =
      l.setBack e discards := by
  have published : l.snapshot = l.published := shows.symm
  rw [setBack, ← published]
  rfl

end Link

namespace Session

variable {s : Session} {m : Move} {e : Error}

/-- After a fault that passes, the frame is still what there is to send. -/
theorem Steady.intends_write (h : s.Steady) (stamped : s.link.Stamped)
    (writes : s.link.operation.writes = true) (transient : e.isTransient = true) (discards : Nat) :
    (s.link.setBack e discards).Intends (.write s.link.buffers.tx) := by
  have calm := (h.disciplined.calm (Operation.ne_idle_of_writes writes)).2
  have action : (s.link.setBack e discards).nextAction = .flush :=
    Link.nextAction_eq_flush.mpr ⟨if_pos transient, h.disciplined.staged writes, calm⟩
  have intends := Link.Intends.write action
  have same : (s.link.setBack e discards).buffers.stamped s.link.config.source = s.link.buffers :=
    stamped writes
  rwa [show (s.link.setBack e discards).config = s.link.config from rfl, same] at intends

theorem Steady.intends_read (h : s.Steady) (reads : s.link.operation.reads = true)
    (transient : e.isTransient = true) (discards : Nat) :
    (s.link.setBack e discards).Intends .read := by
  have calm := (h.disciplined.calm (Operation.ne_idle_of_reads reads)).2
  obtain ⟨staged, left⟩ := h.disciplined.empty reads
  exact .read (Link.nextAction_eq_poll.mpr ⟨if_pos transient, staged, left, calm⟩)

/-- In every run of a new link, however its calls are nested, a read or a write that fails leaves
everything that the link holds as it was. The link lock is given up, nothing is outstanding, and the
periodic task is due on the next tick. The error is the result, and whoever delivers a read is told
of it. The result alone is another if the reply makes up the limit of discards. After a fault that
passes, the next run of the task asks for the same again, a write with the very frame, unless bytes
have been staged by then. -/
theorem failed_operations_keep_data (config : Config) (ms : List Move) :
    let s := (ofConfig config).run ms
    let l := s.link
    let outstanding := ((ofConfig config).traffic ms).outstanding
    let limit := config.wrongTagLimit.toNat
    (∀ received e, l.operation = .reading → received.reply = .error e →
      let m : Move := .call (.readComplete received)
      let count := if e.isTransient then min (l.discards + 1) 255 else l.discards
      let told := if e.isTransient ∧ 0 < limit ∧ limit ≤ count then .io else e
      (s.next m).link = l.setBack told count ∧
      (s.advance m).turn = .returned (.outcome (.error e)) ∧
      s.events m = [.received received] ∧
      outstanding = some .read ∧
      (e.isTransient = true → told = e → (s.next m).Retries .read)) ∧
    ∀ m e, (l.operation = .writing ∧ m = .call (.writeComplete (.error e)) ∨
        l.operation = .writeDone (.error e) ∧ ∃ shown, m = .answer shown) →
      (s.next m).link = l.setBack e l.discards ∧
      s.events m = [.wrote (.error e)] ∧
      ∃ frame, outstanding = some (.write frame) ∧
        (e.isTransient = true → (s.next m).Retries (.write frame)) := by
  intro s l outstanding limit
  have steady : s.Steady := steady_run config ms
  have tracked : l.TrackedBy ((ofConfig config).traffic ms) := tracked_traffic config ms
  have fixed : l.config = config := (steady_ofConfig config).config_run ms
  have shows (other : l.operation ≠ .issuingRead) : l.Shows l.buffers.writePos :=
    shows_of_ne_issuingRead config ms other
  have retries {m : Move} {e : Error} {discards : Nat} {issue : Issue}
      (left : (s.next m).link = l.setBack e discards) (inFlight : l.operation ≠ .idle)
      (intends : (l.setBack e discards).Intends issue) : (s.next m).Retries issue := by
    have idle : (s.next m).link.operation = .idle := by rw [left]; rfl
    have attached : (s.next m).link.channel ≠ none := by
      rw [left]
      exact fun none => inFlight (steady.attached none)
    rw [← left] at intends
    exact (steady.next m).retries idle attached intends
  constructor
  · intro received e reading refused m count told
    have reads : l.operation.reads = true := by rw [reading]; rfl
    obtain ⟨notes, ended⟩ := advance_refused reading refused
    have error : (if e.isTransient then l.discardError e else e) = told := by
      rw [l.discardError_of_transient, fixed]
      rfl
    have left : (s.next m).link = l.setBack told count := by
      rw [← error, next_link, ended]
      exact Link.unlock_eq_setBack (shows (by rw [reading]; nofun)) _ _
    refine ⟨left, congrArg Advance.turn ended, s.events_readComplete reading received,
      tracked.reads reads, ?_⟩
    intro transient same
    have intends := steady.intends_read reads transient count
    rw [← same] at intends
    exact retries left (Operation.ne_idle_of_reads reads) intends
  · intro m e fails
    have ended : .wrote (.error e) ∈ s.events m := by
      rcases fails with ⟨writing, rfl⟩ | ⟨done, shown, rfl⟩
      · exact wrote_mem_events writing _
      · exact steady.wrote_mem_events_answer done shown
    obtain ⟨writes, events, link⟩ := (passage steady.toSound m).wroteError_eq ended
    have other : l.operation ≠ .issuingRead := by
      intro issuing
      rw [issuing] at writes
      nomatch writes
    have left : (s.next m).link = l.setBack e l.discards :=
      link.trans (Link.unlock_eq_setBack (shows other) e l.discards)
    refine ⟨left, events, _, (tracked.writes writes).1, fun transient => ?_⟩
    exact retries left (Operation.ne_idle_of_writes writes)
      (steady.intends_write (stamped_run config ms) writes transient _)

-- a request comes in place of the reply, and the timer has the link poll again
example :
    let s := (ofConfig {}).run
      [.call (.attach 0), .call (.openUnit .input), .call .runTask, .answer none,
        .call (.readComplete (.ok [0x46, 0x52, 0x45, 0x51, 0, 0, 0, 0]))]
    s.link.result = .error .wrongTag ∧ (s.next (.call .onTimer)).stopped = [.issueRead 0] := by
  decide +kernel

end Session

end PolledLink
