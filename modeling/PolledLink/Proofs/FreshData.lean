import PolledLink.Proofs.FlushFirst
import PolledLink.Proofs.WakePass

/-! Fresh data is offered before there is new traffic. As long as the periodic task is not called
inside a wake pass, an accepted reply is followed by a whole pass, before which the link starts no
operation. -/

namespace PolledLink

/-- In the pass no request has found the link busy, or failed. -/
def Unhindered (steps : List WakeStep) : Prop :=
  ∀ l before after, .served l before after ∈ steps → l.locks.link = false ∧ l.failure? = none

theorem Unhindered.append {first second : List WakeStep} (h : Unhindered first)
    (h' : Unhindered second) : Unhindered (first ++ second) := by
  intro l before after served
  rcases List.mem_append.mp served with earlier | later
  · exact h l before after earlier
  · exact h' l before after later

theorem Underway.awake {ds : List Demand} {part : List WakeStep} (h : Underway ds part)
    (begun : part ≠ []) : ds ≠ [] := by
  cases h with
  | none => exact absurd rfl begun
  | head => nofun
  | complete => nofun

namespace Session

/-- The periodic task is not called inside a wake pass. -/
def Unpreempted (s : Session) : List Move → Prop
  | [] => True
  | m :: ms => (s.passDemands ≠ [] → m.callsTask = false) ∧ (s.next m).Unpreempted ms

instance decidableUnpreempted (s : Session) : (ms : List Move) → Decidable (s.Unpreempted ms)
  | [] => isTrue trivial
  | m :: ms =>
    have := decidableUnpreempted (s.next m) ms
    inferInstanceAs (Decidable ((s.passDemands ≠ [] → m.callsTask = false) ∧ _))

theorem unpreempted_append {s : Session} {first second : List Move} :
    s.Unpreempted (first ++ second) ↔ s.Unpreempted first ∧ (s.run first).Unpreempted second := by
  induction first generalizing s with
  | nil => exact (Iff.of_eq (true_and _)).symm
  | cons m ms ih => simp only [List.cons_append, Unpreempted, run, ih, and_assoc]

/-- No operation is outstanding in the course of a wake pass. -/
structure Undivided (s : Session) : Prop extends s.Steady where
  idle : s.passDemands ≠ [] → s.link.operation = .idle

variable {s s' : Session} {m : Move} {es : List Event}

/-- With no operation outstanding only the periodic task starts one, or makes the link fail. A wake
that is due keeps it from that. -/
theorem Passage.of_idle (p : s.Passage m es s') (idle : s.link.operation = .idle) :
    (s'.link.operation = .idle ∧ (s.link.failure? = none → s'.link.failure? = none) ∧
      s'.link.wakeScheduled = s.link.wakeScheduled) ∨
    (m.callsTask = true ∧
      (s.link.nextAction ≠ .wake ∨ s.link.locks.wake = true ∨
        (s'.link.operation = .idle ∧ (s.link.failure? = none → s'.link.failure? = none) ∧
          s'.link.locks.wake = true))) := by
  have served (r : Request) : (s.link.service r).link.operation = .idle ∧
      (s.link.failure? = none → (s.link.service r).link.failure? = none) ∧
      (s.link.service r).link.wakeScheduled = s.link.wakeScheduled := by
    obtain ⟨schedule, published, link⟩ := (s.link.serves r).link_eq
    rw [link]
    exact ⟨idle, id, rfl⟩
  have busy {op : Operation} {P : Prop} (here : s.link.operation = op) (outstanding : op ≠ .idle) :
      P := absurd (here.symm.trans idle) outstanding
  have ended {o : Outcome} {published : Snapshot} {outer : List Demand} {P : Prop}
      (ends : s.EndsWrite m o published outer) : P := absurd idle ends.inFlight
  cases p with
  | aside => exact .inl ⟨idle, id, rfl⟩
  | attached => exact .inl ⟨idle, id, rfl⟩
  | opened => exact .inl ⟨idle, fun _ => rfl, rfl⟩
  | served r => exact .inl (served r)
  | flushed runs _ action => exact .inr ⟨runs.callsTask, .inl (by rw [action]; nofun)⟩
  | polled runs _ action => exact .inr ⟨runs.callsTask, .inl (by rw [action]; nofun)⟩
  | unstarted runs _ action => exact .inr ⟨runs.callsTask, .inl action⟩
  | wakeRefused runs _ _ held => exact .inr ⟨runs.callsTask, .inr (.inl held)⟩
  | woke runs => exact .inr ⟨runs.callsTask, .inr (.inr ⟨idle, id, rfl⟩)⟩
  | @shown unit r => exact .inl (served r)
  | @shownShort unit r => cases unit <;> exact .inl (served r)
  | @shownNone unit => cases unit <;> exact .inl ⟨idle, id, rfl⟩
  | @completed unit => cases unit <;> exact .inl ⟨idle, id, rfl⟩
  | writeStarted _ issuing => exact busy issuing nofun
  | readStarted _ issuing => exact busy issuing nofun
  | writeEarly issuing => exact busy issuing nofun
  | writeFailed ends => exact ended ends
  | writeSent ends => exact ended ends
  | writeChained ends => exact ended ends
  | replyAccepted reading => exact busy reading nofun
  | replyDiscarded reading => exact busy reading nofun
  | readFailed reading => exact busy reading nofun

theorem Passage.idle_of_quiet (p : s.Passage m es s') (idle : s.link.operation = .idle)
    (quiet : m.callsTask = false) :
    s'.link.operation = .idle ∧ (s.link.failure? = none → s'.link.failure? = none) := by
  rcases p.of_idle idle with ⟨idle', works, -⟩ | ⟨calls, -⟩
  · exact ⟨idle', works⟩
  · exact absurd (calls.symm.trans quiet) nofun

/-- A wake that the link owes is still owed after a move, unless a pass is under way then. Nothing is
started until it has been. -/
theorem Passage.owes (p : s.Passage m es s') (idle : s.link.operation = .idle)
    (works : s.link.failure? = none) (owed : s.link.wakeScheduled = true)
    (asleep : s.link.locks.wake = false) :
    s'.link.operation = .idle ∧ s'.link.failure? = none ∧
      (s'.link.wakeScheduled = true ∨ s'.link.locks.wake = true) := by
  rcases p.of_idle idle with ⟨idle', works', same⟩ | ⟨-, other | held | ⟨idle', works', awake⟩⟩
  · exact ⟨idle', works' works, .inl (same.trans owed)⟩
  · exact absurd (owed.symm.trans (Link.of_nextAction_ne_wake other).2) nofun
  · exact absurd (asleep.symm.trans held) nofun
  · exact ⟨idle', works' works, .inr awake⟩

/-- Servicing in a wake pass finds the link as the pass does. -/
theorem WakeMove.unhindered {steps : List WakeStep} {ds : List Demand} (w : s.WakeMove m steps ds)
    (free : s.link.locks.link = false) (works : s.link.failure? = none) : Unhindered steps := by
  have onward (unit : LinkUnit) : Unhindered unit.onward.1 := by
    intro l before after served
    cases unit <;> nomatch List.mem_singleton.mp served
  intro l before after served
  cases w with
  | apart => nomatch served
  | begun => nomatch List.mem_singleton.mp served
  | @skipped unit =>
    rcases List.mem_cons.mp served with shown | later
    · nomatch shown
    · exact onward unit l before after later
  | @short unit =>
    rcases List.mem_cons.mp served with shown | here
    · nomatch shown
    · rcases List.mem_cons.mp here with this | later
      · obtain ⟨rfl, -, -⟩ := WakeStep.served.inj this
        exact ⟨free, works⟩
      · exact onward unit l before after later
  | finished =>
    rcases List.mem_cons.mp served with shown | here
    · nomatch shown
    · rcases List.mem_cons.mp here with this | later
      · obtain ⟨rfl, -, -⟩ := WakeStep.served.inj this
        exact ⟨free, works⟩
      · nomatch List.mem_singleton.mp later
  | @completed unit => exact onward unit l before after served

/-- With no pass under way, all that a move can do for one is to begin it. -/
theorem WakeMove.of_asleep {steps : List WakeStep} {ds : List Demand} (w : s.WakeMove m steps ds)
    (asleep : s.passDemands = []) :
    (steps = [] ∧ ds = []) ∨
      (steps = [.head .input] ∧ ds = [.head .input] ∧ (s.next m).link.operation = .idle) := by
  have stopped {d : Demand} {P : Prop} (hs : s.stopped = [d]) (wakes : d.wakes = true) : P := by
    rw [passDemands, hs, List.filter_cons_of_pos wakes] at asleep
    cases asleep
  cases w with
  | apart => exact .inl ⟨rfl, asleep⟩
  | begun _ _ idle => exact .inr ⟨rfl, rfl, idle⟩
  | skipped hs => exact stopped hs rfl
  | short hs => exact stopped hs rfl
  | finished hs => exact stopped hs rfl
  | completed hs => exact stopped hs rfl

theorem Undivided.next (h : s.Undivided) (calm : s.passDemands ≠ [] → m.callsTask = false) :
    (s.next m).Undivided where
  toSteady := h.toSteady.next m
  idle awake := by
    by_cases asleep : s.passDemands = []
    · rcases (wakeMove h.toSound m).of_asleep asleep with ⟨-, none⟩ | ⟨-, -, idle⟩
      · exact absurd none awake
      · exact idle
    · exact ((passage h.toSound m).idle_of_quiet (h.idle asleep) (calm asleep)).1

theorem undivided_ofConfig (config : Config) : (ofConfig config).Undivided where
  toSteady := steady_ofConfig config
  idle _ := rfl

theorem Undivided.run (h : s.Undivided) {ms : List Move} (calm : s.Unpreempted ms) :
    (s.run ms).Undivided := by
  induction ms generalizing s with
  | nil => exact h
  | cons m ms ih => exact ih (h.next calm.1) calm.2

/-- The link has been through a whole pass, unhindered. -/
def Offered (steps : List WakeStep) : Prop :=
  ∃ pass rest, steps = pass ++ rest ∧ Pass pass ∧ Unhindered pass

/-- How far the link has come in offering the data of a reply. -/
inductive Fresh (s : Session) : List WakeStep → Prop
  | owed (asleep : s.passDemands = []) (scheduled : s.link.wakeScheduled = true) : Fresh s []
  | offering {part : List WakeStep} (begun : part ≠ []) (works : s.link.failure? = none)
    (underway : Underway s.passDemands part) (free : Unhindered part) : Fresh s part
  | offered {steps : List WakeStep} (h : Offered steps) : Fresh s steps

/-- What a move does for the data of a reply. It starts no operation before the data is offered. -/
theorem Fresh.next {steps : List WakeStep} (h : s.Undivided)
    (calm : s.passDemands ≠ [] → m.callsTask = false) (f : s.Fresh steps) :
    (s.next m).Fresh (steps ++ s.wakeSteps m) ∧
      (Offered steps ∨ (s.next m).link.operation = .idle) := by
  have p := passage h.toSound m
  have w := wakeMove h.toSound m
  cases f with
  | owed asleep scheduled =>
    have works := h.disciplined.works scheduled
    have idle : s.link.operation = .idle := by
      cases op : s.link.operation with
      | idle => rfl
      | _ =>
        have calm := (h.disciplined.calm (by rw [op]; nofun)).2
        exact absurd (calm.symm.trans scheduled) nofun
    obtain ⟨idle', works', owes⟩ := p.owes idle works scheduled (h.wake_free asleep)
    refine ⟨?_, .inr idle'⟩
    rcases w.of_asleep asleep with ⟨none, asleep'⟩ | ⟨begun, awake, -⟩
    · rw [none]
      rcases owes with scheduled' | held
      · exact .owed asleep' scheduled'
      · exact absurd ((h.toSound.next m).wake_free asleep' |>.symm.trans held) nofun
    · rw [begun]
      refine .offering nofun works' ?_ ?_
      · rw [awake]
        exact .head rfl
      · intro l before after served
        nomatch List.mem_singleton.mp served
  | offering begun works underway free =>
    have awake := underway.awake begun
    have idle := h.idle awake
    obtain ⟨idle', works'⟩ := p.idle_of_quiet idle (calm awake)
    have free' := free.append (w.unhindered (h.free idle) works)
    refine ⟨?_, .inr idle'⟩
    rcases w.goesOn underway with goes | ⟨-, whole⟩
    · exact .offering (List.append_ne_nil_of_left_ne_nil begun _) (works' works) goes free'
    · exact .offered ⟨_, [], (List.append_nil _).symm, whole, free'⟩
  | offered offered =>
    obtain ⟨pass, rest, rfl, whole, free⟩ := offered
    exact ⟨.offered ⟨pass, rest ++ s.wakeSteps m, List.append_assoc _ _ _, whole, free⟩,
      .inl ⟨pass, rest, rfl, whole, free⟩⟩

theorem Fresh.run {steps : List WakeStep} {ms : List Move} (h : s.Undivided)
    (calm : s.Unpreempted ms) (f : s.Fresh steps) :
    (s.run ms).Fresh (steps ++ s.wakeLog ms) := by
  induction ms generalizing s steps with
  | nil =>
    rw [wakeLog, List.append_nil]
    exact f
  | cons m ms ih =>
    rw [wakeLog, ← List.append_assoc]
    exact ih (h.next calm.1) calm.2 (f.next h calm.1).1

/-- When the link takes in a reply, there is nothing in the way of offering it. -/
theorem Undivided.accepts (h : s.Undivided) {received : Link.Received} {r : Reply}
    (reading : s.link.operation = .reading) (accepted : received.reply = .ok r) :
    (s.next (.call (.readComplete received))).Fresh [] := by
  have asleep : s.passDemands = [] := by
    cases hd : s.passDemands with
    | nil => rfl
    | cons d ds => exact absurd ((h.idle (by rw [hd]; nofun)).symm.trans reading) nofun
  have stopped : (s.next (.call (.readComplete received))).stopped = s.stopped :=
    s.stopped_call (.readComplete received)
  have scheduled : (s.next (.call (.readComplete received))).link.wakeScheduled = true := by
    obtain ⟨notes, receives⟩ := Link.receive_accepted { s.link with operation := .idle } accepted
    simp only [Session.next, Session.step, advance, Link.call, Link.readComplete, reading, receives,
      take]
    rfl
  refine .owed ?_ scheduled
  rw [passDemands, stopped]
  exact asleep

/-- After each accepted reply, a wake pass that begins with the reply loaded has offered the buffers
to the oldest request of both units, and found the link free each time, before an operation is
started. -/
theorem reply_offered_before_new_operation (config : Config) (ms later : List Move) (m : Move)
    {received : Link.Received} {r : Reply} {channel : ChannelId} {issue : Issue}
    (calm : (ofConfig config).Unpreempted (ms ++ .call (.readComplete received) :: later ++ [m]))
    (reading : ((ofConfig config).run ms).link.operation = .reading)
    (accepted : received.reply = .ok r)
    (issued : .issued channel issue ∈
      ((ofConfig config).run (ms ++ .call (.readComplete received) :: later)).events m) :
    Offered (((ofConfig config).run (ms ++ [.call (.readComplete received)])).wakeLog later) := by
  rw [List.append_assoc] at calm
  obtain ⟨calmBefore, -, calmAfter⟩ := unpreempted_append.mp calm
  obtain ⟨calmLater, calmLast, -⟩ := unpreempted_append.mp calmAfter
  rw [run_append] at issued ⊢
  let s := (ofConfig config).run ms
  let loaded := s.next (.call (.readComplete received))
  have before : s.Undivided := (undivided_ofConfig config).run calmBefore
  have undivided : loaded.Undivided := before.next fun _ => rfl
  have fresh : (loaded.run later).Fresh (loaded.wakeLog later) :=
    (before.accepts reading accepted).run undivided calmLater
  have last : (loaded.run later).Undivided := undivided.run calmLater
  have inFlight := (passage last.toSound m).inFlight_of_issued issued
  rcases (fresh.next last calmLast).2 with offered | idle
  · exact offered
  · exact absurd idle inFlight

/-- A reply of no bytes at all is offered to a request for two, before the next poll. -/
theorem reply_offered_before_new_operation_when_empty :
    let ms : List Move := [.call (.attach 0), .call (.openUnit .input), .call .runTask, .answer none]
    let received : Link.Received := .ok [0x46, 0x52, 0x50, 0x59, 1, 0, 0, 0]
    let later : List Move :=
      [.call .runTask, .answer (some { direction := .read, buffer := [0, 0] }), .answer none]
    let loaded := (ofConfig {}).run (ms ++ [.call (.readComplete received)])
    let s := (ofConfig {}).run (ms ++ .call (.readComplete received) :: later)
    (ofConfig {}).Unpreempted (ms ++ .call (.readComplete received) :: later ++ [.call .runTask]) ∧
      ((ofConfig {}).run ms).link.operation = .reading ∧ received.reply = .ok ⟨1, 0, []⟩ ∧
      .issued 0 .read ∈ s.events (.call .runTask) ∧ Offered (loaded.wakeLog later) := by
  intro ms received later loaded s
  have calm : (ofConfig {}).Unpreempted
      (ms ++ .call (.readComplete received) :: later ++ [.call .runTask]) := by decide +kernel
  have reading : ((ofConfig {}).run ms).link.operation = .reading := by decide +kernel
  have accepted : received.reply = .ok ⟨1, 0, []⟩ := rfl
  have issued : .issued 0 .read ∈ s.events (.call .runTask) := by
    have polls : (s.advance (.call .runTask)).turn = .demand (.issueRead 0) := by decide +kernel
    have asks (s : Session) :
        s.events (.call .runTask) = (s.advance (.call .runTask)).turn.issues := rfl
    rw [asks, polls]
    exact .head _
  exact ⟨calm, reading, accepted, issued,
    reply_offered_before_new_operation {} ms later (.call .runTask) calm reading accepted issued⟩

end Session

end PolledLink
