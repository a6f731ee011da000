import PolledLink.Proofs.Rest

/-! Wake passes as the queues of the host see them. The steps of all the passes of a session are read
off its moves, and make up whole passes, one after the other, of which only the last may not have
come to its end. -/

namespace PolledLink

/-- What passes between a wake pass and the queues. -/
inductive WakeStep
  | head (unit : LinkUnit)
  | shown (unit : LinkUnit) (request : Option Request)
  /-- The request is serviced by the link as it is then, and left as `after`. -/
  | served (l : Link) (before after : Request)
  | complete (unit : LinkUnit) (outcome : Outcome)
  | ended

/-- Whether it is a wake pass that has stopped with the demand. -/
def Demand.wakes : Demand → Bool
  | head _ | complete _ _ => true
  | issueWrite _ _ _ | issueRead _ => false

/-- The steps with which a demand is answered that has stopped a pass. -/
def Demand.answered (l : Link) (shown served : Option Request) : Demand → List WakeStep
  | head unit =>
    .shown unit shown ::
      match shown, served with
      | some before, some after => [.served l before after]
      | _, _ => []
  | _ => []

def Demand.ended (d : Demand) : Turn → List WakeStep
  | .returned _ => if d.wakes then [.ended] else []
  | .demand _ => []

def Turn.wakeSteps : Turn → List WakeStep
  | demand (.head unit) => [.head unit]
  | demand (.complete unit outcome) => [.complete unit outcome]
  | _ => []

theorem Turn.wakeSteps_eq_nil {t : Turn} (h : ∀ d, t = .demand d → d.wakes = false) :
    t.wakeSteps = [] := by
  cases t with
  | returned v => rfl
  | demand d =>
    have wakes := h d rfl
    cases d with
    | head unit => nomatch wakes
    | complete unit o => nomatch wakes
    | _ => rfl

/-- A unit is visited. Its oldest request is serviced, once, if it is pending, and reported as
complete if that has made it ready. -/
inductive Visit (unit : LinkUnit) : List WakeStep → Prop
  | skipped {shown : Option Request} (none : shown.filter Request.isPending = none) :
    Visit unit [.head unit, .shown unit shown]
  | short {l : Link} {r : Request} (pending : r.isPending = true)
    (told : (l.service r).progress = .pending) :
    Visit unit [.head unit, .shown unit (some r), .served l r (l.service r).request]
  | finished {l : Link} {r : Request} {o : Outcome} (pending : r.isPending = true)
    (told : (l.service r).progress = .ready o)
    (status : (l.service r).request.progress = .ready o) :
    Visit unit
      [.head unit, .shown unit (some r), .served l r (l.service r).request, .complete unit o]

/-- A whole pass. -/
inductive Pass : List WakeStep → Prop
  | visits {first second : List WakeStep} (input : Visit .input first)
    (output : Visit .output second) : Pass (first ++ second ++ [.ended])

/-- What a pass has done by the time that it comes to a unit. -/
def Before : LinkUnit → List WakeStep → Prop
  | .input, steps => steps = []
  | .output, steps => Visit .input steps

/-- What a pass has done that has stopped with a demand. -/
inductive Underway : List Demand → List WakeStep → Prop
  | none : Underway [] []
  | head {unit : LinkUnit} {earlier : List WakeStep} (h : Before unit earlier) :
    Underway [.head unit] (earlier ++ [.head unit])
  | complete {unit : LinkUnit} {o : Outcome} {earlier visit : List WakeStep}
    (h : Before unit earlier) (v : Visit unit visit) :
    Underway [.complete unit o] (earlier ++ visit)

/-- What a pass does when it has visited a unit, and the demand that it stops with. -/
def LinkUnit.onward : LinkUnit → List WakeStep × List Demand
  | input => ([.head .output], [.head .output])
  | output => ([.ended], [])

theorem Before.onward {unit : LinkUnit} {earlier visit : List WakeStep} (h : Before unit earlier)
    (v : Visit unit visit) :
    Underway unit.onward.2 (earlier ++ visit ++ unit.onward.1) ∨
      (unit.onward.2 = [] ∧ Pass (earlier ++ visit ++ unit.onward.1)) := by
  cases unit with
  | input =>
    obtain rfl : earlier = [] := h
    exact .inl (.head v)
  | output => exact .inr ⟨rfl, .visits h v⟩

namespace Link

/-- A request that is told to be ready is. -/
theorem Serves.status {l : Link} {r : Request} {sv : Serviced} {o : Outcome} (h : l.Serves r sv)
    (told : sv.progress = .ready o) : sv.request.progress = .ready o := by
  cases h with
  | busy => nomatch told
  | failed => exact told
  | finished => exact told
  | unfinished => nomatch told

theorem writeIssued_demand {l : Link} {count : Nat} {d : Demand}
    (h : (l.writeIssued count).turn = .demand d) : d.wakes = false := by
  simp only [writeIssued, Advance.after] at h
  split at h
  · cases h
  · obtain ⟨channel, rfl⟩ := finishWrite_demand h
    rfl
  · cases h

theorem readIssued_demand {l : Link} {d : Demand} (h : l.readIssued.turn = .demand d) :
    d.wakes = false := by
  simp only [readIssued] at h
  split at h <;> cases h

end Link

/-- Whether the move runs the periodic task, if it is due. -/
def Session.Move.callsTask : Session.Move → Bool
  | .call .runTask | .call .onTimer => true
  | _ => false

namespace Session

/-- The demands of the wake passes that have not come to their end. -/
def passDemands (s : Session) : List Demand := s.stopped.filter Demand.wakes

def wakeSteps (s : Session) (m : Move) : List WakeStep :=
  let a := s.advance m
  match m, s.stopped with
  | .answer shown, d :: _ =>
    d.answered s.link shown a.served ++ a.turn.wakeSteps ++ d.ended a.turn
  | _, _ => a.turn.wakeSteps

def wakeLog (s : Session) : List Move → List WakeStep
  | [] => []
  | m :: ms => s.wakeSteps m ++ (s.next m).wakeLog ms

/-- What a move can do for a wake pass. -/
inductive WakeMove (s : Session) : Move → List WakeStep → List Demand → Prop
  /-- Nothing, though an operation may be started or come to its end. -/
  | apart {m : Move} : WakeMove s m [] s.passDemands
  | begun {m : Move} (calls : m.callsTask = true) (asleep : s.passDemands = [])
    (idle : (s.next m).link.operation = .idle) :
    WakeMove s m [.head .input] [.head .input]
  | skipped {unit : LinkUnit} {shown : Option Request} (hs : s.stopped = [.head unit])
    (none : shown.filter Request.isPending = none) :
    WakeMove s (.answer shown) (.shown unit shown :: unit.onward.1) unit.onward.2
  | short {unit : LinkUnit} {r : Request} (hs : s.stopped = [.head unit])
    (pending : r.isPending = true) (told : (s.link.service r).progress = .pending) :
    WakeMove s (.answer (some r))
      (.shown unit (some r) :: .served s.link r (s.link.service r).request :: unit.onward.1)
      unit.onward.2
  | finished {unit : LinkUnit} {r : Request} {o : Outcome} (hs : s.stopped = [.head unit])
    (pending : r.isPending = true) (told : (s.link.service r).progress = .ready o) :
    WakeMove s (.answer (some r))
      [.shown unit (some r), .served s.link r (s.link.service r).request, .complete unit o]
      [.complete unit o]
  | completed {unit : LinkUnit} {o : Outcome} {shown : Option Request}
    (hs : s.stopped = [.complete unit o]) :
    WakeMove s (.answer shown) unit.onward.1 unit.onward.2

variable {s : Session} {m : Move}

theorem Sound.waking_passDemands (h : s.Sound) : Waking s.link.locks.wake s.passDemands := by
  have alone {wake : Bool} {ds : List Demand} (waking : Waking wake ds) :
      Waking wake (ds.filter Demand.wakes) := by
    cases waking with
    | asleep => exact .asleep
    | head unit => exact .head unit
    | complete unit o => exact .complete unit o
  have stacked := h.stacked
  unfold passDemands
  generalize s.stopped = ds at stacked ⊢
  generalize s.link.operation = op at stacked
  cases stacked with
  | idle waking => exact alone waking
  | writing waking => exact alone waking
  | reading waking => exact alone waking
  | issuingWrite _ _ _ waking =>
    have inner := alone waking
    exact inner
  | writeDone _ _ _ _ waking =>
    have inner := alone waking
    exact inner
  | issuingRead _ waking =>
    have inner := alone waking
    exact inner

theorem Sound.wake_free (h : s.Sound) (asleep : s.passDemands = []) :
    s.link.locks.wake = false := by
  have waking := h.waking_passDemands
  rw [asleep] at waking
  cases held : s.link.locks.wake with
  | false => rfl
  | true => nomatch held ▸ waking

theorem RunsTask.callsTask {schedule : Schedule} (h : s.RunsTask m schedule) :
    m.callsTask = true := by
  cases h with
  | asked => rfl
  | timed => rfl

/-- A call either leaves the queues alone or is the one that begins a pass. -/
theorem wakeMove_call (h : s.Sound) (c : Call) :
    s.WakeMove (.call c) (s.wakeSteps (.call c)) (s.next (.call c)).passDemands := by
  have steps : s.wakeSteps (.call c) = (s.advance (.call c)).turn.wakeSteps := by
    simp only [wakeSteps]
  have stopped := s.stopped_call c
  -- the calls that are stopped afterwards tell whether this one is among them
  have quiet (ds : List Demand) (left : ds.filter Demand.wakes = [])
      (hd : (s.next (.call c)).stopped = ds ++ s.stopped) :
      s.WakeMove (.call c) (s.wakeSteps (.call c)) (s.next (.call c)).passDemands := by
    have demands : (s.advance (.call c)).turn.demands = ds :=
      List.append_cancel_right (stopped.symm.trans hd)
    have none : (s.advance (.call c)).turn.wakeSteps = [] := by
      apply Turn.wakeSteps_eq_nil
      intro d turn
      rw [turn] at demands
      rw [← demands] at left
      simpa [Turn.demands] using left
    rw [steps, none, passDemands, hd, List.filter_append, left]
    exact .apart
  have p := passage h (.call c)
  generalize next : s.next (.call c) = s' at p stopped quiet ⊢
  generalize s.events (.call c) = es at p
  cases p with
  | flushed => exact quiet [_] rfl rfl
  | polled => exact quiet [_] rfl rfl
  | @writeChained _ published outer channel ends =>
    cases ends with
    | late => exact quiet [_] rfl rfl
  | woke runs idle action hw =>
    have demands : (s.advance (.call c)).turn.demands = [.head .input] :=
      List.append_cancel_right (stopped.symm.trans rfl)
    have turn : (s.advance (.call c)).turn = .demand (.head .input) := by
      generalize (s.advance (.call c)).turn = t at demands
      cases t with
      | returned v => cases demands
      | demand d => exact congrArg Turn.demand (List.singleton_inj.mp demands)
    have waking := h.waking_passDemands
    rw [hw] at waking
    have asleep := waking.eq_nil
    have now : (Demand.head .input :: s.stopped).filter Demand.wakes = [.head .input] :=
      congrArg (Demand.head .input :: ·) asleep
    rw [steps, turn, passDemands, now]
    exact .begun runs.callsTask asleep (next ▸ idle)
  | writeFailed ends =>
    cases ends with
    | late => exact quiet [] rfl rfl
  | writeSent ends =>
    cases ends with
    | late => exact quiet [] rfl rfl
  | _ => exact quiet [] rfl rfl

/-- The start of an operation goes on without the queues. -/
theorem wakeMove_issue {d : Demand} {outer : List Demand}
    (hs : s.stopped = d :: outer) (starts : d.wakes = false) (shown : Option Request) :
    (s.advance (.answer shown)).turn.wakeSteps = [] ∧
      s.WakeMove (.answer shown) (s.wakeSteps (.answer shown))
        (s.next (.answer shown)).passDemands := by
  have resumes := advance_answer hs shown
  have turn {next : Demand} (ht : (s.advance (.answer shown)).turn = .demand next) :
      next.wakes = false := by
    rw [resumes] at ht
    cases d with
    | issueWrite channel frame count => exact Link.writeIssued_demand ht
    | issueRead channel => exact Link.readIssued_demand ht
    | head unit => cases starts
    | complete unit o => cases starts
  have quiet := Turn.wakeSteps_eq_nil fun next ht => turn ht
  have steps : s.wakeSteps (.answer shown) = [] := by
    have answered : d.answered s.link shown (s.advance (.answer shown)).served = [] := by
      cases d with
      | head unit => cases starts
      | _ => rfl
    have ended : d.ended (s.advance (.answer shown)).turn = [] := by
      cases (s.advance (.answer shown)).turn with
      | demand next => rfl
      | returned v => simp only [Demand.ended, starts, Bool.false_eq_true, if_false]
    simp only [wakeSteps, hs, answered, quiet, ended, List.append_nil]
  have left : (s.advance (.answer shown)).turn.demands.filter Demand.wakes = [] := by
    cases ht : (s.advance (.answer shown)).turn with
    | returned v => rfl
    | demand next => simp only [Turn.demands, List.filter_cons, turn ht, Bool.false_eq_true,
        if_false, List.filter_nil]
  have same : (s.next (.answer shown)).passDemands = s.passDemands := by
    simp only [passDemands, stopped_answer hs, hs, List.filter_append, left, List.filter_cons,
      starts, Bool.false_eq_true, if_false, List.nil_append]
  rw [steps, same]
  exact ⟨quiet, .apart⟩

theorem wakeMove_offered {unit : LinkUnit} (hs : s.stopped = [.head unit])
    (shown : Option Request) :
    s.WakeMove (.answer shown) (s.wakeSteps (.answer shown))
      (s.next (.answer shown)).passDemands := by
  have resumes : s.advance (.answer shown) = s.link.offered unit shown := advance_answer hs shown
  have left : (s.next (.answer shown)).passDemands =
      (s.link.offered unit shown).turn.demands.filter Demand.wakes := by
    rw [passDemands, stopped_answer hs, resumes, List.append_nil]
  rw [left]
  unfold wakeSteps
  rw [resumes]
  simp only [hs]
  cases pending : shown.filter Request.isPending with
  | none =>
    rw [Link.offered_none pending]
    have goes := WakeMove.skipped hs pending
    cases unit with
    | input => cases shown <;> exact goes
    | output => cases shown <;> exact goes
  | some r =>
    obtain ⟨rfl, hr⟩ := Option.filter_eq_some_iff.mp pending
    cases told : (s.link.service r).progress with
    | ready o =>
      rw [Link.offered_ready pending told]
      exact .finished hs hr told
    | pending =>
      rw [Link.offered_short pending told]
      have goes := WakeMove.short hs hr told
      cases unit <;> exact goes

theorem wakeMove_answer (h : s.Sound) (shown : Option Request) :
    s.WakeMove (.answer shown) (s.wakeSteps (.answer shown))
      (s.next (.answer shown)).passDemands := by
  cases hs : s.stopped with
  | nil =>
    have steps : s.wakeSteps (.answer shown) = [] := by
      simp only [wakeSteps, advance_answer_nil hs, hs]
      rfl
    rw [steps, next_answer_nil hs]
    exact .apart
  | cons d outer =>
    have stacked := h.stacked
    rw [hs] at stacked
    cases d with
    | head unit =>
      obtain ⟨-, rfl, -⟩ := stacked.of_waking (.head unit)
      exact wakeMove_offered hs shown
    | complete unit o =>
      obtain ⟨-, rfl, -⟩ := stacked.of_waking (.complete unit o)
      have resumes : s.advance (.answer shown) = s.link.passOn unit := advance_answer hs shown
      have goes : s.WakeMove (.answer shown) unit.onward.1 unit.onward.2 := .completed hs
      unfold wakeSteps
      rw [passDemands, stopped_answer hs, resumes]
      simp only [hs]
      cases unit <;> exact goes
    | issueWrite => exact (wakeMove_issue hs rfl shown).2
    | issueRead => exact (wakeMove_issue hs rfl shown).2

/-- What any move does for the wake passes. -/
theorem wakeMove (h : s.Sound) (m : Move) :
    s.WakeMove m (s.wakeSteps m) (s.next m).passDemands := by
  cases m with
  | call c => exact wakeMove_call h c
  | answer shown => exact wakeMove_answer h shown

/-- A pass that is under way goes on, or comes to its end. -/
theorem WakeMove.goesOn {steps part : List WakeStep} {ds : List Demand}
    (w : s.WakeMove m steps ds) (h : Underway s.passDemands part) :
    Underway ds (part ++ steps) ∨ (ds = [] ∧ Pass (part ++ steps)) := by
  cases w with
  | apart =>
    rw [List.append_nil]
    exact .inl h
  | begun calls asleep =>
    rw [asleep] at h
    cases h with
    | none => exact .inl (.head rfl)
  | @skipped unit shown hs none =>
    rw [passDemands, hs] at h
    cases h with
    | head before =>
      have goes := before.onward (.skipped none)
      simpa only [List.append_assoc, List.cons_append, List.nil_append] using goes
  | @short unit r hs pending told =>
    rw [passDemands, hs] at h
    cases h with
    | head before =>
      have goes := before.onward (.short pending told)
      simpa only [List.append_assoc, List.cons_append, List.nil_append] using goes
  | @finished unit r o hs pending told =>
    rw [passDemands, hs] at h
    cases h with
    | @head _ earlier before =>
      have status := (s.link.serves r).status told
      have visit := Underway.complete (o := o) before (.finished pending told status)
      rw [List.append_assoc]
      exact .inl visit
  | @completed unit o shown hs =>
    rw [passDemands, hs] at h
    cases h with
    | complete before visit => exact before.onward visit

/-- The steps of a run are those of whole passes, behind which a last one may be under way. -/
theorem wakeLog_passes (h : s.Sound) {part : List WakeStep} (before : Underway s.passDemands part)
    (ms : List Move) :
    ∃ (passes : List (List WakeStep)) (last : List WakeStep),
      part ++ s.wakeLog ms = passes.flatten ++ last ∧ (∀ pass ∈ passes, Pass pass) ∧
        Underway (s.run ms).passDemands last := by
  induction ms generalizing s part with
  | nil => exact ⟨[], part, List.append_nil _, nofun, before⟩
  | cons m ms ih =>
    rcases (wakeMove h m).goesOn before with goes | ⟨asleep, whole⟩
    · obtain ⟨passes, last, log, all, ends⟩ := ih (h.next m) goes
      refine ⟨passes, last, ?_, all, ends⟩
      rw [← log, wakeLog, List.append_assoc]
    · have fresh : Underway (s.next m).passDemands [] := by
        rw [asleep]
        exact .none
      obtain ⟨passes, last, log, all, ends⟩ := ih (h.next m) fresh
      refine ⟨(part ++ s.wakeSteps m) :: passes, last, ?_, ?_, ends⟩
      · rw [List.flatten_cons, List.append_assoc, ← log, wakeLog, List.nil_append,
          List.append_assoc]
      · exact List.forall_mem_cons.mpr ⟨whole, all⟩

end Session

end PolledLink
