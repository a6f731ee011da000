import PolledLink.Proofs.Balance

/-! Completions that come while the channel is still being asked for the operation. A write that is
complete by then ends when the channel has been asked, and it makes no difference that its
completion did not wait for that. A read that is complete by then has to be reported again. The
link is busy to all other calls, in whatever order they come. -/

namespace PolledLink

theorem Operation.ne_of_unsettled {op : Operation} (h : op.settled = false) :
    op ≠ .writing ∧ op ≠ .reading := by
  constructor <;> rintro rfl <;> cases h

def Call.completesWrite : Call → Bool
  | writeComplete _ => true
  | _ => false

namespace Link

variable {l : Link} {c : Call}

theorem attach_held (held : l.locks.link = true) (channel : ChannelId) :
    l.attach channel = (.error .busy, l, []) := by
  simp only [attach, acquire?_held held]

theorem service_held (held : l.locks.link = true) (r : Request) :
    l.service r = ⟨l, r, .pending, [.leftPending r.direction]⟩ := by
  simp only [service, acquire?_held held]

/-- What is left of a call where the link lock is held for an operation that is being started. -/
def aside (l : Link) : Call → Link
  | .openUnit unit => (l.openUnit unit).2.1
  | .closeUnit unit => (l.closeUnit unit).1
  | .setPollInterval ticks => l.setPollInterval ticks
  | .onTimer => { l with schedule := l.schedule.tick.2 }
  | .attach _ | .runTask | .service _ | .writeComplete _ | .readComplete _ => l

theorem aside_of_completesWrite (h : c.completesWrite = true) : l.aside c = l := by
  cases c with
  | writeComplete o => rfl
  | _ => nomatch h

theorem aside_withOperation (l : Link) (op : Operation) (c : Call) :
    { l with operation := op }.aside c = { l.aside c with operation := op } := by
  cases c with
  | openUnit unit =>
    simp only [aside, openUnit]
    split <;> rfl
  | _ => rfl

theorem aside_locks (l : Link) (c : Call) : (l.aside c).locks = l.locks := by
  cases c with
  | openUnit unit =>
    simp only [aside, openUnit]
    split <;> rfl
  | _ => rfl

theorem aside_operation (l : Link) (c : Call) : (l.aside c).operation = l.operation := by
  have same := congrArg Link.operation (l.aside_withOperation l.operation c)
  exact same

/-- Only the first completion of a write is listened to. -/
theorem call_held (held : l.locks.link = true) (starting : l.operation.settled = false)
    (hc : c.completesWrite = true → l.operation ≠ .issuingWrite) :
    ∃ notes v, l.call c = ⟨l.aside c, notes, (Session.Move.call c).request?, .returned v⟩ := by
  cases c with
  | attach channel =>
    rw [call, attach_held held]
    exact ⟨_, _, rfl⟩
  | openUnit unit => exact ⟨_, _, rfl⟩
  | closeUnit unit => exact ⟨_, _, rfl⟩
  | setPollInterval ticks => exact ⟨_, _, rfl⟩
  | onTimer =>
    have task : { l with schedule := l.schedule.tick.2 }.runTask =
        .done { l with schedule := l.schedule.tick.2 } [.taskSkipped] := runTask_held held
    simp only [call, onTimer, task]
    split <;> exact ⟨_, _, rfl⟩
  | runTask =>
    rw [call, runTask_held held]
    exact ⟨_, _, rfl⟩
  | service r =>
    rw [call, service_held held]
    exact ⟨_, _, rfl⟩
  | writeComplete o =>
    simp only [call, writeComplete]
    split
    · rename_i writing
      exact absurd writing (Operation.ne_of_unsettled starting).1
    · rename_i issuing
      exact absurd issuing (hc rfl)
    · exact ⟨_, _, rfl⟩
  | readComplete received =>
    simp only [call, readComplete]
    split
    · rename_i reading
      exact absurd reading (Operation.ne_of_unsettled starting).2
    · exact ⟨_, _, rfl⟩
    · exact ⟨_, _, rfl⟩

end Link

namespace Session

variable {s s' : Session} {m : Move} {es : List Event} {o : Outcome}

/-- The session in which the write that is being started is complete already. -/
def holdOver (s : Session) (o : Outcome) : Session :=
  { s with link := { s.link with operation := .writeDone o } }

def aside (s : Session) (cs : List Call) : Session := { s with link := cs.foldl Link.aside s.link }

theorem aside_operation (s : Session) (cs : List Call) :
    (s.aside cs).link.operation = s.link.operation := by
  induction cs generalizing s with
  | nil => rfl
  | cons c cs ih => exact (ih (s.aside [c])).trans (s.link.aside_operation c)

theorem aside_locks (s : Session) (cs : List Call) :
    (s.aside cs).link.locks = s.link.locks := by
  induction cs generalizing s with
  | nil => rfl
  | cons c cs ih => exact (ih (s.aside [c])).trans (s.link.aside_locks c)

theorem aside_holdOver (s : Session) (o : Outcome) (cs : List Call) :
    (s.holdOver o).aside cs = (s.aside cs).holdOver o := by
  induction cs generalizing s with
  | nil => rfl
  | cons c cs ih =>
    have first : (s.holdOver o).aside [c] = (s.aside [c]).holdOver o :=
      congrArg (Session.mk · s.stopped) (s.link.aside_withOperation (.writeDone o) c)
    have rest := ih (s.aside [c])
    rw [← first] at rest
    exact rest

theorem aside_filter (s : Session) (cs : List Call) :
    s.aside (cs.filter fun c => !c.completesWrite) = s.aside cs := by
  induction cs generalizing s with
  | nil => rfl
  | cons c cs ih =>
    have step : s.aside (c :: cs) = (s.aside [c]).aside cs := rfl
    rw [step, ← ih (s.aside [c])]
    cases completes : c.completesWrite with
    | true =>
      have same : s.aside [c] = s := congrArg (Session.mk · s.stopped)
        (Link.aside_of_completesWrite completes)
      rw [same, List.filter_cons_of_neg (by simp [completes])]
    | false =>
      rw [List.filter_cons_of_pos (by simp [completes])]
      rfl

/-- The requests that calls pass in while an operation is being started come back as they are. -/
def asides (cs : List Call) : List Event :=
  cs.flatMap fun c => ((Move.call c).request?.map fun r => .served r r).toList

theorem asides_singleton (c : Call) :
    asides [c] = ((Move.call c).request?.map fun r => .served r r).toList := List.append_nil _

theorem asides_filter (cs : List Call) :
    asides (cs.filter fun c => !c.completesWrite) = asides cs := by
  induction cs with
  | nil => rfl
  | cons c cs ih =>
    cases completes : c.completesWrite with
    | true =>
      rw [List.filter_cons_of_neg (by simp [completes]), ih]
      cases c with
      | writeComplete o => rfl
      | _ => nomatch completes
    | false =>
      rw [List.filter_cons_of_pos (by simp [completes])]
      exact congrArg (_ ++ ·) ih

theorem completions_held (starting : s.link.operation.settled = false) (c : Call) :
    s.completions (.call c) = [] := by
  cases c with
  | writeComplete o => exact if_neg (Operation.ne_of_unsettled starting).1
  | readComplete received => exact if_neg (Operation.ne_of_unsettled starting).2
  | _ => rfl

theorem next_call_held {c : Call} (held : s.link.locks.link = true)
    (starting : s.link.operation.settled = false)
    (hc : c.completesWrite = true → s.link.operation ≠ .issuingWrite) :
    s.next (.call c) = s.aside [c] ∧ s.events (.call c) = asides [c] := by
  obtain ⟨notes, v, advance⟩ := Link.call_held held starting hc
  constructor
  · simp only [next, Session.step, Session.advance, advance, take]
    rfl
  · simp only [Session.events, completions_held starting, servings, Session.advance, advance,
      Turn.issues, asides_singleton]
    cases (Move.call c).request? <;> rfl

theorem run_calls_held (held : s.link.locks.link = true)
    (starting : s.link.operation.settled = false) (cs : List Call)
    (hcs : ∀ c ∈ cs, c.completesWrite = true → s.link.operation ≠ .issuingWrite) :
    s.run (cs.map .call) = s.aside cs ∧ s.history (cs.map .call) = asides cs := by
  induction cs generalizing s with
  | nil => exact ⟨rfl, rfl⟩
  | cons c cs ih =>
    obtain ⟨step, events⟩ := next_call_held held starting (hcs c List.mem_cons_self)
    have operation := s.aside_operation [c]
    have locks := s.aside_locks [c]
    obtain ⟨run, history⟩ := ih (s := s.aside [c]) (locks ▸ held) (operation ▸ starting)
      (fun d hd => operation ▸ hcs d (List.mem_cons_of_mem c hd))
    constructor
    · rw [List.map_cons, Session.run, step, run]
      rfl
    · rw [List.map_cons, Session.history, step, events, history, asides_singleton]
      rfl

/-- A write that ends after it was started, and one that was complete before, leave the same. -/
theorem answer_holdOver {channel : ChannelId} {frame : Frame} {count : Nat} {outer : List Demand}
    (issuing : s.link.operation = .issuingWrite)
    (hs : s.stopped = .issueWrite channel frame count :: outer) (o : Outcome)
    (a b : Option Request) :
    (s.holdOver o).next (.answer a) =
        (s.next (.answer b)).next (.call (.writeComplete o)) ∧
      (s.holdOver o).events (.answer a) =
        s.events (.answer b) ++ (s.next (.answer b)).events (.call (.writeComplete o)) := by
  let ended : Advance := { s.link.publish with operation := .idle }.finishWrite o
  have started : s.advance (.answer b) =
      .done { s.link.publish with operation := .writing } [.flushing count] :=
    (advance_answer hs b).trans (Link.writeIssued_pending issuing count)
  have writing : s.next (.answer b) =
      ⟨{ s.link.publish with operation := .writing }, outer⟩ := by
    simp only [next, Session.step, started, hs]
    rfl
  have late : (s.next (.answer b)).advance (.call (.writeComplete o)) = ended := by
    rw [writing]
    rfl
  have early : (s.holdOver o).advance (.answer a) =
      .after [.flushing count, .heldOver o] ended := by
    simp only [advance, holdOver, hs, Link.resume]
    exact Link.writeIssued_heldOver rfl count
  have quiet : s.events (.answer b) = [] := by
    rw [events_eq_issues started (by simp only [completions, hs, issuing]) rfl]
    rfl
  have served : ended.served = none := Link.finishWrite_served _ o
  constructor
  · rw [writing] at late ⊢
    simp only [next, Session.step, early, late]
    simp only [holdOver, hs]
    rfl
  · have wroteEarly : (s.holdOver o).completions (.answer a) = [.wrote o] := by
      simp only [completions, holdOver, hs]
    have wroteLate : (s.next (.answer b)).completions (.call (.writeComplete o)) = [.wrote o] := by
      rw [writing]
      simp only [completions, if_true]
    rw [quiet, Session.events, Session.events, wroteEarly, wroteLate,
      servings_eq_nil (by rw [early]; exact served), servings_eq_nil (by rw [late]; exact served),
      early, late]
    rfl

theorem writeComplete_issuing (issuing : s.link.operation = .issuingWrite) (o : Outcome) :
    s.next (.call (.writeComplete o)) = s.holdOver o ∧
      s.events (.call (.writeComplete o)) = [] := by
  have defers : s.advance (.call (.writeComplete o)) =
      .done { s.link with operation := .writeDone o } [.writeDeferred] := by
    simp only [advance, Link.call, Link.writeComplete, issuing]
  have waits : s.completions (.call (.writeComplete o)) = [] := by
    simp only [completions, issuing, reduceCtorEq, if_false]
  constructor
  · simp only [next, Session.step, defers]
    rfl
  · rw [events_eq_issues defers waits rfl]
    rfl

theorem run_early_eq_late {channel : ChannelId} {frame : Frame} {count : Nat} {outer : List Demand}
    (issuing : s.link.operation = .issuingWrite) (held : s.link.locks.link = true)
    (hs : s.stopped = .issueWrite channel frame count :: outer) (o : Outcome)
    {before : List Call} (after : List Call) (a b : Option Request)
    (none : ∀ c ∈ before, c.completesWrite = false) :
    let early := before.map .call ++ .call (.writeComplete o) :: after.map .call ++ [.answer a]
    let late := before.map .call ++ (after.filter fun c => !c.completesWrite).map .call ++
      [.answer b, .call (.writeComplete o)]
    s.run early = s.run late ∧ s.history early = s.history late := by
  intro early late
  have starting : s.link.operation.settled = false := by rw [issuing]; rfl
  let x := s.aside before
  have issuingX : x.link.operation = .issuingWrite := (s.aside_operation before).trans issuing
  have heldX : x.link.locks.link = true := (congrArg Locks.link (s.aside_locks before)).trans held
  obtain ⟨toX, asidesX⟩ := run_calls_held held starting before fun c hc completes =>
    absurd (completes.symm.trans (none c hc)) nofun
  obtain ⟨defers, quiet⟩ := writeComplete_issuing issuingX o
  let y := x.aside after
  have issuingY : y.link.operation = .issuingWrite := (x.aside_operation after).trans issuingX
  have deaf := run_calls_held (s := x.holdOver o) heldX rfl after fun _ _ _ => nofun
  have calm := run_calls_held (s := x) heldX (by rw [issuingX]; rfl)
    (after.filter fun c => !c.completesWrite) fun c hc completes => by
      have kept := (List.mem_filter.mp hc).2
      rw [completes] at kept
      nomatch kept
  rw [aside_holdOver] at deaf
  rw [aside_filter, asides_filter] at calm
  let toEarly : List Move := before.map .call ++ .call (.writeComplete o) :: after.map .call
  let toLate : List Move :=
    before.map .call ++ (after.filter fun c => !c.completesWrite).map .call
  -- when the channel has been asked, the two differ in the operation alone
  have atEarly : s.run toEarly = y.holdOver o ∧
      s.history toEarly = asides before ++ asides after := by
    rw [run_append, history_append, toX, asidesX, Session.run, Session.history]
    constructor
    · exact (congrArg (Session.run · _) defers).trans deaf.1
    · rw [show (s.aside before).events (.call (.writeComplete o)) = [] from quiet]
      exact congrArg (asides before ++ ·) ((congrArg (Session.history · _) defers).trans deaf.2)
  have atLate : s.run toLate = y ∧ s.history toLate = asides before ++ asides after := by
    rw [run_append, history_append, toX, asidesX]
    exact ⟨calm.1, congrArg (asides before ++ ·) calm.2⟩
  obtain ⟨same, events⟩ := answer_holdOver issuingY hs o a b
  constructor
  · calc s.run early = (s.run toEarly).next (.answer a) := run_append s toEarly [.answer a]
      _ = (y.next (.answer b)).next (.call (.writeComplete o)) := by rw [atEarly.1, same]
      _ = (s.run toLate).run [.answer b, .call (.writeComplete o)] := by rw [atLate.1]; rfl
      _ = s.run late := (run_append s toLate _).symm
  · calc s.history early = s.history toEarly ++ ((s.run toEarly).events (.answer a) ++ []) :=
          history_append s toEarly [.answer a]
      _ = asides before ++ asides after ++ (y.events (.answer b) ++
            (y.next (.answer b)).events (.call (.writeComplete o))) := by
          rw [List.append_nil, atEarly.1, atEarly.2, events]
      _ = s.history toLate ++ (s.run toLate).history [.answer b, .call (.writeComplete o)] := by
          rw [atLate.1, atLate.2, Session.history, Session.history, Session.history,
            List.append_nil]
      _ = s.history late := (history_append s toLate _).symm

/-- The operation of a link that starts a write, as its completion has come already or not. -/
inductive StartsWrite : Operation → Bool → Prop
  | pending : StartsWrite .issuingWrite false
  | complete (o : Outcome) : StartsWrite (.writeDone o) true

theorem StartsWrite.settled_eq {op : Operation} {done : Bool} (h : StartsWrite op done) :
    op.settled = false := by
  cases h <;> rfl

theorem StartsWrite.ne_issuingWrite {op : Operation} (h : StartsWrite op true) :
    op ≠ .issuingWrite := by
  cases h
  nofun

/-- A call leaves the link where it is, or is the completion that it waits for. -/
theorem StartsWrite.next {done : Bool} (h : StartsWrite s.link.operation done)
    (held : s.link.locks.link = true) (c : Call) :
    StartsWrite (s.next (.call c)).link.operation (done || c.completesWrite) ∧
      (s.next (.call c)).link.locks.link = true := by
  by_cases first : c.completesWrite = true ∧ s.link.operation = .issuingWrite
  · obtain ⟨completes, issuing⟩ := first
    cases c with
    | writeComplete o =>
      rw [(writeComplete_issuing issuing o).1, completes, Bool.or_true]
      exact ⟨.complete o, held⟩
    | _ => nomatch completes
  · have deaf (completes : c.completesWrite = true) : s.link.operation ≠ .issuingWrite :=
      fun issuing => first ⟨completes, issuing⟩
    rw [(next_call_held held h.settled_eq deaf).1, aside_operation, aside_locks]
    refine ⟨?_, held⟩
    cases completes : c.completesWrite with
    | false =>
      rw [Bool.or_false]
      exact h
    | true =>
      have other := deaf completes
      generalize s.link.operation = op at h other ⊢
      cases h with
      | pending => exact absurd rfl other
      | complete o => exact .complete o

theorem StartsWrite.run {done : Bool} (h : StartsWrite s.link.operation done)
    (held : s.link.locks.link = true) (cs : List Call) :
    StartsWrite (s.run (cs.map .call)).link.operation (done || cs.any Call.completesWrite) ∧
      (s.run (cs.map .call)).link.locks.link = true := by
  induction cs generalizing s done with
  | nil =>
    rw [List.any_nil, Bool.or_false]
    exact ⟨h, held⟩
  | cons c cs ih =>
    obtain ⟨starts, held⟩ := h.next held c
    rw [List.any_cons, ← Bool.or_assoc]
    exact ih starts held

theorem Passage.stopped_issuedWrite {channel : ChannelId} {frame : Frame} (p : s.Passage m es s')
    (he : .issued channel (.write frame) ∈ es) :
    s'.link.operation = .issuingWrite ∧ s'.link.locks.link = true ∧
      ∃ count outer, s'.stopped = .issueWrite channel frame count :: outer := by
  cases p with
  | flushed =>
    rcases List.mem_singleton.mp he with ⟨⟩
    exact ⟨rfl, rfl, _, _, rfl⟩
  | _ => simp at he

theorem readComplete_issuing (issuing : s.link.operation = .issuingRead)
    (received : Link.Received) :
    s.advance (.call (.readComplete received)) =
        ⟨s.link, [.readRefused], none, .returned (.outcome (.error .busy))⟩ ∧
      s.next (.call (.readComplete received)) = s ∧
      s.events (.call (.readComplete received)) = [] := by
  have refused : s.advance (.call (.readComplete received)) =
      ⟨s.link, [.readRefused], none, .returned (.outcome (.error .busy))⟩ := by
    simp only [advance, Link.call, Link.readComplete, issuing]
  refine ⟨refused, ?_, ?_⟩
  · simp only [next, Session.step, refused, take]
  · rw [events_eq_issues refused (by simp only [completions, issuing, reduceCtorEq, if_false]) rfl]
    rfl

/-- In every session that a new link can come to, and whenever the periodic task asks for a write
there, it makes no difference whether the completion of the write comes before the channel has been
asked or right after, whatever else is called in the meantime: the session is the same then, and so
are the operations asked for. Until the channel has been asked the link is busy to everybody, and
once a completion has come it is deaf to others. Whenever a read is asked for, a completion that
comes before the channel has been asked is refused, whatever has been called by then, and leaves
nothing behind. -/
theorem early_completion_like_late (config : Config) (ms : List Move) :
    let s := (ofConfig config).run ms
    (∀ m channel frame, .issued channel (.write frame) ∈ s.events m →
      let x := s.next m
      (∀ (o : Outcome) (before after : List Call) (a b : Option Request),
        (∀ c ∈ before, c.completesWrite = false) →
        let early := before.map .call ++ .call (.writeComplete o) :: after.map .call ++ [.answer a]
        let late := before.map .call ++ (after.filter fun c => !c.completesWrite).map .call ++
          [.answer b, .call (.writeComplete o)]
        x.run early = x.run late ∧ x.history early = x.history late) ∧
      ∀ nested : List Call,
        let z := x.run (nested.map .call)
        (nested.any Call.completesWrite = true → ∀ o,
          z.next (.call (.writeComplete o)) = z ∧ z.events (.call (.writeComplete o)) = []) ∧
        (∀ r, z.next (.call (.service r)) = z ∧
          (z.advance (.call (.service r))).served = some r ∧
          (z.advance (.call (.service r))).turn = .returned (.progress .pending)) ∧
        (∀ other, z.next (.call (.attach other)) = z ∧
          (z.advance (.call (.attach other))).turn = .returned (.outcome (.error .busy))) ∧
        z.next (.call .runTask) = z ∧ z.events (.call .runTask) = []) ∧
    ∀ m channel, .issued channel .read ∈ s.events m →
      ∀ nested : List Call,
        let z := (s.next m).run (nested.map .call)
        ∀ received,
          (z.advance (.call (.readComplete received))).turn =
            .returned (.outcome (.error .busy)) ∧
          z.next (.call (.readComplete received)) = z ∧
          ∀ again, z.run (.call (.readComplete received) :: again) = z.run again ∧
            z.history (.call (.readComplete received) :: again) = z.history again := by
  intro s
  have steady : s.Steady := steady_run config ms
  constructor
  · intro m channel frame he x
    obtain ⟨issuing, held, count, outer, stopped⟩ :=
      (passage steady.toSound m).stopped_issuedWrite he
    refine ⟨fun o before after a b none => run_early_eq_late issuing held stopped o after a b none,
      ?_⟩
    intro nested z
    have begun : StartsWrite x.link.operation false := issuing ▸ .pending
    obtain ⟨starts, heldZ⟩ : StartsWrite z.link.operation (nested.any Call.completesWrite) ∧
        z.link.locks.link = true := begun.run held nested
    have still {c : Call} (hc : c.completesWrite = true → z.link.operation ≠ .issuingWrite) :
        z.next (.call c) = z.aside [c] ∧ z.events (.call c) = asides [c] :=
      next_call_held heldZ starts.settled_eq hc
    have apart {c : Call} (none : c.completesWrite = false) :
        z.next (.call c) = z.aside [c] ∧ z.events (.call c) = asides [c] :=
      still fun completes => absurd completes (Bool.eq_false_iff.mp none)
    refine ⟨fun complete o => ?_, fun r => ⟨(apart (c := .service r) rfl).1, ?_⟩,
      fun other => ⟨(apart (c := .attach other) rfl).1, ?_⟩, apart (c := .runTask) rfl⟩
    · rw [complete] at starts
      exact still fun _ => starts.ne_issuingWrite
    · simp only [advance, Link.call, Link.service_held heldZ, and_self]
    · simp only [advance, Link.call, Link.attach_held heldZ]
  · intro m channel he nested z received
    have p := passage steady.toSound m
    have issuing : (s.next m).link.operation = .issuingRead := p.issuedRead he
    have held : (s.next m).link.locks.link = true :=
      (p.sound steady.toSound).busy (Operation.ne_idle_of_reads (by rw [issuing]; rfl))
    have same : z = (s.next m).aside nested :=
      (run_calls_held held (by rw [issuing]; rfl) nested fun _ _ _ => by rw [issuing]; decide).1
    have issuingZ : z.link.operation = .issuingRead := by
      rw [same, aside_operation, issuing]
    obtain ⟨refused, unchanged, quiet⟩ := readComplete_issuing issuingZ received
    refine ⟨by rw [refused], unchanged, fun again => ?_⟩
    rw [Session.run, Session.history, unchanged, quiet]
    exact ⟨rfl, rfl⟩

-- the completion comes early, and the poll that it starts is what is demanded next
example :
    ((ofConfig {}).run
      [.call (.attach 0), .call (.service { direction := .write, buffer := [1, 2, 3] }),
        .call .runTask, .call (.writeComplete .ok), .call (.writeComplete (.error .io)),
        .answer none]).stopped = [.issueRead 0] := by
  decide +kernel

end Session

end PolledLink
