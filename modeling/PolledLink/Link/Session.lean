import PolledLink.Link.Completion
import PolledLink.Link.Control

/-! A session with a link: the link together with the calls into it that have stopped with a demand,
the newest first. A move either makes a new call, inside the stopped ones, or answers the demand of
the newest. Runs with calls nested in any way are the lists of moves. -/

namespace PolledLink

inductive Call
  | attach (channel : ChannelId)
  | openUnit (unit : LinkUnit)
  | closeUnit (unit : LinkUnit)
  | setPollInterval (ticks : Nat)
  | onTimer
  | runTask
  | service (request : Request)
  | writeComplete (outcome : Outcome)
  | readComplete (received : Link.Received)

namespace Link

def call (l : Link) : Call → Advance
  | .attach channel =>
    let (outcome, l, notes) := l.attach channel
    ⟨l, notes, none, .returned (.outcome outcome)⟩
  | .openUnit unit =>
    let (outcome, l, notes) := l.openUnit unit
    ⟨l, notes, none, .returned (.outcome outcome)⟩
  | .closeUnit unit =>
    let (l, notes) := l.closeUnit unit
    ⟨l, notes, none, .returned (.outcome .ok)⟩
  | .setPollInterval ticks => .done (l.setPollInterval ticks) []
  | .onTimer => l.onTimer
  | .runTask => l.runTask
  | .service request =>
    let s := l.service request
    ⟨s.link, s.notes, some s.request, .returned (.progress s.progress)⟩
  | .writeComplete outcome => l.writeComplete outcome
  | .readComplete received =>
    let (outcome, l, notes) := l.readComplete received
    ⟨l, notes, none, .returned (.outcome outcome)⟩

/-- Goes on with a stopped call. Only a demand for the oldest request has regard to `shown`. -/
def resume (l : Link) (d : Demand) (shown : Option Request) : Advance :=
  match d with
  | .issueWrite _ _ count => l.writeIssued count
  | .issueRead _ => l.readIssued
  | .head unit => l.offered unit shown
  | .complete unit _ => l.passOn unit

theorem finishWrite_demand {l : Link} {o : Outcome} {d : Demand}
    (h : (l.finishWrite o).turn = .demand d) : ∃ channel, d = .issueRead channel := by
  cases o with
  | error e => cases h
  | ok =>
    simp only [finishWrite] at h
    split at h
    · simp only [poll, Advance.after] at h
      split at h
      · cases h
      · exact ⟨_, (Turn.demand.inj h).symm⟩
    · cases h

/-- Answering a demand brings the call nearer to its end. -/
theorem remaining_lt_of_resume {l : Link} {d next : Demand} {shown : Option Request}
    (h : (l.resume d shown).turn = .demand next) : next.remaining < d.remaining := by
  cases d with
  | issueWrite channel frame count =>
    simp only [resume, writeIssued, Advance.after] at h
    split at h
    · cases h
    · obtain ⟨_, rfl⟩ := finishWrite_demand h
      exact Nat.zero_lt_one
    · cases h
  | issueRead channel =>
    simp only [resume, readIssued] at h
    split at h <;> cases h
  | complete unit outcome =>
    cases unit <;> cases h
    simp [Demand.remaining]
  | head unit =>
    simp only [resume, offered] at h
    split at h
    · cases unit <;> cases h
      simp [Demand.remaining]
    · split at h
      · cases Turn.demand.inj h
        cases unit <;> simp [Demand.remaining]
      · cases unit <;> cases h
        simp [Demand.remaining]

end Link

structure Session where
  link : Link
  stopped : List Demand := []

inductive Session.Move
  | call (c : Call)
  | answer (shown : Option Request)

namespace Session

def ofConfig (config : Config) : Session := { link := .ofConfig config }

/-- The session when the newest call has come as far as `a`, inside the calls `outer`. -/
def take (a : Advance) (outer : List Demand) : Session where
  link := a.link
  stopped :=
    match a.turn with
    | .demand d => d :: outer
    | .returned _ => outer

/-- An answer that nothing has asked for changes nothing. -/
def advance (s : Session) : Move → Advance
  | .call c => s.link.call c
  | .answer shown =>
    match s.stopped with
    | d :: _ => s.link.resume d shown
    | [] => .done s.link []

/-- Makes a move, and tells how far the call concerned has come by it. -/
def step (s : Session) (m : Move) : Advance × Session :=
  let a := s.advance m
  match m with
  | .call _ => (a, take a s.stopped)
  | .answer _ => (a, take a s.stopped.tail)

def next (s : Session) (m : Move) : Session := (s.step m).2

theorem step_fst (s : Session) (m : Move) : (s.step m).1 = s.advance m := by
  cases m <;> rfl

theorem next_link (s : Session) (m : Move) : (s.next m).link = (s.advance m).link := by
  cases m <;> rfl

variable {s : Session} {d : Demand} {outer : List Demand}

theorem advance_answer (hs : s.stopped = d :: outer) (shown : Option Request) :
    s.advance (.answer shown) = s.link.resume d shown := by
  simp only [advance, hs]

theorem next_answer (hs : s.stopped = d :: outer) (shown : Option Request) :
    s.next (.answer shown) = take (s.link.resume d shown) outer := by
  simp only [next, step, advance_answer hs, hs, List.tail_cons]

theorem advance_answer_nil (hs : s.stopped = []) (shown : Option Request) :
    s.advance (.answer shown) = .done s.link [] := by
  simp only [advance, hs]

theorem next_answer_nil (hs : s.stopped = []) (shown : Option Request) :
    s.next (.answer shown) = s := by
  simp only [next, step, advance_answer_nil hs, hs, take, Advance.done, List.tail_nil]
  rw [← hs]

def run (s : Session) : List Move → Session
  | [] => s
  | m :: moves => (s.next m).run moves

theorem run_append (s : Session) (first second : List Move) :
    s.run (first ++ second) = (s.run first).run second := by
  induction first generalizing s with
  | nil => rfl
  | cons m _ ih => exact ih (s.next m)

end Session

end PolledLink
