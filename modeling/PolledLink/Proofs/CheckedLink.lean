import PolledLink.Proofs.Checks
import PolledLink.Proofs.Moves

/-! A link that checks all its accesses, among them that the link lock is held wherever it reaches for
what the lock guards. In a sound session it does what the link does without the checks, provided that
the requests handed to it are no further on than they are long. -/

namespace PolledLink

def Schedule.tick? (s : Schedule) : Option (Bool × Schedule) :=
  if s.installed then
    if s.countdown ≤ 1 then some (true, { s with countdown := max s.interval 1 })
    else do
      let countdown ← minus? s.countdown 1
      some (false, { s with countdown })
  else some (false, s)

theorem Schedule.tick?_eq (s : Schedule) : s.tick? = some s.tick := by
  unfold tick? tick
  split
  · split
    · rfl
    · rw [minus?_of_le (by omega)]
      rfl
  · rfl

namespace Link

/-- What the link lock guards is reached only with the lock held. -/
def guarded? (l : Link) : Option Link := if l.locks.link then some l else none

def unlock? (l : Link) : Option Link := do
  let l ← l.guarded?
  some l.unlock

def attach? (l : Link) (channel : ChannelId) : Option (Outcome × Link × List Note) :=
  match l.locks.acquire? .link with
  | none => some (.error .busy, l, [])
  | some locks => do
    let l ← { l with locks }.guarded?
    let l ← { l with channel := some channel, configured := true }.unlock?
    some (.ok, l, [.attached])

def service? (l : Link) (r : Request) : Option Serviced :=
  match l.locks.acquire? .link with
  | none => some ⟨l, r, .pending, [.leftPending r.direction]⟩
  | some locks =>
    let l := { l with locks }
    match l.failure? with
    | some e => do
      let progress := .ready (.error e)
      some ⟨← l.unlock?, { r with progress }, progress, [.failing r.direction e]⟩
    | none => do
      let l ← l.guarded?
      let (buffers, r, count) ← l.buffers.exchange? r
      let l := { l with buffers }
      let notes := [.moved r.direction count r.processed r.requested]
      if r.processed = r.requested then
        some ⟨← l.unlock?, { r with progress := .ready .ok }, .ready .ok, notes⟩
      else some ⟨← l.nudge.unlock?, { r with progress := .pending }, .pending, notes⟩

def abandon? (l : Link) (e : Error) : Option Advance := do
  let l ← { l with operation := .idle, result := .error e }.unlock?
  some (.done l [.notStarted e])

def flush? (l : Link) : Option Advance := do
  let l ← { l with operation := .issuingWrite }.guarded?
  match l.channel with
  | none => l.abandon? .notConfigured
  | some channel =>
    match ← l.buffers.stamp? l.config.source with
    | .error e => l.abandon? e
    | .ok buffers =>
      some (.demand { l with buffers } [] (.issueWrite channel buffers.tx l.buffers.writePos))

def poll? (l : Link) : Option Advance := do
  let l ← { l with operation := .issuingRead }.guarded?
  match l.channel with
  | none => l.abandon? .notConfigured
  | some channel => some (.demand l [] (.issueRead channel))

def finishWrite? (l : Link) (outcome : Outcome) : Option Advance :=
  let l := { l with result := outcome }
  match outcome with
  | .ok => do
    let l ← l.guarded?
    let l := { l with buffers := l.buffers.reset }
    if l.nextAction = .poll then
      let a ← l.poll?
      some (a.after [.chainedPoll])
    else
      let l ← l.unlock?
      some (.done l.nudge [])
  | .error e => do
    let l ← l.unlock?
    some (.done l.nudge [.writeFailed e])

/-- The operation has the lock now, from which a completion that came early takes it back. -/
def writeIssued? (l : Link) (count : Nat) : Option Advance := do
  let l ← l.guarded?
  let l := l.publish
  let a ←
    match l.operation with
    | .issuingWrite => some (.done { l with operation := .writing } [])
    | .writeDone outcome => do
      let l ← { l with operation := .idle }.guarded?
      let a ← l.finishWrite? outcome
      some (a.after [.heldOver outcome])
    | operation => some (.done l [.unexpectedOperation operation.code])
  some (a.after [.flushing count])

def readIssued? (l : Link) : Option Advance := do
  let l ← l.guarded?
  let l := l.publish
  match l.operation with
  | .issuingRead => some (.done { l with operation := .reading } [.polling])
  | operation => some (.done l [.polling, .unexpectedOperation operation.code])

def wake? (l : Link) : Option Advance := do
  let l ← l.guarded?
  let l := { l with wakeScheduled := l.wakeScheduled && l.failure?.isSome }
  match l.locks.acquire? .wake with
  | none =>
    let l ← l.unlock?
    some (.done l [.wakeRunning])
  | some locks =>
    let l ← { l with locks }.unlock?
    some (.demand l [] (.head .input))

def offered? (l : Link) (unit : LinkUnit) (request : Option Request) : Option Advance :=
  match request.filter Request.isPending with
  | none => some (l.passOn unit)
  | some r => do
    let s ← l.service? r
    match s.progress with
    | .ready outcome =>
      some ⟨s.link, s.notes ++ [.requestComplete unit outcome], some s.request,
        .demand (.complete unit outcome)⟩
    | .pending => some { (s.link.passOn unit).after s.notes with served := some s.request }

def runTask? (l : Link) : Option Advance :=
  match l.locks.acquire? .link with
  | none => some (.done l [.taskSkipped])
  | some locks => do
    let l ← { l with locks }.guarded?
    let action := l.nextAction
    let a ←
      match action with
      | .flush => l.flush?
      | .poll => l.poll?
      | .wake => l.wake?
    some (a.after [.taskRuns action])

def onTimer? (l : Link) : Option Advance := do
  let (due, schedule) ← l.schedule.tick?
  let l := { l with schedule }
  if due then l.runTask? else some (.done l [])

def writeComplete? (l : Link) (outcome : Outcome) : Option Advance :=
  match l.operation with
  | .writing => do
    let l ← { l with operation := .idle }.guarded?
    l.finishWrite? outcome
  | .issuingWrite => some (.done { l with operation := .writeDone outcome } [.writeDeferred])
  | _ => some (.done l [.strayWrite])

def receive? (l : Link) (received : Received) : Option (Outcome × Link × List Note) := do
  let reply : Except (Error × List Note) Reply ←
    match received with
    | .error e => some (.error (e, []))
    | .ok bs => do
      let reply ← Reply.read? bs
      some (reply.mapError fun r => (r.error, r.notes))
  match reply with
  | .ok r =>
    let overflow ← r.overflow?
    let l ← l.guarded?
    let buffers ← l.buffers.load? r
    some (.ok, { l with buffers, wakeScheduled := true, discards := 0, result := .ok },
      [.accepted r.source r.buffered overflow])
  | .error (e, notes) =>
    if e.isTransient then
      let (l, more) := l.discard e
      some (.error e, l, notes ++ more)
    else some (.error e, { l with result := .error e }, notes ++ [.readFailed e])

def readComplete? (l : Link) (received : Received) : Option (Outcome × Link × List Note) :=
  match l.operation with
  | .reading => do
    let l ← { l with operation := .idle }.guarded?
    let (outcome, l, notes) ← l.receive? received
    let l ← l.unlock?
    some (outcome, l.nudge, notes)
  | .issuingRead => some (.error .busy, l, [.readRefused])
  | _ => some (.ok, l, [.strayRead])

def call? (l : Link) : Call → Option Advance
  | .attach channel => do
    let (outcome, l, notes) ← l.attach? channel
    some ⟨l, notes, none, .returned (.outcome outcome)⟩
  | .onTimer => l.onTimer?
  | .runTask => l.runTask?
  | .service request => do
    let s ← l.service? request
    some ⟨s.link, s.notes, some s.request, .returned (.progress s.progress)⟩
  | .writeComplete outcome => l.writeComplete? outcome
  | .readComplete received => do
    let (outcome, l, notes) ← l.readComplete? received
    some ⟨l, notes, none, .returned (.outcome outcome)⟩
  -- nothing that the lock guards, and no bytes
  | c => some (l.call c)

def resume? (l : Link) (d : Demand) (shown : Option Request) : Option Advance :=
  match d with
  | .issueWrite _ _ count => l.writeIssued? count
  | .issueRead _ => l.readIssued?
  | .head unit => l.offered? unit shown
  | .complete unit _ => some (l.passOn unit)

variable {l : Link}

theorem guarded?_of_held (held : l.locks.link = true) : l.guarded? = some l := if_pos held

theorem unlock?_of_held (held : l.locks.link = true) : l.unlock? = some l.unlock := by
  rw [unlock?, guarded?_of_held held]
  rfl

theorem attach?_eq (l : Link) (channel : ChannelId) :
    l.attach? channel = some (l.attach channel) := by
  unfold attach? attach
  cases held : l.locks.link with
  | true => rw [acquire?_held held]
  | false =>
    have taken : (l.locks.set .link true).link = true := rfl
    simp only [acquire?_free held, guarded?_of_held, unlock?_of_held, taken, Option.bind_eq_bind,
      Option.bind_some]

theorem service?_eq (h : l.buffers.InBounds) {r : Request} (fits : r.processed ≤ r.requested) :
    l.service? r = some (l.service r) := by
  unfold service? service
  cases held : l.locks.link with
  | true => rw [acquire?_held held]
  | false =>
    have taken : (l.locks.set .link true).link = true := rfl
    have nudged {l : Link} (held : l.locks.link = true) : l.nudge.unlock? = some l.nudge.unlock :=
      unlock?_of_held held
    simp only [acquire?_free held, guarded?_of_held, unlock?_of_held, taken, nudged,
      h.exchange?_eq fits, Option.bind_eq_bind, Option.bind_some]
    cases { l with locks := l.locks.set .link true }.failure? with
    | some e => rfl
    | none =>
      dsimp only
      split <;> rfl

-- a request that is further on than it is long would be out of range
example : ((ofConfig {}).service? ⟨.write, [7], 2, .pending⟩).isNone := by decide +kernel

theorem abandon?_of_held (held : l.locks.link = true) (e : Error) :
    l.abandon? e = some (l.abandon e) := by
  simp only [abandon?, abandon, unlock?_of_held, held, Option.bind_eq_bind, Option.bind_some]

theorem flush?_of_held (held : l.locks.link = true) : l.flush? = some l.flush := by
  simp only [flush?, flush, guarded?_of_held, abandon?_of_held, held, Buffers.stamp?_eq,
    Option.bind_eq_bind, Option.bind_some]
  cases l.channel with
  | none => rfl
  | some channel => cases l.buffers.stamp l.config.source <;> rfl

theorem poll?_of_held (held : l.locks.link = true) : l.poll? = some l.poll := by
  simp only [poll?, poll, guarded?_of_held, abandon?_of_held, held, Option.bind_eq_bind,
    Option.bind_some]
  cases l.channel <;> rfl

theorem finishWrite?_of_held (held : l.locks.link = true) (o : Outcome) :
    l.finishWrite? o = some (l.finishWrite o) := by
  cases o with
  | error e =>
    simp only [finishWrite?, finishWrite, unlock?_of_held, held, Option.bind_eq_bind,
      Option.bind_some]
  | ok =>
    simp only [finishWrite?, finishWrite, guarded?_of_held, unlock?_of_held, poll?_of_held, held,
      Option.bind_eq_bind, Option.bind_some]
    split <;> rfl

theorem writeIssued?_of_held (held : l.locks.link = true) (count : Nat) :
    l.writeIssued? count = some (l.writeIssued count) := by
  have published : l.publish.locks.link = true := held
  simp only [writeIssued?, writeIssued, guarded?_of_held, finishWrite?_of_held, held, published,
    Option.bind_eq_bind, Option.bind_some]
  cases l.publish.operation <;> rfl

theorem readIssued?_of_held (held : l.locks.link = true) : l.readIssued? = some l.readIssued := by
  simp only [readIssued?, readIssued, guarded?_of_held, held, Option.bind_eq_bind,
    Option.bind_some]
  cases l.publish.operation <;> rfl

theorem wake?_of_held (held : l.locks.link = true) : l.wake? = some l.wake := by
  have still : (l.locks.set .wake true).link = true := held
  simp only [wake?, wake, guarded?_of_held, unlock?_of_held, held, Option.bind_eq_bind,
    Option.bind_some]
  cases spare : l.locks.wake with
  | true =>
    have refused : l.locks.acquire? .wake = none := if_pos spare
    simp only [refused]
  | false =>
    have taken : l.locks.acquire? .wake = some (l.locks.set .wake true) :=
      if_neg (ne_true_of_eq_false spare)
    simp only [taken, unlock?_of_held, still, Option.bind_some]

theorem runTask?_eq (l : Link) : l.runTask? = some l.runTask := by
  unfold runTask? runTask
  cases held : l.locks.link with
  | true => rw [acquire?_held held]
  | false =>
    have taken : (l.locks.set .link true).link = true := rfl
    simp only [acquire?_free held, guarded?_of_held, flush?_of_held, poll?_of_held, wake?_of_held,
      taken, Option.bind_eq_bind, Option.bind_some]
    cases { l with locks := l.locks.set .link true }.nextAction <;> rfl

theorem onTimer?_eq (l : Link) : l.onTimer? = some l.onTimer := by
  simp only [onTimer?, onTimer, Schedule.tick?_eq, runTask?_eq, Option.bind_eq_bind,
    Option.bind_some]
  split <;> rfl

theorem offered?_eq (h : l.buffers.InBounds) (unit : LinkUnit) {shown : Option Request}
    (fits : ∀ r ∈ shown, r.processed ≤ r.requested) :
    l.offered? unit shown = some (l.offered unit shown) := by
  unfold offered? offered
  cases pending : shown.filter Request.isPending with
  | none => rfl
  | some r =>
    have mem : r ∈ shown := (Option.filter_eq_some_iff.mp pending).1
    simp only [service?_eq h (fits r mem), Option.bind_eq_bind, Option.bind_some]
    cases (l.service r).progress <;> rfl

theorem writeComplete?_eq (held : l.operation ≠ .idle → l.locks.link = true) (o : Outcome) :
    l.writeComplete? o = some (l.writeComplete o) := by
  unfold writeComplete? writeComplete
  cases hop : l.operation with
  | writing =>
    have held := held (by rw [hop]; nofun)
    simp only [guarded?_of_held, finishWrite?_of_held, held, Option.bind_eq_bind,
      Option.bind_some]
  | _ => rfl

theorem receive?_of_held (held : l.locks.link = true) (received : Received) :
    l.receive? received = some (l.receive received) := by
  unfold receive? receive
  cases received with
  | error e =>
    simp only [Option.bind_eq_bind, Option.bind_some]
    split <;> rfl
  | ok bs =>
    simp only [Reply.read?_eq, Reply.overflow?_eq, Buffers.load?_eq, guarded?_of_held, held,
      Option.bind_eq_bind, Option.bind_some]
    cases Reply.read bs with
    | ok r => rfl
    | error rejection =>
      dsimp only [Except.mapError]
      split <;> rfl

theorem locks_receive (l : Link) (received : Received) :
    (l.receive received).2.1.locks = l.locks := by
  cases h : received.reply with
  | ok r =>
    obtain ⟨notes, told⟩ := l.receive_accepted h
    rw [told]
  | error e =>
    obtain ⟨notes, told⟩ := l.receive_refused h
    rw [told]
    dsimp only
    split
    · rw [discard_eq]
    · rfl

theorem readComplete?_eq (held : l.operation ≠ .idle → l.locks.link = true)
    (received : Received) : l.readComplete? received = some (l.readComplete received) := by
  unfold readComplete? readComplete
  cases hop : l.operation with
  | reading =>
    have held := held (by rw [hop]; nofun)
    have kept := congrArg Locks.link (locks_receive { l with operation := .idle } received)
    simp only [guarded?_of_held, receive?_of_held, unlock?_of_held, kept, held, Option.bind_eq_bind,
      Option.bind_some]
  | _ => rfl

theorem call?_eq (held : l.operation ≠ .idle → l.locks.link = true) (h : l.buffers.InBounds)
    {c : Call} (fits : ∀ r ∈ (Session.Move.call c).request?, r.processed ≤ r.requested) :
    l.call? c = some (l.call c) := by
  cases c with
  | attach channel =>
    simp only [call?, call, attach?_eq, Option.bind_eq_bind, Option.bind_some]
  | onTimer => exact onTimer?_eq l
  | runTask => exact runTask?_eq l
  | service r =>
    simp only [call?, call, service?_eq h (fits r rfl), Option.bind_eq_bind, Option.bind_some]
  | writeComplete o => exact writeComplete?_eq held o
  | readComplete received =>
    simp only [call?, call, readComplete?_eq held, Option.bind_eq_bind, Option.bind_some]
  | _ => rfl

end Link

namespace Session

def advance? (s : Session) : Move → Option Advance
  | .call c => s.link.call? c
  | .answer shown =>
    match s.stopped with
    | d :: _ => s.link.resume? d shown
    | [] => some (.done s.link [])

def step? (s : Session) (m : Move) : Option (Advance × Session) := do
  let a ← s.advance? m
  match m with
  | .call _ => some (a, take a s.stopped)
  | .answer _ => some (a, take a s.stopped.tail)

variable {s : Session} {m : Move}

theorem Sound.advance?_eq (h : s.Sound) (fits : ∀ r ∈ m.request?, r.processed ≤ r.requested) :
    s.advance? m = some (s.advance m) := by
  cases m with
  | call c => exact Link.call?_eq h.busy h.inBounds fits
  | answer shown =>
    have stacked := h.stacked
    unfold advance? advance
    generalize hs : s.stopped = stopped at stacked
    cases stopped with
    | nil => rfl
    | cons d outer =>
      cases d with
      | issueWrite channel frame count =>
        have inFlight : s.link.operation ≠ .idle := by
          rcases stacked.of_issueWrite.1 with issuing | ⟨o, done⟩
          · rw [issuing]; nofun
          · rw [done]; nofun
        exact Link.writeIssued?_of_held (h.busy inFlight) count
      | issueRead channel =>
        have inFlight : s.link.operation ≠ .idle := by rw [stacked.of_issueRead.1]; nofun
        exact Link.readIssued?_of_held (h.busy inFlight)
      | head unit => exact Link.offered?_eq h.inBounds unit fits
      | complete unit outcome => rfl

theorem Sound.step?_eq (h : s.Sound) (fits : ∀ r ∈ m.request?, r.processed ≤ r.requested) :
    s.step? m = some (s.step m) := by
  unfold step? Session.step
  rw [h.advance?_eq fits]
  cases m <;> rfl

end Session

end PolledLink
