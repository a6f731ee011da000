import PolledLink.Bench.Transport

/-! A bench carries out scripts. An operation is carried out with the means to carry out others
inside it, for the hooks of the places that it reaches. -/

namespace PolledLink.Bench

/-- Ticks once. Tells whether anything happened, apart from notes. -/
def tick (inner : Inner) : BenchM Bool := do
  let earlier := (← get).events
  modify fun w => { w with events := [] }
  (host inner).run .onTimer
  let fresh := (← get).events
  modify fun w => { w with events := fresh ++ earlier }
  pure (fresh.any fun e => !e.isNote)

/-- Ticks `count` times. Tells in which of the ticks, counted from `first`, anything happened, after
those that are `known` with the latest first. -/
def ticks (inner : Inner) : Nat → Nat → List Nat → BenchM (List Nat)
  | 0, _, known => pure known.reverse
  | count + 1, first, known => do
    let eventful ← tick inner
    ticks inner count (first + 1) (if eventful then first :: known else known)

/-- Completes one operation as the peer would. Counts writes, and collects the outcomes of reads,
the newest first. -/
def serveOne (inner : Inner) (tally : Nat × List Outcome) : OnWire → BenchM (Nat × List Outcome)
  | .write frame => do
    modify fun w => { w with peer := w.peer.take frame.bytes }
    (host inner).run (.writeComplete .ok)
    pure (tally.1 + 1, tally.2)
  | .read => do
    let (count, area, peer) := (← get).peer.replyInto (Block.zero frameLength)
    modify fun w => { w with peer }
    let outcome ← (host inner).outcome (.readComplete (.ok (area.bytes.take count)))
    pure (tally.1, outcome :: tally.2)

/-- Serves whatever is on the wire, for up to `bound` rounds, until nothing is. -/
def serve (inner : Inner) : Nat → Nat × List Outcome → BenchM (Nat × List Outcome)
  | 0, tally => pure tally
  | bound + 1, tally => do
    let wire := (← get).wire
    if wire.isEmpty then pure tally
    else do
      modify fun w => { w with wire := [] }
      serve inner bound (← wire.foldlM (serveOne inner) tally)

/-- Steps the runner `count` times, after steps whose outcomes are `known` with the latest first. -/
def steps (r : Runner BenchM) (bound : Nat) :
    Nat → List Outcome → Frame → BenchM (List Outcome × Frame)
  | 0, known, buffer => pure (known.reverse, buffer)
  | count + 1, known, buffer => do
    let (outcome, buffer) ← r.step bound buffer
    steps r bound count (outcome :: known) buffer

/-- Carries out operations `count` times over. Gives the reports of the last time. -/
def times (inner : Inner) (ops : List Op) : Nat → List Report → BenchM (List Report)
  | 0, reports => pure reports
  | count + 1, _ => do times inner ops count (← ops.mapM inner)

/-- Whether the runner should stop after so many steps. -/
def stepsDone (unit : LinkUnit) (pending limit count : Nat) : BenchM Bool := do
  pure (limit ≤ count || ((← get).queue unit).length ≤ pending)

def service (inner : Inner) (r : Request) : BenchM (Progress × Request) := do
  match ← (host inner).invoke (.service r) with
  | (.progress p, some r) => pure (p, r)
  | _ => pure (.pending, r)

/-- Carries out one operation. Loops that depend on the link go through at most `bound` rounds. -/
def execute (inner : Inner) (bound : Nat) : Op → BenchM Result
  | .attach channel => do pure (.outcome (← (host inner).outcome (.attach channel)))
  | .openUnit unit => do pure (.outcome (← (host inner).outcome (.openUnit unit)))
  | .closeUnit unit => do pure (.outcome (← (host inner).outcome (.closeUnit unit)))
  | .setPollInterval count => do
    (host inner).run (.setPollInterval count)
    pure .nothing
  | .query => do pure (.link (← get).link)
  | .tick count => do pure (.due (← ticks inner count 1 []))
  | .runTask => do
    (host inner).run .runTask
    pure .nothing
  | .writeDone outcome => do
    modify fun w => { w with wire := [] }
    (host inner).run (.writeComplete outcome)
    pure .nothing
  | .readDone received => do
    let outcome ← (host inner).outcome (.readComplete received)
    if outcome ≠ .error .busy then modify fun w => { w with wire := [] }
    pure (.outcome outcome)
  | .prepare id r => do
    modify fun w => w.keepRequest id r
    pure (.request (some r))
  | .service id => do
    match (← get).request? id with
    | none => pure .nothing
    | some r =>
      let (p, r) ← service inner r
      modify fun w => w.keepRequest id r
      pure (.serviced p r)
  | .enqueue id unit => do
    match (← get).request? id with
    | none => pure .nothing
    | some r =>
      modify fun w => (w.dropRequest id).append unit r
      pure .nothing
  | .push unit r => do
    modify fun w => w.append unit r
    pure .nothing
  | .pop unit => do
    let rs := (← get).queue unit
    modify fun w => w.setQueue unit rs.tail
    pure (.request rs.head?)
  | .submit unit r => do
    if ((← get).queue unit).isEmpty then do
      let (p, r) ← service inner r
      if r.isPending then modify fun w => w.append unit r
      pure (.serviced p r)
    else do
      modify fun w => w.append unit r
      pure .queued
  | .keep on => do
    modify fun w => { w with keeps := on }
    pure .nothing
  | .hook place ops => do
    modify fun w => { w with hooks := w.hooks ++ [(place, ops)] }
    pure .nothing
  | .script direction transfers => do
    modify fun w =>
      match direction with
      | .read => { w with reads := w.reads ++ transfers }
      | .write => { w with writes := w.writes ++ transfers }
    pure .nothing
  | .peerLoad bs => do
    modify fun w => { w with peer := { w.peer with outbox := w.peer.outbox ++ bs } }
    pure .nothing
  | .peer => do
    let peer := (← get).peer
    pure (.peer peer.received peer.outbox.length)
  | .times count ops => do pure (.last (← times inner ops count []))
  | .serve => do
    let (writes, reads) ← serve inner bound (0, [])
    pure (.served writes reads.reverse)
  | .runner transport => do
    let outcome ← (host inner).outcome (.attach 0)
    if outcome = .ok then
      modify fun w => { w with runner := some (transport, Block.zero frameLength) }
    pure (.outcome outcome)
  | .step count => do
    let outcomes ← withRunner inner fun r buffer => steps r bound count [] buffer
    pure (.steps (outcomes.getD []))
  | .runUntil unit pending limit => do
    let count ← withRunner inner fun r buffer =>
      r.runUntil bound (stepsDone unit pending limit) (delay inner) (limit + 1) 0 buffer
    pure (.stepped (count.getD 0))
  | .take => do
    let (operation, frame) ← takeOut (Block.zero frameLength)
    pure (.taken operation frame)

/-- Carries out an operation, with operations nested up to `depth`. Each reports its own events. -/
def perform : Nat → Inner
  | 0, _ => do pure ((← get).report .nothing)
  | depth + 1, op => do
    let outer := (← get).events
    modify fun w => { w with events := [] }
    let result ← execute (perform depth) depth op
    let report := (← get).report result
    modify fun w => { w with events := outer }
    pure report

/-- No script nests deeper, or takes more rounds in a loop, than it has operations to carry out.
Each of them starts at most two operations on the channel. -/
def depthFor (ops : List Op) : Nat := 4 * weights ops + 16

/-- Carries out a script from a fresh state. -/
def run (state : State) (ops : List Op) : List Report :=
  ((ops.mapM (perform (depthFor ops))).run state).run.1

end PolledLink.Bench
