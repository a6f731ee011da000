import PolledLink.Bench.State

/-! A bench as the host of a link. Whenever the link reaches a place that has hooks, the oldest of
them is run before the link goes on. -/

namespace PolledLink.Bench

/-- Carries out an operation inside another. -/
abbrev Inner := Op → BenchM Report

def record (e : Event) : BenchM Unit := modify fun w => w.record e

/-- Runs the oldest hook of a place, if there is one. -/
def reach (inner : Inner) (place : Place) : BenchM Unit := do
  let (hook, w) := (← get).unhook place
  set w
  match hook with
  | none => pure ()
  | some ops =>
    record (.hook place)
    ops.forM fun op => do record (.nested (← inner op))

/-- Starts an operation: in the mailbox, if that is what is attached, or else on the wire. -/
def issue (inner : Inner) (place : Place) (put : Mailbox → Mailbox) (e : Event) (op : OnWire) :
    BenchM Unit := do
  match (← get).mailbox with
  | some box => modify fun w => { w with mailbox := some (put box) }
  | none =>
    record e
    modify fun w => { w with wire := w.wire ++ [op] }
    reach inner place

def answer (inner : Inner) : Demand → BenchM (Option Request)
  | .issueWrite channel frame _ => do
    issue inner .issueWrite (·.issueWrite frame.bytes) (.issuedWrite frame channel) (.write frame)
    pure none
  | .issueRead channel => do
    issue inner .issueRead (·.issueRead) (.issuedRead channel) .read
    pure none
  | .head unit => do
    reach inner (.head unit)
    pure ((← get).queue unit).head?
  | .complete unit outcome => do
    let rs := (← get).queue unit
    modify fun w => if w.keeps then w else w.setQueue unit rs.tail
    record (.completed unit outcome rs.head?)
    reach inner (.complete unit)
    pure none

def move (m : Session.Move) : BenchM Advance := do
  let w ← get
  let (a, session) := w.session.step m
  set ({ w with session }.notes a.notes)
  pure a

def putBack (unit : LinkUnit) (r : Request) : BenchM Unit :=
  modify fun w =>
    match w.queue unit with
    | [] => w
    | _ :: rs => w.setQueue unit (r :: rs)

def host (inner : Inner) : Host BenchM where
  move := move
  answer := answer inner
  putBack := putBack

end PolledLink.Bench
