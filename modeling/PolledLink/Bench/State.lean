import PolledLink.Bench.Report
import PolledLink.Link.Host
import PolledLink.Peer

/-! Everything beside the link that a bench keeps: the queues and the single requests of the host,
the hooks and transfers that a script has set up, the operations that are on their way to the peer,
and the peer itself. -/

namespace PolledLink.Bench

/-- An operation on its way to the peer. -/
inductive OnWire
  | write (frame : Frame)
  | read

/-- The events of a state are those of the operation being carried out, the newest first. -/
structure State where
  session : Session
  peer : Peer
  /-- Whether log records are among the events. -/
  logs : Bool
  /-- In the place of numbered channels. -/
  mailbox : Option Mailbox
  runner : Option (Transport × Frame) := none
  queues : PerUnit (List Request) := ⟨[], []⟩
  requests : List (String × Request) := []
  keeps : Bool := false
  hooks : List (Place × List Op) := []
  reads : List Transfer := []
  writes : List Transfer := []
  wire : List OnWire := []
  events : List Event := []

abbrev BenchM := StateM State

namespace State

def link (w : State) : Link := w.session.link

def record (w : State) (e : Event) : State := { w with events := e :: w.events }

def note (w : State) (n : Note) : State := if w.logs then w.record (.note n) else w

def notes (w : State) (ns : List Note) : State := ns.foldl note w

def request? (w : State) (id : String) : Option Request :=
  (w.requests.find? fun entry => entry.1 == id).map Prod.snd

def dropRequest (w : State) (id : String) : State :=
  { w with requests := w.requests.filter fun entry => entry.1 != id }

def keepRequest (w : State) (id : String) (r : Request) : State :=
  let w := w.dropRequest id
  { w with requests := (id, r) :: w.requests }

def queue (w : State) (unit : LinkUnit) : List Request := w.queues.get unit

def setQueue (w : State) (unit : LinkUnit) (rs : List Request) : State :=
  { w with queues := w.queues.set unit rs }

def append (w : State) (unit : LinkUnit) (r : Request) : State :=
  w.setQueue unit (w.queue unit ++ [r])

/-- Removes the oldest hook of a place. -/
def unhook (w : State) (place : Place) : Option (List Op) × State :=
  match w.hooks.find? fun entry => entry.1 = place with
  | none => (none, w)
  | some (_, ops) => (some ops, { w with hooks := w.hooks.eraseP fun entry => entry.1 = place })

/-- Takes the next transfer of a script. Where the script has come to its end, the peer carries the
transfer out. -/
def nextTransfer (w : State) : Direction → Transfer × State
  | .read => (w.reads.headD .plain, { w with reads := w.reads.tail })
  | .write => (w.writes.headD .plain, { w with writes := w.writes.tail })

def report (w : State) (result : Result) : Report :=
  .mk result w.link.status w.events.reverse w.queues

end State

end PolledLink.Bench
