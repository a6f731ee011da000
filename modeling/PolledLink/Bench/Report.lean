import PolledLink.Bench.Script
import PolledLink.Mailbox
import PolledLink.Note

/-! What a bench reports: for every operation its result, what happened in the course of it, and how
the link and the queues stand after it. -/

namespace PolledLink.Bench

/-- How a transfer went. -/
inductive Transferred
  | wrote
  | read (count : Nat)
  | failed (reason : String)

mutual

inductive Result
  | nothing
  | outcome (o : Outcome)
  | link (l : Link)
  | due (ticks : List Nat)
  | request (r : Option Request)
  | serviced (p : Progress) (r : Request)
  | queued
  | peer (received : Bytes) (outbox : Nat)
  | last (reports : List Report)
  | served (writes : Nat) (reads : List Outcome)
  | steps (outcomes : List Outcome)
  | stepped (count : Nat)
  | taken (operation : Option ChannelOperation) (frame : Frame)

inductive Event
  | issuedWrite (frame : Frame) (channel : ChannelId)
  | issuedRead (channel : ChannelId)
  | completed (unit : LinkUnit) (outcome : Outcome) (request : Option Request)
  | hook (place : Place)
  | nested (report : Report)
  | note (n : Note)
  | ioWrite (bs : Bytes)
  | ioRead (room : Nat)
  | ioResult (t : Transferred)
  | delay

inductive Report
  | mk (result : Result) (status : Status) (events : List Event) (queues : PerUnit (List Request))

end

def Event.isNote : Event → Bool
  | note _ => true
  | _ => false

end PolledLink.Bench
