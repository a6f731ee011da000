import PolledLink.Link.Completion

/-! Scripts for a host of a link that does as it is told: what to do, and what to do when certain
places in the work of the link are reached. -/

namespace PolledLink.Bench

/-- Where a script can step in. -/
inductive Place
  | issueWrite
  | issueRead
  | head (unit : LinkUnit)
  | complete (unit : LinkUnit)
  | ioWrite
  | ioRead
  | delay
  deriving DecidableEq

/-- How the next transfer of a transport is to go. -/
inductive Transfer
  | fail (reason : String)
  /-- A read that brings in these bytes, and reports `count` of them. -/
  | bytes (bs : Bytes) (count : Nat)
  /-- Carried out by the peer. -/
  | plain

/-- What a runner's transport carries, and so what becomes of its errors. -/
inductive Transport
  | serial
  | framed
  deriving DecidableEq

inductive Op
  | attach (channel : ChannelId)
  | openUnit (unit : LinkUnit)
  | closeUnit (unit : LinkUnit)
  | setPollInterval (ticks : Nat)
  | query
  | tick (count : Nat)
  | runTask
  | writeDone (outcome : Outcome)
  | readDone (received : Link.Received)
  | prepare (id : String) (request : Request)
  | service (id : String)
  | enqueue (id : String) (unit : LinkUnit)
  | push (unit : LinkUnit) (request : Request)
  | pop (unit : LinkUnit)
  | submit (unit : LinkUnit) (request : Request)
  | keep (on : Bool)
  | hook (place : Place) (ops : List Op)
  | script (direction : Direction) (transfers : List Transfer)
  | peerLoad (bs : Bytes)
  | peer
  | times (count : Nat) (ops : List Op)
  | serve
  | runner (transport : Transport)
  | step (count : Nat)
  | runUntil (unit : LinkUnit) (pending limit : Nat)
  | take

mutual

/-- How many operations an operation can come to, with those that it sets up for later. -/
def Op.weight : Op → Nat
  | .tick count => 1 + count
  | .step count => 1 + count
  | .runUntil _ _ limit => 1 + limit
  | .hook _ ops => 1 + weights ops
  | .times count ops => 1 + count * weights ops
  | _ => 1

def weights : List Op → Nat
  | [] => 0
  | op :: ops => op.weight + weights ops

end

end PolledLink.Bench
