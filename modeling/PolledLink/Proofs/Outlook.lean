import PolledLink.Peer
import PolledLink.Proofs.Deployment
import PolledLink.Proofs.Reception
import PolledLink.Proofs.ReplyGrammar

/-! What can be seen of a link between queues and a peer: the bytes that it holds, the requests in
waiting and the bytes at the peer. This much determines what comes next, as far as nothing fails. -/

namespace PolledLink

/-- Queues that keep the order of their requests, and a record of those completed. -/
structure Queues where
  waiting : PerUnit (List Request) := ⟨[], []⟩
  completed : PerUnit (List (Outcome × Request)) := ⟨[], []⟩
  deriving DecidableEq

namespace Queues

def putBack (unit : LinkUnit) (r : Request) (qs : Queues) : Queues :=
  match qs.waiting.get unit with
  | [] => qs
  | _ :: rs => { qs with waiting := qs.waiting.set unit (r :: rs) }

/-- The oldest request goes from the queue into the record. -/
def complete (unit : LinkUnit) (o : Outcome) (qs : Queues) : Queues :=
  match qs.waiting.get unit with
  | [] => qs
  | r :: rs =>
    { waiting := qs.waiting.set unit rs
      completed := qs.completed.set unit (qs.completed.get unit ++ [(o, r)]) }

end Queues

def Queueing.fifo : Queueing Queues where
  head unit qs := ((qs.waiting.get unit).head?, qs)
  putBack := Queues.putBack
  complete := Queues.complete

namespace Peer

def farEnd : FarEnd Peer where
  write frame p := (.ok, p.take frame.bytes)
  read p :=
    let (count, area, p) := p.replyInto (Block.zero frameLength)
    (.ok (area.bytes.take count), p)

/-- At most one frame is carried by a reply, however much it reports. -/
theorem carried_total (n : Nat) :
    carried (UInt16.ofNat (min n maxTotal)) = min payloadCapacity n := by
  have fits : (UInt16.ofNat (min n maxTotal)).toNat = min n maxTotal := by
    rw [UInt16.toNat_ofNat', Nat.mod_eq_of_lt]
    simp only [maxTotal]
    omega
  rw [carried, fits]
  simp only [maxTotal, payloadCapacity]
  omega

theorem payload_reply (p : Peer) : p.reply.1.payload = p.outbox.take payloadCapacity := by
  have payload : p.reply.1.payload = p.outbox.take (min payloadCapacity p.outbox.length) :=
    congrArg p.outbox.take (carried_total p.outbox.length)
  exact payload.trans List.take_eq_take_min.symm

theorem whole_reply (p : Peer) : p.reply.1.payload.length = p.reply.1.buffered := by
  rw [payload_reply, List.length_take]
  exact (carried_total p.outbox.length).symm

theorem read_farEnd (p : Peer) :
    ∃ r, (farEnd.read p).1.reply = .ok r ∧ r.payload = p.outbox.take payloadCapacity ∧
      (farEnd.read p).2 = { p with outbox := p.outbox.drop payloadCapacity } := by
  let r := p.reply.1
  obtain ⟨area, laid, reads⟩ := r.read_encode (Block.zero frameLength) p.whole_reply
  have brings : farEnd.read p =
      (.ok (area.bytes.take (headerLength + r.payload.length)), p.reply.2) := by
    simp only [farEnd, replyInto, r, laid]
  rw [brings]
  refine ⟨r, ?_, p.payload_reply, ?_⟩
  · simp only [Link.Received.reply, Reply.decode, reads]
    rfl
  · have cut : p.outbox.drop (carried (UInt16.ofNat (min p.outbox.length maxTotal))) =
        p.outbox.drop payloadCapacity := by
      rw [carried_total, ← List.drop_eq_drop_min]
    exact congrArg (fun outbox => { p with outbox }) cut

def accept (p : Peer) (bs : Bytes) : Peer :=
  { p with
    received := p.received ++ bs
    outbox := if p.echoes then p.outbox ++ bs else p.outbox }

end Peer

structure Outlook where
  staged : Bytes
  undelivered : Bytes
  owesWake : Bool
  queues : Queues
  peer : Peer

namespace Outlook

def flush (v : Outlook) : Outlook := { v with staged := [], peer := v.peer.accept v.staged }

/-- A reply comes in, and the requests are owed a wake. -/
def fetch (v : Outlook) : Outlook :=
  { v with
    undelivered := v.peer.outbox.take payloadCapacity
    owesWake := true
    peer := { v.peer with outbox := v.peer.outbox.drop payloadCapacity } }

def move (v : Outlook) (r : Request) : Outlook × Request :=
  match r.direction with
  | .write =>
    let accepted := r.rest.take (payloadCapacity - v.staged.length)
    ({ v with staged := v.staged ++ accepted },
      { r with processed := r.processed + accepted.length })
  | .read =>
    let delivered := v.undelivered.take r.rest.length
    ({ v with undelivered := v.undelivered.drop r.rest.length },
      { r with
        buffer := r.buffer.overlay r.processed delivered
        processed := r.processed + delivered.length })

/-- The oldest request of the unit has its turn. -/
def offer (unit : LinkUnit) (v : Outlook) : Outlook :=
  match (v.queues.waiting.get unit).head?.filter Request.isPending with
  | none => v
  | some r =>
    let (after, moved) := v.move r
    if moved.processed = moved.requested then
      let queues := v.queues.putBack unit { moved with progress := .ready .ok }
      { after with queues := queues.complete unit .ok }
    else { after with queues := v.queues.putBack unit { moved with progress := .pending } }

/-- One run of the task, with all that follows from it. -/
def next (v : Outlook) : Outlook :=
  if v.owesWake = false ∧ v.staged ≠ [] then
    if v.undelivered = [] then v.flush.fetch else v.flush
  else if v.owesWake = false ∧ v.undelivered = [] then v.fetch
  else ({ v with owesWake := false }.offer .input).offer .output

end Outlook

end PolledLink
