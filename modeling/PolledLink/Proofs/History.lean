import PolledLink.Link.Session

/-! What happens in the course of a session, in order. Operations are asked of the channel, they come
to an end, and requests are offered to the link. The traffic adds up the bytes that these events
move, and keeps in mind which operation has yet to end. -/

namespace PolledLink

/-- What a channel is asked to do. -/
inductive Issue
  | write (frame : Frame)
  | read
  deriving DecidableEq

inductive Event
  | issued (channel : ChannelId) (issue : Issue)
  /-- A write has come to its end. -/
  | wrote (outcome : Outcome)
  /-- A read has come to its end. -/
  | received (received : Link.Received)
  | served (before after : Request)

/-- The payload bytes that the header counts. -/
def Frame.payload (f : Frame) : Bytes :=
  match Header.parse f.bytes with
  | .ok h => (f.bytes.drop headerLength).take h.length.toNat
  | .error _ => []

/-- The reply that was received, if it is one. -/
def Link.Received.reply : Link.Received → Except Error Reply
  | .ok bs => Reply.decode bs
  | .error e => .error e

def Link.Received.payload (received : Link.Received) : Bytes :=
  match received.reply with
  | .ok r => r.payload
  | .error _ => []

def Issue.payload : Issue → Bytes
  | write frame => frame.payload
  | read => []

/-- The part of the buffer that a request has gone through since it was as `before`. -/
def Request.movedSince (after before : Request) : Bytes :=
  (after.buffer.take after.processed).drop before.processed

structure Traffic where
  /-- Taken from write requests. -/
  accepted : Bytes := []
  /-- Carried by the writes that succeeded. -/
  sent : Bytes := []
  /-- Carried by the replies that were accepted. -/
  received : Bytes := []
  /-- Given to read requests. -/
  delivered : Bytes := []
  outstanding : Option Issue := none

namespace Traffic

def note (t : Traffic) : Event → Traffic
  | .issued _ issue => { t with outstanding := some issue }
  | .wrote .ok =>
    { t with
      sent := t.sent ++ (t.outstanding.map Issue.payload).getD []
      outstanding := none }
  | .wrote (.error _) => { t with outstanding := none }
  | .received r => { t with received := t.received ++ r.payload, outstanding := none }
  | .served before after =>
    match before.direction with
    | .write => { t with accepted := t.accepted ++ after.movedSince before }
    | .read => { t with delivered := t.delivered ++ after.movedSince before }

def noteAll (t : Traffic) (es : List Event) : Traffic := es.foldl note t

@[simp] theorem noteAll_nil (t : Traffic) : t.noteAll [] = t := rfl

@[simp] theorem noteAll_cons (t : Traffic) (e : Event) (es : List Event) :
    t.noteAll (e :: es) = (t.note e).noteAll es := rfl

theorem noteAll_append (t : Traffic) (first second : List Event) :
    t.noteAll (first ++ second) = (t.noteAll first).noteAll second :=
  List.foldl_append

/-- One operation is asked for at a time, and only the one asked for comes to an end. -/
def Admits (t : Traffic) : Event → Prop
  | .issued _ _ => t.outstanding = none
  | .wrote _ => ∃ frame, t.outstanding = some (.write frame)
  | .received _ => t.outstanding = some .read
  | .served _ _ => True

/-- Every one of the events is admitted when it comes. -/
def AdmitsAll : Traffic → List Event → Prop
  | _, [] => True
  | t, e :: es => t.Admits e ∧ (t.note e).AdmitsAll es

theorem admitsAll_append (t : Traffic) (first second : List Event) :
    t.AdmitsAll (first ++ second) ↔ t.AdmitsAll first ∧ (t.noteAll first).AdmitsAll second := by
  induction first generalizing t with
  | nil => simp [AdmitsAll]
  | cons e es ih => simp only [List.cons_append, AdmitsAll, noteAll_cons, ih, and_assoc]

end Traffic

def Turn.issues : Turn → List Event
  | .demand (.issueWrite channel frame _) => [.issued channel (.write frame)]
  | .demand (.issueRead channel) => [.issued channel .read]
  | _ => []

namespace Session

/-- The request that a move passes in. -/
def Move.request? : Move → Option Request
  | .call (.service r) => some r
  | .call _ => none
  | .answer shown => shown

/-- The operation that a move brings to its end. A write that was complete before its issue was done
is only dealt with once the issue is. -/
def completions (s : Session) : Move → List Event
  | .call (.writeComplete o) => if s.link.operation = .writing then [.wrote o] else []
  | .call (.readComplete r) => if s.link.operation = .reading then [.received r] else []
  | .call _ => []
  | .answer _ =>
    match s.stopped, s.link.operation with
    | .issueWrite _ _ _ :: _, .writeDone o => [.wrote o]
    | _, _ => []

def servings (s : Session) (m : Move) : List Event :=
  match m.request?, (s.advance m).served with
  | some before, some after => [.served before after]
  | _, _ => []

def events (s : Session) (m : Move) : List Event :=
  s.completions m ++ s.servings m ++ (s.advance m).turn.issues

def history (s : Session) : List Move → List Event
  | [] => []
  | m :: ms => s.events m ++ (s.next m).history ms

theorem history_append (s : Session) (first second : List Move) :
    s.history (first ++ second) = s.history first ++ (s.run first).history second := by
  induction first generalizing s with
  | nil => rfl
  | cons m ms ih => simp only [List.cons_append, history, run, ih, List.append_assoc]

/-- What all the moves come to, from the start of the session. -/
def traffic (s : Session) (moves : List Move) : Traffic := ({} : Traffic).noteAll (s.history moves)

end Session

end PolledLink
