import PolledLink.Proofs.Deployment
import PolledLink.Proofs.Task

/-! What a call comes to when it is carried through, in a deployment where no other call is
stopped. The channel has then started whatever it was asked for, and a completion may have chained
a read. -/

namespace PolledLink.Deployment

variable {σ π τ : Type} (q : Queueing σ) (c : Channel π) {w : Deployment σ π τ}

/-- A channel that was asked for a write has started it by then. -/
theorem respond_issueWrite {w : Deployment σ π τ} {channel : ChannelId} {frame : Frame}
    {count : Nat} {outer : List Demand}
    (hs : w.session.stopped = .issueWrite channel frame count :: outer)
    (issuing : w.session.link.operation = .issuingWrite) :
    w.respond q c (.issueWrite channel frame count) =
      (.returned .nothing,
        { w with
          session := ⟨{ w.session.link.publish with operation := .writing }, outer⟩
          channel := c.issueWrite frame w.channel
          asked := w.asked ++ [.write frame] }) := by
  simp only [respond, answer, move, Session.step, Session.advance, hs, Link.resume,
    Link.writeIssued_pending issuing]
  rfl

theorem respond_issueRead {w : Deployment σ π τ} {channel : ChannelId} {outer : List Demand}
    (hs : w.session.stopped = .issueRead channel :: outer)
    (issuing : w.session.link.operation = .issuingRead) :
    w.respond q c (.issueRead channel) =
      (.returned .nothing,
        { w with
          session := ⟨{ w.session.link.publish with operation := .reading }, outer⟩
          channel := c.issueRead w.channel
          asked := w.asked ++ [.read] }) := by
  simp only [respond, answer, move, Session.step, Session.advance, hs, Link.resume,
    Link.readIssued_pending issuing]
  rfl

/-- A wake pass is shown the request at the head of the queue. -/
theorem respond_head_stopped {w : Deployment σ π τ} {unit : LinkUnit} {outer : List Demand}
    (hs : w.session.stopped = .head unit :: outer) :
    w.respond q c (.head unit) =
      let (shown, queues) := q.head unit w.queues
      let a := w.session.link.offered unit shown
      (a.turn,
        { w with
          session := .take a outer
          queues := a.served.elim queues fun r => q.putBack unit r queues }) := by
  rw [respond_head]
  simp only [Session.advance_answer hs, Session.next_answer hs, Link.resume]
  cases (w.session.link.offered unit (q.head unit w.queues).1).served <;> rfl

theorem respond_complete_stopped {w : Deployment σ π τ} {unit : LinkUnit} {o : Outcome}
    {outer : List Demand} (hs : w.session.stopped = .complete unit o :: outer) :
    w.respond q c (.complete unit o) =
      ((w.session.link.passOn unit).turn,
        { w with
          session := .take (w.session.link.passOn unit) outer
          queues := q.complete unit o w.queues }) := by
  simp only [respond, answer, move, Session.step, Session.advance, hs, Link.resume, List.tail_cons]

theorem invoke_returned {call : Call} {l : Link} {notes : List Note} {served : Option Request}
    {v : Value} (none : w.session.stopped = [])
    (h : w.session.advance (.call call) = ⟨l, notes, served, .returned v⟩) :
    (host q c).invoke call w = ((v, served), { w with session := ⟨l, []⟩ }) := by
  rw [invoke_eq]
  simp only [move, Session.step, h, settle_returned, Session.take, none]

theorem invoke_issueWrite {call : Call} {l : Link} {notes : List Note} {channel : ChannelId}
    {frame : Frame} {count : Nat} (none : w.session.stopped = [])
    (h : w.session.advance (.call call) = .demand l notes (.issueWrite channel frame count))
    (issuing : l.operation = .issuingWrite) :
    (host q c).invoke call w =
      ((.nothing, .none),
        { w with
          session := ⟨{ l.publish with operation := .writing }, []⟩
          channel := c.issueWrite frame w.channel
          asked := w.asked ++ [.write frame] }) := by
  let started : Deployment σ π τ :=
    { w with session := ⟨l, [.issueWrite channel frame count]⟩ }
  have responds := respond_issueWrite q c (w := started) rfl issuing
  rw [invoke_eq]
  simp only [move, Session.step, h, Session.take, Advance.demand, none, Demand.maxPerCall]
  rw [settle_demand q c 3, responds, settle_returned]

theorem invoke_issueRead {call : Call} {l : Link} {notes : List Note} {channel : ChannelId}
    (none : w.session.stopped = [])
    (h : w.session.advance (.call call) = .demand l notes (.issueRead channel))
    (issuing : l.operation = .issuingRead) :
    (host q c).invoke call w =
      ((.nothing, .none),
        { w with
          session := ⟨{ l.publish with operation := .reading }, []⟩
          channel := c.issueRead w.channel
          asked := w.asked ++ [.read] }) := by
  let started : Deployment σ π τ := { w with session := ⟨l, [.issueRead channel]⟩ }
  have responds := respond_issueRead q c (w := started) rfl issuing
  rw [invoke_eq]
  simp only [move, Session.step, h, Session.take, Advance.demand, none, Demand.maxPerCall]
  rw [settle_demand q c 3, responds, settle_returned]

theorem advance_writeComplete {s : Session} (writing : s.link.operation = .writing) (o : Outcome) :
    s.advance (.call (.writeComplete o)) = { s.link with operation := .idle }.finishWrite o := by
  simp only [Session.advance, Link.call, Link.writeComplete, writing]

theorem invoke_writeComplete_error {e : Error} (none : w.session.stopped = [])
    (writing : w.session.link.operation = .writing) :
    (host q c).invoke (.writeComplete (.error e)) w =
      ((.nothing, .none),
        { w with
          session :=
            ⟨{ w.session.link with operation := .idle, result := .error e }.unlock.nudge, []⟩ }) :=
  invoke_returned q c none (advance_writeComplete writing (.error e))

theorem invoke_writeComplete_keeps (none : w.session.stopped = [])
    (writing : w.session.link.operation = .writing)
    (keeps : ¬ (w.session.link.buffers.readLeft = 0 ∧ w.session.link.wakeScheduled = false)) :
    (host q c).invoke (.writeComplete .ok) w =
      ((.nothing, .none),
        { w with
          session :=
            ⟨{ w.session.link with
                operation := .idle, result := .ok
                buffers := w.session.link.buffers.reset }.unlock.nudge, []⟩ }) := by
  have kept := Link.finishWrite_keeps (l := { w.session.link with operation := .idle }) keeps
  exact invoke_returned q c none ((advance_writeComplete writing .ok).trans kept)

theorem invoke_writeComplete_chains {channel : ChannelId} (none : w.session.stopped = [])
    (writing : w.session.link.operation = .writing) (empty : w.session.link.buffers.readLeft = 0)
    (calm : w.session.link.wakeScheduled = false) (hc : w.session.link.channel = some channel) :
    (host q c).invoke (.writeComplete .ok) w =
      ((.nothing, .none),
        { w with
          session :=
            ⟨{ { w.session.link with
                  result := .ok, buffers := w.session.link.buffers.reset
                  operation := .issuingRead }.publish with operation := .reading }, []⟩
          channel := c.issueRead w.channel
          asked := w.asked ++ [.read] }) := by
  have chains := Link.finishWrite_chains (l := { w.session.link with operation := .idle })
    empty calm hc
  exact invoke_issueRead q c none ((advance_writeComplete writing .ok).trans chains) rfl

theorem invoke_readComplete (received : Link.Received) {o : Outcome} {l : Link} {notes : List Note}
    (none : w.session.stopped = []) (reading : w.session.link.operation = .reading)
    (h : { w.session.link with operation := .idle }.receive received = (o, l, notes)) :
    (host q c).invoke (.readComplete received) w =
      ((.outcome o, .none), { w with session := ⟨l.unlock.nudge, []⟩ }) := by
  have ended : w.session.advance (.call (.readComplete received)) =
      ⟨l.unlock.nudge, notes, .none, .returned (.outcome o)⟩ := by
    simp only [Session.advance, Link.call, Link.readComplete, reading, h]
  exact invoke_returned q c none ended

end PolledLink.Deployment
