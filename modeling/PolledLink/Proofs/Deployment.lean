import PolledLink.Link.Host
import PolledLink.Proofs.History

/-! A link as it is put to use: with the queues of a host, a channel, and what carries out the
operations at the far end of the channel. Here nobody makes calls from inside the queues or the
channel, so that a call into the link is carried through as a whole. -/

namespace PolledLink

variable {σ π τ : Type}

/-- Queues of requests. A request that was shown is put back as the link leaves it. -/
structure Queueing (σ : Type) where
  head : LinkUnit → σ → Option Request × σ
  putBack : LinkUnit → Request → σ → σ
  complete : LinkUnit → Outcome → σ → σ

structure Channel (π : Type) where
  issueWrite : Frame → π → π
  issueRead : π → π

/-- The plain channel keeps all that it is asked for, the oldest first, until it is carried out. -/
def Channel.wire : Channel (List Issue) where
  issueWrite frame ops := ops ++ [.write frame]
  issueRead ops := ops ++ [.read]

inductive Carried
  | write (bs : Bytes)
  | read
  deriving DecidableEq

def Issue.carried : Issue → Carried
  | write frame => .write frame.bytes
  | read => .read

/-- The outcome of a call that has one. -/
def Value.toOutcome : Value → Outcome
  | outcome o => o
  | _ => .ok

structure Deployment (σ π τ : Type) where
  session : Session
  queues : σ
  channel : π
  far : τ
  /-- All that the channel was asked for. -/
  asked : List Issue := []
  /-- All that the far end was made to do. -/
  done : List Carried := []

namespace Deployment

section

variable (q : Queueing σ) (c : Channel π)

def answer (d : Demand) (w : Deployment σ π τ) : Option Request × Deployment σ π τ :=
  match d with
  | .issueWrite _ frame _ =>
    (none,
      { w with channel := c.issueWrite frame w.channel, asked := w.asked ++ [.write frame] })
  | .issueRead _ =>
    (none, { w with channel := c.issueRead w.channel, asked := w.asked ++ [.read] })
  | .head unit =>
    let (r, queues) := q.head unit w.queues
    (r, { w with queues })
  | .complete unit outcome => (none, { w with queues := q.complete unit outcome w.queues })

def move (m : Session.Move) (w : Deployment σ π τ) : Advance × Deployment σ π τ :=
  let (a, session) := w.session.step m
  (a, { w with session })

def host : Host (StateM (Deployment σ π τ)) where
  move := move
  answer := answer q c
  putBack unit r := modify fun w => { w with queues := q.putBack unit r w.queues }

/-- Does what is demanded, and lets the call go on. -/
def respond (d : Demand) (w : Deployment σ π τ) : Turn × Deployment σ π τ :=
  let (shown, w) := w.answer q c d
  let (a, w) := w.move (.answer shown)
  (a.turn,
    match d, a.served with
    | .head unit, some r => { w with queues := q.putBack unit r w.queues }
    | _, _ => w)

theorem respond_head (unit : LinkUnit) (w : Deployment σ π τ) :
    w.respond q c (.head unit) =
      let (shown, queues) := q.head unit w.queues
      let a := w.session.advance (.answer shown)
      (a.turn,
        { w with
          session := w.session.next (.answer shown)
          queues :=
            match a.served with
            | some r => q.putBack unit r queues
            | none => queues }) := by
  simp only [respond, answer, move, Session.next]
  have advance (shown : Option Request) :
      (w.session.step (.answer shown)).1 = w.session.advance (.answer shown) := rfl
  rw [advance]
  cases (w.session.advance (.answer (q.head unit w.queues).1)).served <;> rfl

theorem turn_respond (d : Demand) (w : Deployment σ π τ) :
    (w.respond q c d).1 = (w.session.advance (.answer (w.answer q c d).1)).turn := by
  cases d <;> rfl

theorem respond_snd (d : Demand) (w : Deployment σ π τ) :
    ∃ queues, (w.respond q c d).2 =
      { (w.answer q c d).2 with
        session := w.session.next (.answer (w.answer q c d).1), queues } := by
  cases d with
  | head unit =>
    rw [respond_head]
    exact ⟨_, rfl⟩
  | _ => exact ⟨_, rfl⟩

theorem settle_returned (bound : Nat) (v : Value) (w : Deployment σ π τ) :
    (host q c).settle bound (.returned v) w = (v, w) := by
  cases bound <;> rfl

theorem settle_demand (bound : Nat) (d : Demand) (w : Deployment σ π τ) :
    (host q c).settle (bound + 1) (.demand d) w =
      (host q c).settle bound (w.respond q c d).1 (w.respond q c d).2 := by
  cases d with
  | head unit =>
    simp only [Host.settle, respond, bind, StateT.bind, host]
    generalize move _ _ = moved
    obtain ⟨a, w⟩ := moved
    cases served : a.served with
    | none => simp only
    | some r => rfl
  | _ => rfl

/-- What every answer keeps is kept while a call is carried through. -/
theorem settle_keeps {P : Deployment σ π τ → Prop}
    (step : ∀ d {w : Deployment σ π τ}, P w → P (w.respond q c d).2) (bound : Nat) (t : Turn)
    {w : Deployment σ π τ} (h : P w) : P ((host q c).settle bound t w).2 := by
  induction bound generalizing t w with
  | zero => cases t <;> exact h
  | succ bound ih =>
    cases t with
    | returned v => exact h
    | demand d =>
      rw [settle_demand]
      exact ih _ (step d h)

/-- Calls do not reach the far end. -/
theorem settle_snd (bound : Nat) (t : Turn) (w : Deployment σ π τ) :
    ∃ session queues channel asked, ((host q c).settle bound t w).2 =
      { w with session, queues, channel, asked } := by
  refine settle_keeps q c
    (P := fun w' => ∃ session queues channel asked, w' = { w with session, queues, channel, asked })
    ?_ bound t ⟨_, _, _, _, rfl⟩
  rintro d _ ⟨session, queues, channel, asked, rfl⟩
  obtain ⟨queues', responds⟩ := respond_snd q c d { w with session, queues, channel, asked }
  rw [responds]
  cases d <;> exact ⟨_, _, _, _, rfl⟩

theorem invoke_eq (call : Call) (w : Deployment σ π τ) :
    (host q c).invoke call w =
      let (a, w) := w.move (.call call)
      let (v, w) := (host q c).settle Demand.maxPerCall a.turn w
      ((v, a.served), w) := rfl

theorem outcome_eq (call : Call) (w : Deployment σ π τ) :
    (host q c).outcome call w =
      (((host q c).invoke call w).1.1.toOutcome, ((host q c).invoke call w).2) := by
  simp only [Host.outcome, bind, StateT.bind]
  generalize (host q c).invoke call w = ended
  obtain ⟨⟨v, served⟩, w⟩ := ended
  cases v <;> rfl

end

end Deployment

/-- What carries out the operations of a plain channel. It tells how a write went, and what a read
has brought. -/
structure FarEnd (τ : Type) where
  write : Frame → τ → Outcome × τ
  read : τ → Link.Received × τ

namespace Deployment

variable (q : Queueing σ) (f : FarEnd τ)

/-- Has an operation carried out, and tells the link of its end. Gives what the operation came to.
-/
def carryOut (op : Issue) (w : Deployment σ (List Issue) τ) :
    Outcome × Deployment σ (List Issue) τ :=
  let done := w.done ++ [op.carried]
  match op with
  | .write frame =>
    let (o, far) := f.write frame w.far
    (o, ((host q .wire).run (.writeComplete o) { w with far, done }).2)
  | .read =>
    let (received, far) := f.read w.far
    (host q .wire).outcome (.readComplete received) { w with far, done }

/-- Has up to `bound` operations carried out, until none is left. -/
def serve : Nat → Deployment σ (List Issue) τ →
    List (Issue × Outcome) × Deployment σ (List Issue) τ
  | 0, w => ([], w)
  | bound + 1, w =>
    match w.channel with
    | [] => ([], w)
    | op :: ops =>
      let (o, w) := carryOut q f op { w with channel := ops }
      let (log, w) := serve bound w
      ((op, o) :: log, w)

end Deployment

end PolledLink
