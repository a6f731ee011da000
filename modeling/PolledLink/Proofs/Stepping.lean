import PolledLink.Proofs.Pace
import PolledLink.Proofs.Rounds
import PolledLink.Proofs.RunnerRefinement

/-! A runner between queues and a peer that answers everything. A step of it runs the periodic task
with all that follows, or else it brings the next run nearer. -/

namespace PolledLink

variable {σ π τ τ' : Type}

/-- What the one far end does can be told from what the other does, and the link cannot tell them
apart. -/
structure FarEnd.Shows (f : FarEnd τ) (g : FarEnd τ') (view : τ → τ') : Prop where
  write : ∀ frame far,
    g.write frame (view far) = ((f.write frame far).1, view (f.write frame far).2)
  read : ∀ far, g.read (view far) = ((f.read far).1, view (f.read far).2)

namespace Deployment

variable {q : Queueing σ} {c : Channel π} {f : FarEnd τ} {g : FarEnd τ'} {φ : τ → τ'}

def view (φ : τ → τ') (w : Deployment σ π τ) : Deployment σ π τ' := { w with far := φ w.far }

theorem respond_view (d : Demand) (w : Deployment σ π τ) :
    (w.view φ).respond q c d = ((w.respond q c d).1, (w.respond q c d).2.view φ) := by
  cases d with
  | head unit =>
    rw [respond_head, respond_head]
    rfl
  | _ => rfl

theorem settle_view (bound : Nat) (t : Turn) (w : Deployment σ π τ) :
    (host q c).settle bound t (w.view φ) =
      (((host q c).settle bound t w).1, ((host q c).settle bound t w).2.view φ) := by
  induction bound generalizing t w with
  | zero => cases t <;> rfl
  | succ bound ih =>
    cases t with
    | returned v => rfl
    | demand d =>
      rw [settle_demand, settle_demand, respond_view]
      exact ih _ _

theorem invoke_view (call : Call) (w : Deployment σ π τ) :
    (host q c).invoke call (w.view φ) =
      (((host q c).invoke call w).1, ((host q c).invoke call w).2.view φ) := by
  have settles := settle_view (q := q) (c := c) (φ := φ) Demand.maxPerCall
    (w.move (.call call)).1.turn (w.move (.call call)).2
  rw [invoke_eq, invoke_eq]
  exact congrArg (fun ended => ((ended.1, (w.session.advance (.call call)).served), ended.2)) settles

theorem carryOut_view (shows : f.Shows g φ) (op : Issue) (w : Deployment σ (List Issue) τ) :
    carryOut q g op (w.view φ) = ((carryOut q f op w).1, (carryOut q f op w).2.view φ) := by
  cases op with
  | write frame =>
    let o := (f.write frame w.far).1
    let taken : Deployment σ (List Issue) τ :=
      { w with far := (f.write frame w.far).2, done := w.done ++ [.write frame.bytes] }
    have told := invoke_view (q := q) (c := .wire) (φ := φ) (.writeComplete o) taken
    have far : g.write frame (w.view φ).far = (o, φ taken.far) := shows.write frame w.far
    rw [carryOut_write, carryOut_write, far]
    exact congrArg (fun ended => (o, ended.2)) told
  | read =>
    let taken : Deployment σ (List Issue) τ :=
      { w with far := (f.read w.far).2, done := w.done ++ [.read] }
    have told := invoke_view (q := q) (c := .wire) (φ := φ) (.readComplete (f.read w.far).1) taken
    have far : g.read (w.view φ).far = ((f.read w.far).1, φ taken.far) := shows.read w.far
    simp only [carryOut, far, outcome_eq]
    exact congrArg (fun ended => (ended.1.1.toOutcome, ended.2)) told

theorem serve_view (shows : f.Shows g φ) (bound : Nat) (w : Deployment σ (List Issue) τ) :
    serve q g bound (w.view φ) = ((serve q f bound w).1, (serve q f bound w).2.view φ) := by
  induction bound generalizing w with
  | zero => rfl
  | succ bound ih =>
    cases hc : w.channel with
    | nil =>
      have hc' : (w.view φ).channel = [] := hc
      rw [serve_empty hc, serve_empty hc']
    | cons op ops =>
      have hc' : (w.view φ).channel = op :: ops := hc
      have carried := carryOut_view (q := q) shows op { w with channel := ops }
      have taken : ({ w.view φ with channel := ops } : Deployment σ (List Issue) τ') =
          view φ { w with channel := ops } := rfl
      rw [serve_next hc, serve_next hc', taken, carried]
      simp only [ih]

theorem round_view (shows : f.Shows g φ) (call : Call) (w : Deployment σ (List Issue) τ) :
    (round q g call (w.view φ)).2 = (round q f call w).2.view φ := by
  have called : ((host q .wire).run call (w.view φ)).2 =
      view φ ((host q .wire).run call w).2 :=
    congrArg Prod.snd (invoke_view (q := q) (c := .wire) (φ := φ) call w)
  rw [round, round, called, serve_view shows]

end Deployment

namespace Peer

/-- A peer that performs the operations of a runner, and never fails. -/
def carrier : Carrier Peer where
  write bs p := (.ok, p.take bs)
  read buffer p :=
    let (count, area, p) := p.replyInto buffer
    ((.ok count, area), p)

/-- What the frame buffer held before makes no difference to a reply. -/
theorem carrier_shows : carrier.farEnd.Shows farEnd Prod.snd where
  write _ _ := rfl
  read far := by
    obtain ⟨buffer, p⟩ := far
    let r := p.reply.1
    obtain ⟨area, laid, bytes⟩ := r.take_encode buffer p.whole_reply
    obtain ⟨area₀, laid₀, bytes₀⟩ := r.take_encode (Block.zero frameLength) p.whole_reply
    have fits : ¬ frameLength < headerLength + r.payload.length := by
      rw [p.payload_reply, List.length_take]
      simp only [frameLength, headerLength, payloadCapacity]
      omega
    have read : p.replyInto buffer = (headerLength + r.payload.length, area, p.reply.2) := by
      simp only [replyInto, r, laid]
    have read₀ : p.replyInto (Block.zero frameLength) =
        (headerLength + r.payload.length, area₀, p.reply.2) := by
      simp only [replyInto, r, laid₀]
    simp only [farEnd, Carrier.farEnd, carrier, read, read₀, if_neg fits, bytes, bytes₀]

end Peer

namespace Deployment

/-- Every tick has a round follow, or brings the next one nearer. -/
theorem Working.tick {w : Deployment Queues (List Issue) Peer} (h : w.Working)
    (quiet : w.channel = []) (paced : w.session.link.Paced) :
    let rounded := (Deployment.round .fifo Peer.farEnd .onTimer w).2
    rounded.Working ∧ rounded.channel = [] ∧
      (rounded.outlook = w.outlook.next ∨
        rounded.outlook = w.outlook ∧
          rounded.session.link.schedule.countdown < w.session.link.schedule.countdown) := by
  cases tick : w.session.link.schedule.tick with
  | mk due schedule =>
    cases due with
    | true =>
      have runs : w.session.advance (.call .onTimer) =
          { w.session.link with schedule }.runTask := by
        simp only [Session.advance, Link.call, Link.onTimer, tick, if_true]
      obtain ⟨working, none, next⟩ := h.round quiet rfl runs
      exact ⟨working, none, .inl next⟩
    | false =>
      have waits : w.session.advance (.call .onTimer) =
          ⟨{ w.session.link with schedule }, [], .none, .returned .nothing⟩ := by
        simp only [Session.advance, Link.call, Link.onTimer, tick, Bool.false_eq_true, if_false]
        rfl
      have called := invoke_returned .fifo .wire h.stopped waits
      let waited : Deployment Queues (List Issue) Peer :=
        { w with session := ⟨{ w.session.link with schedule }, []⟩ }
      have run : ((host .fifo .wire).run .onTimer w).2 = waited := congrArg Prod.snd called
      have rounded : (Deployment.round .fifo Peer.farEnd .onTimer w).2 = waited := by
        rw [Deployment.round, run]
        exact congrArg Prod.snd (serve_empty (w := waited) quiet 2)
      rw [rounded]
      have sound := h.sound
      refine ⟨⟨⟨⟨sound.held, sound.attached, sound.inBounds, ?_⟩, rfl, h.wired, h.accounts⟩,
        h.attached, h.works⟩, quiet, .inr ⟨rfl, Schedule.countdown_tick paced tick⟩⟩
      have stacked := sound.stacked
      rw [h.stopped] at stacked
      exact stacked

/-- The mailbox of a runner, seen as a plain channel. -/
def seen (w : Deployment Queues Mailbox Peer) : Deployment Queues (List Issue) Peer :=
  { w with channel := w.channel.contents }

/-- Between two steps of a runner, whose link works and is ticking. -/
structure Running (w : Deployment Queues Mailbox Peer) : Prop extends w.seen.Working where
  quiet : w.channel.operation = none
  paced : w.session.link.Paced

variable {w : Deployment Queues Mailbox Peer}

theorem Running.ready (h : w.Running) (buffer : Frame) : Console.Ready ⟨w, buffer⟩ :=
  ⟨⟨h.sound, h.stopped, h.wired, h.accounts⟩, fun _ holds => nomatch h.quiet.symm.trans holds⟩

/-- A step of a runner leaves what a round of the task leaves. -/
theorem step_round {τ : Type} {t : Carrier τ} {q : Queueing σ} {w : Deployment σ Mailbox τ}
    {buffer : Frame} (h : Console.Ready ⟨w, buffer⟩) (bound : Nat) :
    (round q t.farEnd .onTimer (w.onWire buffer)).2 =
      ((runner q t).step (bound + 3) buffer w).2.onWire
        ((runner q t).step (bound + 3) buffer w).1.2 := by
  have steps := (Console.step_onWire (q := q) (t := t) h bound).1
  simp only [Console.plain, Console.driven] at steps
  exact congrArg Prod.snd steps

theorem Running.step (h : w.Running) (bound : Nat) (buffer : Frame) :
    let stepped := ((runner .fifo Peer.carrier).step (bound + 3) buffer w).2
    stepped.Running ∧
      (stepped.outlook = w.outlook.next ∨
        stepped.outlook = w.outlook ∧
          stepped.session.link.schedule.countdown < w.session.link.schedule.countdown) := by
  intro stepped
  have rounded : (round .fifo Peer.farEnd .onTimer w.seen).2 = stepped.seen := by
    have shown := round_view (q := .fifo) Peer.carrier_shows .onTimer (w.onWire buffer)
    rw [step_round (h.ready buffer) bound] at shown
    exact shown
  have empty : w.seen.channel = [] := Mailbox.contents_eq_nil.mpr h.quiet
  have paced : stepped.seen.session.link.Paced := by
    rw [← rounded]
    exact keeps_round (P := fun s => s.link.Paced) (fun m h => Session.paced_next h m)
      (w := w.seen) h.paced .onTimer
  obtain ⟨working, none, goes⟩ := h.toWorking.tick empty h.paced
  rw [rounded] at working none goes
  exact ⟨⟨working, Mailbox.contents_eq_nil.mp none, paced⟩, goes⟩

end Deployment

end PolledLink
