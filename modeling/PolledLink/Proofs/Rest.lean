import PolledLink.Proofs.Carrying
import PolledLink.Proofs.Ownership

/-! Deployments between the calls, and in the course of one. The channel then has just the
operation to do that the link has outstanding, and everything else that it was ever asked for is
done. So there is an end to what the far end has to carry out: it comes to a write and a read at
most. -/

namespace PolledLink

variable {σ τ : Type}

def Turn.demands : Turn → List Demand
  | demand d => [d]
  | returned _ => []

/-- The operation that waits on the channel. One that is still being asked for is not there yet, and
none is complete before that. -/
inductive Wired : Operation → List Issue → Prop
  | idle : Wired .idle []
  | issuingWrite : Wired .issuingWrite []
  | issuingRead : Wired .issuingRead []
  | writing (frame : Frame) : Wired .writing [.write frame]
  | reading : Wired .reading [.read]

namespace Wired

variable {op : Operation} {ops : List Issue}

theorem eq_nil (h : Wired op ops) (write : op ≠ .writing) (read : op ≠ .reading) : ops = [] := by
  cases h with
  | writing => exact absurd rfl write
  | reading => exact absurd rfl read
  | _ => rfl

theorem of_write {frame : Frame} (h : Wired op (.write frame :: ops)) :
    op = .writing ∧ ops = [] := by
  cases h with
  | writing => exact ⟨rfl, rfl⟩

theorem of_read (h : Wired op (.read :: ops)) : op = .reading ∧ ops = [] := by
  cases h with
  | reading => exact ⟨rfl, rfl⟩

end Wired

namespace Link

theorem service_operation (l : Link) (r : Request) :
    (l.service r).link.operation = l.operation := by
  obtain ⟨schedule, published, link⟩ := (l.serves r).link_eq
  rw [link]

theorem passOn_operation (l : Link) (unit : LinkUnit) :
    (l.passOn unit).link.operation = l.operation := by
  cases unit <;> rfl

theorem offered_operation (l : Link) (unit : LinkUnit) (shown : Option Request) :
    (l.offered unit shown).link.operation = l.operation := by
  simp only [offered]
  split
  · exact l.passOn_operation unit
  · rename_i r _
    split
    · exact l.service_operation r
    · exact ((l.service r).link.passOn_operation unit).trans (l.service_operation r)

end Link

def Call.completes : Call → Bool
  | writeComplete _ | readComplete _ => true
  | _ => false

namespace Session

variable {s s' : Session} {es : List Event}

theorem Sound.next (h : s.Sound) (m : Move) : (s.next m).Sound := (passage h m).sound h

theorem stopped_call (s : Session) (c : Call) :
    (s.next (.call c)).stopped = (s.advance (.call c)).turn.demands ++ s.stopped := by
  simp only [Session.next, Session.step, take]
  cases (s.advance (.call c)).turn <;> rfl

theorem stopped_answer {d : Demand} {outer : List Demand} (hs : s.stopped = d :: outer)
    (shown : Option Request) :
    (s.next (.answer shown)).stopped = (s.advance (.answer shown)).turn.demands ++ outer := by
  simp only [Session.next, Session.step, take, hs, List.tail_cons]
  cases (s.advance (.answer shown)).turn <;> rfl

theorem stopped_next_call (none : s.stopped = []) (c : Call) :
    (s.next (.call c)).stopped = (s.advance (.call c)).turn.demands := by
  rw [stopped_call, none, List.append_nil]

theorem stopped_next_answer {d : Demand} (alone : s.stopped = [d]) (shown : Option Request) :
    (s.next (.answer shown)).stopped = (s.advance (.answer shown)).turn.demands := by
  rw [stopped_answer alone, List.append_nil]

theorem Passage.wired {c : Call} {ops : List Issue} (p : s.Passage (.call c) es s')
    (hc : c.completes = false) (h : Wired s.link.operation ops) : Wired s'.link.operation ops := by
  have begins {op : Operation} (idle : s.link.operation = .idle) (fresh : Wired op []) :
      Wired op ops := by
    rw [idle] at h
    cases h with
    | idle => exact fresh
  have ended {o : Outcome} {published : Snapshot} {outer : List Demand} {P : Prop}
      (ends : s.EndsWrite (.call c) o published outer) : P := by
    cases ends with
    | late => nomatch hc
  cases p with
  | aside => exact h
  | attached => exact h
  | opened => exact h
  -- an operation may wait on the channel all the while
  | served r =>
    rw [← s.link.service_operation r] at h
    exact h
  | flushed _ idle => exact begins idle .issuingWrite
  | polled _ idle => exact begins idle .issuingRead
  | unstarted => exact h
  | wakeRefused => exact h
  | woke => exact h
  | writeEarly => nomatch hc
  | writeFailed ends => exact ended ends
  | writeSent ends => exact ended ends
  | writeChained ends => exact ended ends
  | replyAccepted => nomatch hc
  | replyDiscarded => nomatch hc
  | readFailed => nomatch hc

theorem Sound.wired_of_ends {m : Move} {e : Event} (h : s.Sound) (he : e ∈ s.events m)
    (ends : e.Ends) : Wired (s.next m).link.operation [] := by
  rcases (passage h m).ends h he ends with ⟨idle, -, -⟩ | ⟨-, issuing, -, -⟩
  · rw [idle]
    exact .idle
  · rw [issuing]
    exact .issuingRead

end Session

namespace Deployment

variable {w : Deployment σ (List Issue) τ} {q : Queueing σ} {f : FarEnd τ} {t : Turn}

/-- Whatever the channel was ever asked for has been done, or waits to be. -/
def Accounts (w : Deployment σ (List Issue) τ) : Prop :=
  w.asked.map Issue.carried = w.done ++ w.channel.map Issue.carried

theorem Accounts.answer (h : w.Accounts) (d : Demand) : (w.answer q .wire d).2.Accounts := by
  unfold Accounts at h ⊢
  cases d with
  | issueWrite => simp only [Deployment.answer, Channel.wire, List.map_append, h, List.append_assoc]
  | issueRead => simp only [Deployment.answer, Channel.wire, List.map_append, h, List.append_assoc]
  | _ => exact h

/-- The call that is being carried through has stopped with these demands. -/
structure Stands (w : Deployment σ (List Issue) τ) (ds : List Demand) : Prop where
  sound : w.session.Sound
  stopped : w.session.stopped = ds
  wired : Wired w.session.link.operation w.channel
  accounts : w.Accounts

/-- No call is being carried through. -/
abbrev AtRest (w : Deployment σ (List Issue) τ) : Prop := w.Stands []

theorem Stands.issuingWrite {channel : ChannelId} {frame : Frame} {count : Nat}
    (h : w.Stands [.issueWrite channel frame count]) :
    w.session.link.operation = .issuingWrite ∧ w.channel = [] := by
  have stacked := h.sound.stacked
  rw [h.stopped] at stacked
  have wired := h.wired
  rcases stacked.of_issueWrite.1 with issuing | ⟨o, done⟩
  · exact ⟨issuing, (issuing ▸ wired).eq_nil nofun nofun⟩
  · nomatch done ▸ wired

theorem Stands.issuingRead {channel : ChannelId} (h : w.Stands [.issueRead channel]) :
    w.session.link.operation = .issuingRead ∧ w.channel = [] := by
  have stacked := h.sound.stacked
  rw [h.stopped] at stacked
  have issuing := stacked.of_issueRead.1
  exact ⟨issuing, (issuing ▸ h.wired).eq_nil nofun nofun⟩

theorem Stands.wired_respond {d : Demand} (h : w.Stands [d]) :
    Wired (w.session.next (.answer (w.answer q .wire d).1)).link.operation
      (w.answer q .wire d).2.channel := by
  simp only [Session.next, Session.step, Session.advance, h.stopped, Session.take]
  cases d with
  | issueWrite channel frame count =>
    obtain ⟨issuing, empty⟩ := h.issuingWrite
    have started := Link.writeIssued_pending issuing count
    simp only [Link.resume, started, Advance.done, Deployment.answer, Channel.wire, empty]
    exact .writing frame
  | issueRead channel =>
    obtain ⟨issuing, empty⟩ := h.issuingRead
    have started := Link.readIssued_pending issuing
    simp only [Link.resume, started, Advance.done, Deployment.answer, Channel.wire, empty]
    exact .reading
  | head unit =>
    rw [Link.resume, Link.offered_operation]
    exact h.wired
  | complete unit o =>
    rw [Link.resume, Link.passOn_operation]
    exact h.wired

theorem Stands.respond {d : Demand} (h : w.Stands [d]) :
    (w.respond q .wire d).2.Stands (w.respond q .wire d).1.demands := by
  obtain ⟨queues, responds⟩ := respond_snd q .wire d w
  rw [responds, turn_respond]
  exact ⟨h.sound.next _, Session.stopped_next_answer h.stopped _, h.wired_respond,
    h.accounts.answer d⟩

theorem Stands.settle {bound : Nat} (h : w.Stands t.demands)
    (enough : ∀ d, t = .demand d → d.remaining < bound) :
    ((host q .wire).settle bound t w).2.AtRest := by
  induction bound generalizing w t with
  | zero =>
    cases t with
    | demand d => nomatch enough d rfl
    | returned v => exact h
  | succ bound ih =>
    cases t with
    | returned v => exact h
    | demand d =>
      rw [settle_demand]
      -- each answer leaves a call fewer demands to make
      refine ih h.respond fun next turn => ?_
      rw [turn_respond] at turn
      simp only [Session.advance, h.stopped, Turn.demands] at turn
      exact Nat.lt_of_lt_of_le (Link.remaining_lt_of_resume turn) (Nat.le_of_lt_succ (enough d rfl))

/-- A call that the session has taken up is carried through to its end. -/
theorem Stands.invoke {c : Call}
    (h : (w.move (.call c)).2.Stands (w.move (.call c)).1.turn.demands) :
    ((host q .wire).invoke c w).2.AtRest := by
  rw [invoke_eq]
  exact h.settle fun d _ => d.remaining_lt

theorem AtRest.move (h : w.AtRest) {c : Call} (hc : c.completes = false) :
    (w.move (.call c)).2.Stands (w.move (.call c)).1.turn.demands :=
  ⟨h.sound.next (.call c), Session.stopped_next_call h.stopped c,
    (Session.passage h.sound (.call c)).wired hc h.wired, h.accounts⟩

theorem invoke_snd (c : Call) (w : Deployment σ (List Issue) τ) :
    ∃ session queues channel asked, ((host q .wire).invoke c w).2 =
      { w with session, queues, channel, asked } := by
  obtain ⟨session, queues, channel, asked, settles⟩ :=
    settle_snd q .wire Demand.maxPerCall (w.move (.call c)).1.turn (w.move (.call c)).2
  rw [invoke_eq]
  exact ⟨session, queues, channel, asked, settles⟩

theorem AtRest.invoke (h : w.AtRest) {c : Call} (hc : c.completes = false) :
    ((host q .wire).invoke c w).2.AtRest := Stands.invoke (h.move hc)

/-- An operation is taken from the channel, and its end is told to the link. -/
theorem AtRest.completes {op : Issue} {ops : List Issue} {c : Call} {e : Event} (h : w.AtRest)
    (hc : w.channel = op :: ops) (none : ops = []) (he : e ∈ w.session.events (.call c))
    (ends : e.Ends) (far : τ) :
    let taken : Deployment σ (List Issue) τ :=
      { w with channel := ops, far, done := w.done ++ [op.carried] }
    (taken.move (.call c)).2.Stands (taken.move (.call c)).1.turn.demands := by
  have accounts : w.asked.map Issue.carried =
      w.done ++ [op.carried] ++ ops.map Issue.carried := by
    rw [h.accounts, hc, List.append_assoc]
    rfl
  have wired := h.sound.wired_of_ends he ends
  rw [← none] at wired
  exact ⟨h.sound.next (.call c), Session.stopped_next_call h.stopped c, wired, accounts⟩

theorem AtRest.wrote {frame : Frame} {ops : List Issue} (h : w.AtRest)
    (hc : w.channel = .write frame :: ops) (o : Outcome) (far : τ) :
    let taken : Deployment σ (List Issue) τ :=
      { w with channel := ops, far, done := w.done ++ [.write frame.bytes] }
    (taken.move (.call (.writeComplete o))).2.Stands
      (taken.move (.call (.writeComplete o))).1.turn.demands := by
  have wired := h.wired
  rw [hc] at wired
  obtain ⟨writing, none⟩ := wired.of_write
  exact h.completes hc none (Session.wrote_mem_events writing o) trivial far

theorem AtRest.received {ops : List Issue} (h : w.AtRest) (hc : w.channel = .read :: ops)
    (received : Link.Received) (far : τ) :
    let taken : Deployment σ (List Issue) τ :=
      { w with channel := ops, far, done := w.done ++ [.read] }
    (taken.move (.call (.readComplete received))).2.Stands
      (taken.move (.call (.readComplete received))).1.turn.demands := by
  have wired := h.wired
  rw [hc] at wired
  obtain ⟨reading, none⟩ := wired.of_read
  exact h.completes hc none (Session.received_mem_events reading received) trivial far

theorem carryOut_write (frame : Frame) (w : Deployment σ (List Issue) τ) :
    carryOut q f (.write frame) w =
      ((f.write frame w.far).1,
        ((host q .wire).invoke (.writeComplete (f.write frame w.far).1)
          { w with
            far := (f.write frame w.far).2, done := w.done ++ [.write frame.bytes] }).2) := rfl

theorem carryOut_read (w : Deployment σ (List Issue) τ) :
    (carryOut q f .read w).2 =
      ((host q .wire).invoke (.readComplete (f.read w.far).1)
        { w with far := (f.read w.far).2, done := w.done ++ [.read] }).2 := by
  simp only [carryOut, outcome_eq, Issue.carried]

theorem AtRest.carryOut {op : Issue} {ops : List Issue} (h : w.AtRest)
    (hc : w.channel = op :: ops) :
    (carryOut q f op { w with channel := ops }).2.AtRest := by
  cases op with
  | write frame => exact Stands.invoke (h.wrote hc _ _)
  | read =>
    rw [carryOut_read]
    exact Stands.invoke (h.received hc _ _)

theorem carryOut_done (op : Issue) (w : Deployment σ (List Issue) τ) :
    (carryOut q f op w).2.done = w.done ++ [op.carried] := by
  cases op with
  | write frame =>
    obtain ⟨session, queues, channel, asked, same⟩ :=
      invoke_snd (q := q) (.writeComplete (f.write frame w.far).1)
        { w with far := (f.write frame w.far).2, done := w.done ++ [.write frame.bytes] }
    exact congrArg Deployment.done same
  | read =>
    obtain ⟨session, queues, channel, asked, same⟩ :=
      invoke_snd (q := q) (.readComplete (f.read w.far).1)
        { w with far := (f.read w.far).2, done := w.done ++ [.read] }
    rw [carryOut_read]
    exact congrArg Deployment.done same

theorem AtRest.channel_carryOut_write {frame : Frame} {ops : List Issue} (h : w.AtRest)
    (hc : w.channel = .write frame :: ops) :
    (Deployment.carryOut q f (.write frame) { w with channel := ops }).2.channel = [] ∨
      (Deployment.carryOut q f (.write frame) { w with channel := ops }).2.channel = [.read] := by
  have wired := h.wired
  rw [hc] at wired
  obtain ⟨writing, rfl⟩ := wired.of_write
  obtain ⟨channel, attached⟩ := h.sound.exists_channel (by rw [writing]; nofun)
  let w₀ : Deployment σ (List Issue) τ :=
    { w with
      channel := [], far := (f.write frame w.far).2, done := w.done ++ [.write frame.bytes] }
  rw [carryOut_write]
  cases (f.write frame w.far).1 with
  | error e =>
    have ends := invoke_writeComplete_error (w := w₀) (e := e) q .wire h.stopped writing
    exact .inl (congrArg (fun ended => ended.2.channel) ends)
  | ok =>
    by_cases chains : w.session.link.buffers.readLeft = 0 ∧ w.session.link.wakeScheduled = false
    · have ends := invoke_writeComplete_chains (w := w₀) q .wire h.stopped writing chains.1 chains.2
        attached
      exact .inr (congrArg (fun ended => ended.2.channel) ends)
    · have ends := invoke_writeComplete_keeps (w := w₀) q .wire h.stopped writing chains
      exact .inl (congrArg (fun ended => ended.2.channel) ends)

theorem AtRest.channel_carryOut_read {ops : List Issue} (h : w.AtRest)
    (hc : w.channel = .read :: ops) :
    (Deployment.carryOut q f .read { w with channel := ops }).2.channel = [] := by
  have wired := h.wired
  rw [hc] at wired
  obtain ⟨reading, rfl⟩ := wired.of_read
  let w₀ : Deployment σ (List Issue) τ :=
    { w with channel := [], far := (f.read w.far).2, done := w.done ++ [.read] }
  have ends := invoke_readComplete (w := w₀) q .wire (f.read w.far).1 h.stopped reading rfl
  rw [carryOut_read]
  exact congrArg (fun ended => ended.2.channel) ends

theorem AtRest.channel_cases (h : w.AtRest) :
    w.channel = [] ∨ w.channel = [.read] ∨ ∃ frame, w.channel = [.write frame] := by
  have wired := h.wired
  generalize w.channel = ops at wired ⊢
  generalize w.session.link.operation = op at wired
  cases wired with
  | writing frame => exact .inr (.inr ⟨frame, rfl⟩)
  | reading => exact .inr (.inl rfl)
  | _ => exact .inl rfl

/-- What the far end can be made to do between one call of the host and the next. -/
inductive Burst : List Issue → Prop
  | none : Burst []
  | read : Burst [.read]
  | write (frame : Frame) : Burst [.write frame]
  | writeRead (frame : Frame) : Burst [.write frame, .read]

theorem serve_empty (hc : w.channel = []) (bound : Nat) : serve q f bound w = ([], w) := by
  cases bound with
  | zero => rfl
  | succ bound => simp only [serve, hc]

theorem serve_next {op : Issue} {ops : List Issue} (hc : w.channel = op :: ops) (bound : Nat) :
    serve q f (bound + 1) w =
      let (o, w) := Deployment.carryOut q f op { w with channel := ops }
      let (log, w) := serve q f bound w
      ((op, o) :: log, w) := by
  simp only [serve, hc]

theorem snd_serve_next {op : Issue} {ops : List Issue} (hc : w.channel = op :: ops) (bound : Nat) :
    (serve q f (bound + 1) w).2 =
      (serve q f bound (Deployment.carryOut q f op { w with channel := ops }).2).2 := by
  rw [serve_next hc]

/-- What every operation keeps is kept while the far end carries them out. -/
theorem serve_keeps {P : Deployment σ (List Issue) τ → Prop}
    (step : ∀ {w : Deployment σ (List Issue) τ} {op ops}, w.channel = op :: ops → P w →
      P (Deployment.carryOut q f op { w with channel := ops }).2)
    (bound : Nat) {w : Deployment σ (List Issue) τ} (h : P w) : P (serve q f bound w).2 := by
  induction bound generalizing w with
  | zero => exact h
  | succ bound ih =>
    cases hc : w.channel with
    | nil =>
      rw [serve_empty hc]
      exact h
    | cons op ops =>
      rw [snd_serve_next hc]
      exact ih (step hc h)

theorem AtRest.serve (h : w.AtRest) (bound : Nat) : (serve q f bound w).2.AtRest :=
  serve_keeps (P := AtRest) (fun hc h => h.carryOut hc) bound h

theorem serve_done (bound : Nat) (w : Deployment σ (List Issue) τ) :
    (Deployment.serve q f bound w).2.done =
      w.done ++ (Deployment.serve q f bound w).1.map fun entry => entry.1.carried := by
  induction bound generalizing w with
  | zero => exact (List.append_nil _).symm
  | succ bound ih =>
    cases hc : w.channel with
    | nil =>
      rw [serve_empty hc]
      exact (List.append_nil _).symm
    | cons op ops =>
      rw [serve_next hc]
      simp only [ih, carryOut_done, List.map_cons, List.append_assoc, List.singleton_append]

/-- Two operations are as many as there can be, however many the far end is ready for. -/
theorem AtRest.serve_all (h : w.AtRest) (bound : Nat) :
    Deployment.serve q f (bound + 2) w = Deployment.serve q f 2 w ∧
      (Deployment.serve q f 2 w).2.channel = [] ∧
      Burst ((Deployment.serve q f 2 w).1.map Prod.fst) := by
  rcases h.channel_cases with hc | hc | ⟨frame, hc⟩
  · rw [serve_empty hc, serve_empty hc]
    exact ⟨rfl, hc, .none⟩
  · have after := h.channel_carryOut_read (q := q) (f := f) hc
    simp only [serve_next hc, serve_empty after]
    exact ⟨trivial, after, .read⟩
  · rcases h.channel_carryOut_write (q := q) (f := f) hc with after | after
    · simp only [serve_next hc, serve_empty after]
      exact ⟨trivial, after, .write frame⟩
    · have next := (h.carryOut hc (q := q) (f := f)).channel_carryOut_read (q := q) (f := f) after
      simp only [serve_next hc, serve_next after, serve_empty next]
      exact ⟨trivial, next, .writeRead frame⟩

theorem AtRest.operation_of_channel (h : w.AtRest) (hc : w.channel = []) :
    w.session.link.operation = .idle := by
  have wired := h.wired
  rw [hc] at wired
  rcases h.sound.operation_of_stopped_nil h.stopped with idle | writing | reading
  · exact idle
  · nomatch writing ▸ wired
  · nomatch reading ▸ wired

/-- Makes a call, and has the far end carry out operations until none is left. -/
def round (q : Queueing σ) (f : FarEnd τ) (c : Call) (w : Deployment σ (List Issue) τ) :
    List (Issue × Outcome) × Deployment σ (List Issue) τ :=
  serve q f 2 ((host q .wire).run c w).2

/-- A round is over with a write and a read at the most, and leaves nothing undone. -/
theorem AtRest.round (h : w.AtRest) {c : Call} (hc : c.completes = false) :
    let rounded := round q f c w
    rounded.2.AtRest ∧ rounded.2.channel = [] ∧ Burst (rounded.1.map Prod.fst) ∧
      rounded.2.done = w.done ++ rounded.1.map fun entry => entry.1.carried := by
  have called := h.invoke (q := q) hc
  obtain ⟨-, empty, burst⟩ := called.serve_all (q := q) (f := f) 0
  have done := serve_done (q := q) (f := f) 2 ((host q .wire).invoke c w).2
  obtain ⟨session, queues, channel, asked, same⟩ := invoke_snd (q := q) c w
  rw [congrArg Deployment.done same] at done
  exact ⟨called.serve 2, empty, burst, done⟩

end Deployment

end PolledLink
