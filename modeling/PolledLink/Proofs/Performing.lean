import PolledLink.Runner
import PolledLink.Proofs.MailboxChannel

/-! How a runner performs what it finds in the mailbox. The bytes of a write pass through its frame
buffer, and a read is brought into it. Performing the operations comes to the same as having them
carried out at the far end of a plain channel, if the far end keeps the buffer. -/

namespace PolledLink

variable {σ τ ε : Type}

namespace Outcome

def first (os : List Outcome) : Outcome := (os.find? (· ≠ .ok)).getD .ok

theorem first_cons (o : Outcome) (os : List Outcome) : first (o :: os) = o.andThen (first os) := by
  cases o <;> rfl

theorem andThen_assoc (a b c : Outcome) : (a.andThen b).andThen c = a.andThen (b.andThen c) := by
  cases a <;> rfl

end Outcome

/-- What performs the operations of a runner. It reads into the frame buffer. -/
structure Carrier (τ : Type) where
  write : Bytes → τ → Outcome × τ
  read : Frame → τ → (Except Error Nat × Frame) × τ

structure Serial (ε τ : Type) where
  write : Bytes → τ → Except ε Unit × τ
  read : Frame → τ → (Except ε Nat × Frame) × τ

/-- Any error of a serial line is a failure of the transport. -/
def Serial.carrier (s : Serial ε τ) : Carrier τ where
  write bs far :=
    match s.write bs far with
    | (.ok (), far) => (.ok, far)
    | (.error _, far) => (.error .io, far)
  read buffer far :=
    match s.read buffer far with
    | ((.ok count, buffer), far) => ((.ok count, buffer), far)
    | ((.error _, buffer), far) => ((.error .io, buffer), far)

/-- The far end of a plain channel, where the frame buffer is found as the last operation has left
it. A read brings in the first bytes of the buffer, as many as were received. -/
def Carrier.farEnd (t : Carrier τ) : FarEnd (Frame × τ) where
  write frame far :=
    let (o, rest) := t.write frame.bytes far.2
    (o, (frame, rest))
  read far :=
    let ((count, buffer), rest) := t.read far.1 far.2
    let received :=
      match count with
      | .error e => .error e
      | .ok n => if frameLength < n then .error .io else .ok (buffer.bytes.take n)
    (received, (buffer, rest))

theorem Serial.farEnd_error (s : Serial ε τ) (far : Frame × τ) {e : Error}
    (failed : (∃ frame, (s.carrier.farEnd.write frame far).1 = .error e) ∨
      (s.carrier.farEnd.read far).1 = .error e) : e = .io := by
  rcases failed with ⟨frame, failed⟩ | failed
  · simp only [Carrier.farEnd, carrier] at failed
    generalize s.write frame.bytes far.2 = ended at failed
    obtain ⟨ended, rest⟩ := ended
    cases ended with
    | ok => nomatch failed
    | error _ => exact (Outcome.error.inj failed).symm
  · simp only [Carrier.farEnd, carrier] at failed
    generalize s.read far.1 far.2 = ended at failed
    obtain ⟨⟨ended, buffer⟩, rest⟩ := ended
    cases ended with
    | ok count =>
      simp only at failed
      split at failed
      · exact (Except.error.inj failed).symm
      · nomatch failed
    | error _ => exact (Except.error.inj failed).symm

theorem Runner.received_eq (count : Except Error Nat) (buffer : Frame) :
    Runner.received count buffer =
      match count with
      | .error e => .error e
      | .ok n => if frameLength < n then .error .io else .ok (buffer.bytes.take n) := by
  cases count with
  | error e => rfl
  | ok n =>
    by_cases fits : n ≤ frameLength
    · simp only [received, if_pos fits, if_neg (Nat.not_lt.mpr fits)]
    · simp only [received, if_neg fits, if_pos (Nat.lt_of_not_le fits)]

namespace Deployment

variable (q : Queueing σ) (t : Carrier τ)

def runner : Runner (StateM (Deployment σ Mailbox τ)) where
  onTimer := (host q .mailbox).run .onTimer
  take buffer w :=
    let (operation, buffer, channel) := w.channel.take buffer
    ((operation, buffer), { w with channel })
  write bs w :=
    let (o, far) := t.write bs w.far
    (o, { w with far, done := w.done ++ [.write bs] })
  read buffer w :=
    let (r, far) := t.read buffer w.far
    (r, { w with far, done := w.done ++ [.read] })
  writeComplete o := (host q .mailbox).run (.writeComplete o)
  readComplete received := (host q .mailbox).outcome (.readComplete received)
  note _ := pure ()

/-- What becomes of the operation that is taken out of the mailbox: its result, the frame buffer,
and the deployment once the link was told. -/
def performOne (operation : ChannelOperation) (buffer : Frame) (w : Deployment σ Mailbox τ) :
    Outcome × Frame × Deployment σ Mailbox τ :=
  let w := { w with channel := { w.channel with operation := none } }
  match operation with
  | .write _ =>
    let frame := w.channel.frame
    let (o, far) := t.write frame.bytes w.far
    let w := { w with far, done := w.done ++ [.write frame.bytes] }
    (o, frame, ((host q .mailbox).run (.writeComplete o) w).2)
  | .read =>
    let ((count, buffer), far) := t.read buffer w.far
    let w := { w with far, done := w.done ++ [.read] }
    let (o, w) := (host q .mailbox).outcome (.readComplete (Runner.received count buffer)) w
    (o, buffer, w)

variable {q t} {w : Deployment σ Mailbox τ} {buffer : Frame}

theorem perform_empty (empty : w.channel.operation = none) (bound : Nat) (buffer : Frame)
    (o : Outcome) : (runner q t).perform bound buffer o w = ((o, buffer), w) := by
  cases bound with
  | zero => rfl
  | succ bound =>
    simp only [Runner.perform, runner, bind, StateT.bind, Mailbox.take_none empty]
    rfl

theorem perform_next {operation : ChannelOperation} (whole : w.channel.Whole)
    (holds : w.channel.operation = some operation) (bound : Nat) (buffer : Frame) (o : Outcome) :
    (runner q t).perform (bound + 1) buffer o w =
      let (result, buffer, w) := performOne q t operation buffer w
      (runner q t).perform bound buffer (o.andThen result) w := by
  cases operation with
  | write count =>
    have all : w.channel.frame.bytes.take frameLength = w.channel.frame.bytes :=
      List.take_of_length_le (Nat.le_of_eq w.channel.frame.length_bytes)
    simp only [Runner.perform, runner, bind, StateT.bind, whole.take_write holds, all]
    rfl
  | read =>
    simp only [Runner.perform, runner, bind, StateT.bind, Mailbox.take_read holds]
    rfl

theorem whole_performOne (operation : ChannelOperation) (buffer : Frame)
    (w : Deployment σ Mailbox τ) : (performOne q t operation buffer w).2.2.channel.Whole := by
  cases operation with
  | write count => exact whole_invoke _ nofun
  | read =>
    simp only [performOne, outcome_eq]
    exact whole_invoke _ nofun

theorem farEnd_read (far : Frame × τ) :
    t.farEnd.read far =
      let ((count, buffer), rest) := t.read far.1 far.2
      (Runner.received count buffer, (buffer, rest)) := by
  simp only [Carrier.farEnd, Runner.received_eq]

theorem carryOut_onWire {operation : ChannelOperation} (h : (w.onWire buffer).AtRest)
    (holds : w.channel.operation = some operation) :
    ∃ op, (w.onWire buffer).channel = [op] ∧
      carryOut q t.farEnd op { w.onWire buffer with channel := [] } =
        let (o, buffer, w) := performOne q t operation buffer w
        (o, w.onWire buffer) := by
  cases operation with
  | write count =>
    let frame := w.channel.frame
    let o := (t.write frame.bytes w.far).1
    let taken : Deployment σ Mailbox τ :=
      { w with
        channel := { w.channel with operation := none }, far := (t.write frame.bytes w.far).2
        done := w.done ++ [.write frame.bytes] }
    have hc : (w.onWire buffer).channel = [.write frame] := by
      simp only [onWire, Mailbox.contents, holds, frame]
    have wrote : ((taken.onWire frame).move (.call (.writeComplete o))).2.Stands _ :=
      h.wrote hc o (frame, taken.far)
    refine ⟨.write frame, hc, ?_⟩
    rw [carryOut_write]
    exact congrArg (fun ended => (o, ended.2)) (invoke_onWire wrote)
  | read =>
    let brought := t.read buffer w.far
    let received := Runner.received brought.1.1 brought.1.2
    let taken : Deployment σ Mailbox τ :=
      { w with
        channel := { w.channel with operation := none }, far := brought.2
        done := w.done ++ [.read] }
    have hc : (w.onWire buffer).channel = [.read] := by
      simp only [onWire, Mailbox.contents, holds]
    have ended : ((taken.onWire brought.1.2).move (.call (.readComplete received))).2.Stands _ :=
      h.received hc received (brought.1.2, brought.2)
    refine ⟨.read, hc, ?_⟩
    have same := invoke_onWire (q := q) ended
    simp only [carryOut, farEnd_read, performOne, outcome_eq]
    exact congrArg (fun told => (told.1.1.toOutcome, told.2)) same

/-- The operations left in the mailbox are performed as they are carried out at the far end of a
plain channel. -/
theorem perform_onWire (bound : Nat) (h : (w.onWire buffer).AtRest) (whole : w.channel.Whole)
    (o : Outcome) :
    let served := serve q t.farEnd bound (w.onWire buffer)
    let performed := (runner q t).perform bound buffer o w
    performed.1.1 = o.andThen (.first (served.1.map Prod.snd)) ∧
      performed.2.onWire performed.1.2 = served.2 ∧ performed.2.channel.Whole := by
  induction bound generalizing w buffer o with
  | zero => exact ⟨o.andThen_ok.symm, rfl, whole⟩
  | succ bound ih =>
    cases holds : w.channel.operation with
    | none =>
      have hc : (w.onWire buffer).channel = [] := by
        simp only [onWire, Mailbox.contents, holds]
      rw [perform_empty holds, serve_empty hc]
      exact ⟨o.andThen_ok.symm, rfl, whole⟩
    | some operation =>
      obtain ⟨op, hc, carried⟩ := carryOut_onWire h holds (q := q) (t := t)
      -- what performing it leaves is at rest, as what carrying it out leaves is
      have rest := h.carryOut hc (q := q) (f := t.farEnd)
      rw [carried] at rest
      have goes := ih rest (whole_performOne operation buffer w)
        (o.andThen (performOne q t operation buffer w).1)
      rw [perform_next whole holds, serve_next hc, carried]
      simp only [List.map_cons, Outcome.first_cons, ← Outcome.andThen_assoc]
      exact goes

end Deployment

end PolledLink
