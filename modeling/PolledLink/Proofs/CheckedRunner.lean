import PolledLink.Proofs.Checks
import PolledLink.Proofs.RunnerRefinement

/-! A mailbox and a runner that check their accesses. A write takes no more room in the mailbox than a
frame has, so that it fits the frame buffer when it is taken out. The count of a read is the one
thing that may be out of range, and is then a failure of the transport. -/

namespace PolledLink

namespace Mailbox

def issueWrite? (box : Mailbox) (bs : Bytes) : Option Mailbox := do
  let count := min bs.length frameLength
  let frame ← box.frame.paste? 0 count (← bs.slice? 0 count)
  some ⟨some (.write count), frame⟩

def take? (box : Mailbox) (target : Frame) :
    Option (Option ChannelOperation × Frame × Mailbox) := do
  let filled ←
    match box.operation with
    | some (.write count) => do
      let bs ← box.frame.bytes.slice? 0 count
      target.paste? 0 count bs
    | _ => some target
  some (box.operation, filled, { box with operation := none })

/-- Bytes of any number can be handed in. Those that do not fit a frame are left out. -/
theorem issueWrite?_eq (box : Mailbox) (bs : Bytes) :
    box.issueWrite? bs = some (box.issueWrite bs) := by
  have len : (bs.take (min bs.length frameLength)).length = min bs.length frameLength :=
    List.length_take_of_le (Nat.min_le_left _ _)
  have pasted := Block.paste?_of_length (b := box.frame) ((Nat.zero_add _).trans len)
    (Nat.min_le_right _ _)
  have cut : box.frame.overlay 0 (bs.take (min bs.length frameLength)) = box.frame.overlay 0 bs := by
    have same := Bytes.overlay_take box.frame.bytes bs 0
    rw [Nat.sub_zero, box.frame.length_bytes, List.take_eq_take_min, Nat.min_comm] at same
    exact Block.ext same
  simp only [issueWrite?, issueWrite, Bytes.slice?_zero (Nat.min_le_left _ _), pasted, cut,
    Option.bind_eq_bind, Option.bind_some]

variable {box : Mailbox}

/-- No more is to be sent than a frame has. -/
def Fits (box : Mailbox) : Prop :=
  ∀ count, box.operation = some (.write count) → count ≤ frameLength

theorem Whole.fits (h : box.Whole) : box.Fits := fun count holds => Nat.le_of_eq (h count holds)

theorem fits_issueWrite (box : Mailbox) (bs : Bytes) : (box.issueWrite bs).Fits := by
  intro count holds
  obtain rfl := ChannelOperation.write.inj (Option.some.inj holds)
  exact Nat.min_le_right _ _

theorem Fits.take?_eq (h : box.Fits) (target : Frame) : box.take? target = some (box.take target) := by
  unfold take? take
  cases holds : box.operation with
  | none => rfl
  | some operation =>
    cases operation with
    | read => rfl
    | write count =>
      have fits := h count holds
      have room : count ≤ box.frame.bytes.length := by rwa [box.frame.length_bytes]
      have pasted := Block.paste?_of_length (b := target)
        ((Nat.zero_add _).trans (List.length_take_of_le room)) fits
      simp only [Bytes.slice?_zero room, pasted, Option.bind_eq_bind, Option.bind_some]

/-- What can be done with a mailbox. -/
inductive Use
  | issueWrite (bs : Bytes)
  | issueRead
  | take (target : Frame)

def use (box : Mailbox) : Use → Mailbox
  | .issueWrite bs => box.issueWrite bs
  | .issueRead => box.issueRead
  | .take target => (box.take target).2.2

def use? (box : Mailbox) : Use → Option Mailbox
  | .issueWrite bs => box.issueWrite? bs
  | .issueRead => some box.issueRead
  | .take target => do
    let (_, _, box) ← box.take? target
    some box

theorem Fits.use (h : box.Fits) (u : Use) : box.use? u = some (box.use u) ∧ (box.use u).Fits := by
  cases u with
  | issueWrite bs => exact ⟨box.issueWrite?_eq bs, box.fits_issueWrite bs⟩
  | issueRead => exact ⟨rfl, nofun⟩
  | take target =>
    refine ⟨?_, nofun⟩
    simp only [use?, h.take?_eq, Option.bind_eq_bind, Option.bind_some]
    rfl

theorem Fits.foldlM_use? (h : box.Fits) (us : List Use) :
    us.foldlM use? box = some (us.foldl Mailbox.use box) := by
  induction us generalizing box with
  | nil => rfl
  | cons u us ih =>
    obtain ⟨same, fits⟩ := h.use u
    rw [List.foldlM_cons, same]
    exact ih fits

end Mailbox

namespace Runner

/-- The first bytes of the buffer, if it has as many as are said to have been received. -/
def obtained (count : Except Error Nat) (buffer : Frame) : Link.Received :=
  match count with
  | .error e => .error e
  | .ok n =>
    match buffer.bytes.slice? 0 n with
    | some bs => .ok bs
    | none => .error .io

theorem obtained_eq (count : Except Error Nat) (buffer : Frame) :
    obtained count buffer = received count buffer := by
  cases count with
  | error e => rfl
  | ok n =>
    unfold obtained received Bytes.slice?
    rw [buffer.length_bytes]
    by_cases fits : n ≤ frameLength
    · simp only [Nat.zero_le, fits, and_self, if_true, List.drop_zero, Nat.sub_zero]
    · simp only [Nat.zero_le, fits, and_false, if_false]

section

variable {m : Type → Type} [Monad m] [MonadLiftT Option m]

def perform? (r : Runner m) : Nat → Frame → Outcome → m (Outcome × Frame)
  | 0, buffer, outcome => pure (outcome, buffer)
  | bound + 1, buffer, outcome => do
    let (operation, buffer) ← r.take buffer
    match operation with
    | none => pure (outcome, buffer)
    | some (.write count) =>
      r.note (.writingFrame count)
      let bs ← buffer.bytes.slice? 0 count
      let result ← r.write bs
      r.writeComplete result
      r.perform? bound buffer (outcome.andThen result)
    | some .read =>
      let (count, buffer) ← r.read buffer
      let result ← r.readComplete (obtained count buffer)
      r.perform? bound buffer (outcome.andThen result)

def step? (r : Runner m) (bound : Nat) (buffer : Frame) : m (Outcome × Frame) := do
  r.onTimer
  r.perform? bound buffer .ok

end

end Runner

variable {σ τ : Type}

namespace Deployment

/-- The runner of a deployment, with the mailbox being checked when it is emptied. -/
def runner? (q : Queueing σ) (t : Carrier τ) :
    Runner (StateT (Deployment σ Mailbox τ) Option) where
  onTimer w := some ((runner q t).onTimer w)
  take buffer w := do
    let (operation, buffer, channel) ← w.channel.take? buffer
    some ((operation, buffer), { w with channel })
  write bs w := some ((runner q t).write bs w)
  read buffer w := some ((runner q t).read buffer w)
  writeComplete o w := some ((runner q t).writeComplete o w)
  readComplete received w := some ((runner q t).readComplete received w)
  note n w := some ((runner q t).note n w)

variable {q : Queueing σ} {t : Carrier τ} {w : Deployment σ Mailbox τ}

theorem perform?_eq (whole : w.channel.Whole) (bound : Nat) (buffer : Frame) (o : Outcome) :
    (runner? q t).perform? bound buffer o w = some ((runner q t).perform bound buffer o w) := by
  induction bound generalizing w buffer o with
  | zero => rfl
  | succ bound ih =>
    cases holds : w.channel.operation with
    | none =>
      rw [perform_empty holds]
      simp only [Runner.perform?, runner?, bind, StateT.bind, Option.bind, whole.fits.take?_eq,
        Mailbox.take_none holds]
      rfl
    | some operation =>
      rw [perform_next whole holds, ← ih (whole_performOne operation buffer w)]
      cases operation with
      | write count =>
        have all : w.channel.frame.bytes.slice? 0 frameLength = some w.channel.frame.bytes := by
          have len := w.channel.frame.length_bytes
          rw [Bytes.slice?_zero (Nat.le_of_eq len.symm), List.take_of_length_le (Nat.le_of_eq len)]
        simp only [Runner.perform?, runner?, bind, StateT.bind, Option.bind, whole.fits.take?_eq,
          whole.take_write holds, all]
        rfl
      | read =>
        simp only [Runner.perform?, runner?, bind, StateT.bind, Option.bind, whole.fits.take?_eq,
          Mailbox.take_read holds, Runner.obtained_eq]
        rfl

end Deployment

/-- Wherever a runner has come to, its next step goes through. -/
theorem Console.Ready.step?_eq {q : Queueing σ} {t : Carrier τ} {rig : Rig σ τ} (h : Ready rig)
    (bound : Nat) :
    (Deployment.runner? q t).step? bound rig.buffer rig.site =
      some ((Deployment.runner q t).step bound rig.buffer rig.site) :=
  Deployment.perform?_eq (Deployment.whole_invoke .onTimer h.whole) bound rig.buffer .ok

end PolledLink
