import PolledLink.Mailbox
import PolledLink.Proofs.Rest

/-! The mailbox as the channel of a deployment. It has room for one operation, and loses the one it
has when it is asked for another. But as far as a link asks, it does as well as a plain channel. -/

namespace PolledLink

variable {σ τ : Type}

def Channel.mailbox : Channel Mailbox where
  issueWrite frame box := box.issueWrite frame.bytes
  issueRead := Mailbox.issueRead

namespace Mailbox

def contents (box : Mailbox) : List Issue :=
  match box.operation with
  | none => []
  | some (.write _) => [.write box.frame]
  | some .read => [.read]

theorem contents_eq_nil {box : Mailbox} : box.contents = [] ↔ box.operation = none := by
  unfold contents
  cases box.operation with
  | none => exact ⟨fun _ => rfl, fun _ => rfl⟩
  | some operation => cases operation <;> exact ⟨nofun, nofun⟩

/-- Nothing less than a frame is to be sent. -/
def Whole (box : Mailbox) : Prop :=
  ∀ count, box.operation = some (.write count) → count = frameLength

theorem issueWrite_frame (box : Mailbox) (frame : Frame) :
    box.issueWrite frame.bytes = ⟨some (.write frameLength), frame⟩ := by
  rw [issueWrite, frame.length_bytes, Nat.min_self, Block.overlay_bytes]

theorem whole_issueWrite (box : Mailbox) (frame : Frame) :
    (box.issueWrite frame.bytes).Whole := by
  rw [issueWrite_frame]
  exact fun count h => (ChannelOperation.write.inj (Option.some.inj h)).symm

section

variable {box : Mailbox}

theorem take_none (empty : box.operation = none) (target : Frame) :
    box.take target = (none, target, box) := by
  simp only [take, empty]
  rw [← empty]

theorem take_read (holds : box.operation = some .read) (target : Frame) :
    box.take target = (some .read, target, { box with operation := none }) := by
  simp only [take, holds]

/-- The whole of a frame takes the place of another. -/
theorem Whole.take_write (whole : box.Whole) {count : Nat}
    (holds : box.operation = some (.write count)) (target : Frame) :
    box.take target = (some (.write frameLength), box.frame, { box with operation := none }) := by
  obtain rfl := whole count holds
  have all : box.frame.bytes.take frameLength = box.frame.bytes :=
    List.take_of_length_le (Nat.le_of_eq box.frame.length_bytes)
  simp only [take, holds, all, Block.overlay_bytes]

end

end Mailbox

namespace Deployment

variable {q : Queueing σ} {w : Deployment σ Mailbox τ} {buffer : Frame}

/-- The same with a plain channel. The frame buffer that the operations are performed with is left
to the far end. -/
def onWire (w : Deployment σ Mailbox τ) (buffer : Frame) :
    Deployment σ (List Issue) (Frame × τ) :=
  { w with channel := w.channel.contents, far := (buffer, w.far) }

theorem respond_onWire {d : Demand} (h : (w.onWire buffer).Stands [d]) :
    (w.onWire buffer).respond q .wire d =
      ((w.respond q .mailbox d).1, (w.respond q .mailbox d).2.onWire buffer) := by
  cases d with
  | issueWrite channel frame count =>
    obtain ⟨issuing, empty⟩ := h.issuingWrite
    have put : Channel.wire.issueWrite frame (w.onWire buffer).channel =
        (Channel.mailbox.issueWrite frame w.channel).contents := by
      rw [empty]
      exact (congrArg Mailbox.contents (w.channel.issueWrite_frame frame)).symm
    rw [respond_issueWrite q .wire h.stopped issuing,
      respond_issueWrite q .mailbox (w := w) h.stopped issuing, put]
    rfl
  | issueRead channel =>
    obtain ⟨issuing, empty⟩ := h.issuingRead
    have put : Channel.wire.issueRead (w.onWire buffer).channel =
        (Channel.mailbox.issueRead w.channel).contents := by
      rw [empty]
      rfl
    rw [respond_issueRead q .wire h.stopped issuing,
      respond_issueRead q .mailbox (w := w) h.stopped issuing, put]
    rfl
  | head unit =>
    rw [respond_head, respond_head]
    rfl
  | complete unit o => rfl

theorem settle_onWire (bound : Nat) {t : Turn} (h : (w.onWire buffer).Stands t.demands) :
    (host q .wire).settle bound t (w.onWire buffer) =
      (((host q .mailbox).settle bound t w).1,
        ((host q .mailbox).settle bound t w).2.onWire buffer) := by
  induction bound generalizing w t with
  | zero => cases t <;> rfl
  | succ bound ih =>
    cases t with
    | returned v => rfl
    | demand d =>
      have responds := h.respond (q := q)
      rw [respond_onWire h] at responds
      rw [settle_demand, settle_demand, respond_onWire h]
      exact ih responds

theorem invoke_onWire {c : Call}
    (h : ((w.onWire buffer).move (.call c)).2.Stands
      ((w.onWire buffer).move (.call c)).1.turn.demands) :
    (host q .wire).invoke c (w.onWire buffer) =
      (((host q .mailbox).invoke c w).1, ((host q .mailbox).invoke c w).2.onWire buffer) := by
  have settles := settle_onWire (q := q) (w := (w.move (.call c)).2) Demand.maxPerCall h
  rw [invoke_eq, invoke_eq]
  exact congrArg (fun ended => ((ended.1, (w.session.advance (.call c)).served), ended.2)) settles

theorem whole_respond (d : Demand) (h : w.channel.Whole) :
    (w.respond q .mailbox d).2.channel.Whole := by
  obtain ⟨queues, responds⟩ := respond_snd q .mailbox d w
  rw [responds]
  cases d with
  | issueWrite channel frame count => exact w.channel.whole_issueWrite frame
  | issueRead channel => exact nofun
  | _ => exact h

theorem whole_invoke (c : Call) (h : w.channel.Whole) :
    ((host q .mailbox).invoke c w).2.channel.Whole := by
  rw [invoke_eq]
  exact settle_keeps q .mailbox (P := fun w => w.channel.Whole) (fun d => whole_respond d) _ _ h

end Deployment

end PolledLink
