import PolledLink.Link.Service
import PolledLink.Proofs.History

/-! Offering a request to a link. A busy link leaves everything as it is, a failed one only tells the
request so, and any other moves bytes in one direction and leaves those of the other alone. -/

namespace PolledLink

namespace Buffers

variable {b : Buffers} {r : Request}

theorem InBounds.exchange (h : b.InBounds) (r : Request) : (b.exchange r).1.InBounds := by
  unfold Buffers.exchange
  cases r.direction with
  | read => exact h.drain _
  | write => exact h.stage _

theorem movedSince_exchange_write (hd : r.direction = .write) :
    (b.exchange r).2.1.movedSince r = r.rest.take b.writeSpace := by
  have cut : r.rest.take (min r.rest.length b.writeSpace) = r.rest.take b.writeSpace := by
    rw [Nat.min_comm, ← List.take_eq_take_min]
  rw [← cut]
  simp only [exchange, hd, Request.movedSince, stage, Request.rest, List.drop_take,
    Nat.add_sub_cancel_left]

theorem movedSince_exchange_read (h : b.InBounds) (hd : r.direction = .read) :
    (b.exchange r).2.1.movedSince r = b.undelivered.take r.rest.length := by
  have fits : (b.drain r.rest.length).1.length ≤ r.rest.length := by
    rw [drain_fst h]
    exact List.length_take_le _ _
  rw [← drain_fst h]
  simp only [exchange, hd, Request.movedSince]
  generalize (b.drain r.rest.length).1 = bs at fits
  have room : r.rest.length = r.buffer.length - r.processed := List.length_drop
  rcases Nat.lt_or_ge r.buffer.length r.processed with beyond | within
  · -- nothing is left of a buffer that the request claims to be past
    have none : bs = [] := List.length_eq_zero_iff.mp (by omega)
    subst none
    simp only [List.length_nil, Nat.add_zero, List.drop_take, Nat.sub_self, List.take_zero]
  · have len : (r.buffer.take r.processed).length = r.processed := List.length_take_of_le within
    rw [Bytes.overlay_of_fits (by omega), List.drop_take, Nat.add_sub_cancel_left, List.append_assoc,
      List.drop_left' len, List.take_left]

theorem exchange_write (h : b.InBounds) (hd : r.direction = .write) :
    (b.exchange r).1.staged = b.staged ++ (b.exchange r).2.1.movedSince r ∧
      (b.exchange r).1.undelivered = b.undelivered ∧
      (b.exchange r).1.bytesRead = b.bytesRead ∧
      (b.exchange r).1.bytesWritten =
        b.bytesWritten + UInt32.ofNat ((b.exchange r).2.1.movedSince r).length := by
  rw [movedSince_exchange_write hd]
  have buffers : (b.exchange r).1 = (b.stage r.rest).2 := by simp only [exchange, hd]
  rw [buffers]
  refine ⟨staged_stage h r.rest, rfl, rfl, ?_⟩
  rw [List.length_take, Nat.min_comm]
  rfl

theorem exchange_read (h : b.InBounds) (hd : r.direction = .read) :
    b.undelivered = (b.exchange r).2.1.movedSince r ++ (b.exchange r).1.undelivered ∧
      (b.exchange r).1.staged = b.staged ∧
      (b.exchange r).1.bytesWritten = b.bytesWritten ∧
      (b.exchange r).1.bytesRead =
        b.bytesRead + UInt32.ofNat ((b.exchange r).2.1.movedSince r).length := by
  rw [movedSince_exchange_read h hd]
  have buffers : (b.exchange r).1 = (b.drain r.rest.length).2 := by simp only [exchange, hd]
  rw [buffers, ← drain_fst h]
  refine ⟨(undelivered_drain b _).symm, rfl, rfl, ?_⟩
  rw [drain_fst h, List.length_take, length_undelivered h]
  rfl

end Buffers

namespace Link

/-- What can become of a request that is offered to the link. -/
inductive Serves (l : Link) (r : Request) : Serviced → Prop
  | busy (h : l.locks.link = true) : Serves l r ⟨l, r, .pending, [.leftPending r.direction]⟩
  | failed {e : Error} (free : l.locks.link = false) (h : l.failure? = some e) :
    Serves l r
      ⟨l.unlock, { r with progress := .ready (.error e) }, .ready (.error e),
        [.failing r.direction e]⟩
  | finished {b : Buffers} {moved : Request} {count : Nat} (free : l.locks.link = false)
    (works : l.failure? = none) (h : l.buffers.exchange r = (b, moved, count))
    (all : moved.processed = moved.requested) :
    Serves l r
      ⟨{ l with buffers := b }.unlock, { moved with progress := .ready .ok }, .ready .ok,
        [.moved moved.direction count moved.processed moved.requested]⟩
  | unfinished {b : Buffers} {moved : Request} {count : Nat} (free : l.locks.link = false)
    (works : l.failure? = none) (h : l.buffers.exchange r = (b, moved, count))
    (part : moved.processed ≠ moved.requested) :
    Serves l r
      ⟨{ l with buffers := b }.nudge.unlock, { moved with progress := .pending }, .pending,
        [.moved moved.direction count moved.processed moved.requested]⟩

theorem serves (l : Link) (r : Request) : l.Serves r (l.service r) := by
  cases held : l.locks.link with
  | true =>
    have : l.service r = ⟨l, r, .pending, [.leftPending r.direction]⟩ := by
      simp only [service, Locks.acquire?, Locks.held, held, if_true]
    rw [this]
    exact .busy held
  | false =>
    have taken : l.locks.acquire? .link = some (l.locks.set .link true) := by
      simp only [Locks.acquire?, Locks.held, held, Bool.false_eq_true, if_false]
    unfold service
    simp only [taken]
    cases hf : l.failure? with
    | some e =>
      simp only [failure?] at hf ⊢
      simp only [hf]
      exact .failed held hf
    | none =>
      simp only [failure?] at hf ⊢
      simp only [hf]
      split
      · exact .finished held hf rfl ‹_›
      · exact .unfinished held hf rfl ‹_›

variable {l : Link} {r : Request} {sv : Serviced}

theorem release_of_free (free : l.locks.link = false) : l.locks.release .link = l.locks := by
  rw [Locks.release, Locks.set, ← free]

/-- Serving a request touches nothing but the bytes, the pace and the published counts. -/
theorem Serves.link_eq (h : l.Serves r sv) : ∃ schedule published,
    sv.link = { l with buffers := sv.link.buffers, schedule, published } := by
  cases h with
  | busy => exact ⟨l.schedule, l.published, rfl⟩
  | failed free =>
    simp only [unlock, publish, release_of_free free]
    exact ⟨_, _, rfl⟩
  | finished free =>
    simp only [unlock, publish, release_of_free free]
    exact ⟨_, _, rfl⟩
  | unfinished free =>
    simp only [unlock, publish, nudge, release_of_free free]
    exact ⟨_, _, rfl⟩

theorem Serves.inBounds (h : l.Serves r sv) (hb : l.buffers.InBounds) :
    sv.link.buffers.InBounds := by
  cases h with
  | busy => exact hb
  | failed => exact hb
  | finished _ _ exchanged =>
    have := hb.exchange r
    rwa [exchanged] at this
  | unfinished _ _ exchanged =>
    have := hb.exchange r
    rwa [exchanged] at this

/-- A link that works serves a request as far as the bytes go. -/
theorem service_works (free : l.locks.link = false) (works : l.failure? = none) (r : Request) :
    let after := (l.buffers.exchange r).1
    let moved := (l.buffers.exchange r).2.1
    let progress : Progress := if moved.processed = moved.requested then .ready .ok else .pending
    (l.service r).link =
        { l with
          buffers := after
          schedule := if moved.processed = moved.requested then l.schedule else l.schedule.nudge
          published := { l with buffers := after }.snapshot } ∧
      (l.service r).progress = progress ∧ (l.service r).request = { moved with progress } := by
  have serves := l.serves r
  generalize l.service r = sv at serves
  cases serves with
  | busy held => exact absurd (free.symm.trans held) nofun
  | failed _ fails => exact absurd (works.symm.trans fails) nofun
  | finished _ _ exchanged all =>
    rw [exchanged]
    simp only [all, if_true, unlock, publish, release_of_free free]
    trivial
  | unfinished _ _ exchanged part =>
    rw [exchanged]
    simp only [part, if_false, unlock, publish, nudge, release_of_free free]
    exact ⟨rfl, trivial, trivial⟩

theorem movedSince_self (r : Request) : r.movedSince r = [] := by
  rw [Request.movedSince, List.drop_take, Nat.sub_self, List.take_zero]

/-- Serving a write request stages what it has moved, behind all that is staged already. -/
theorem Serves.write (h : l.Serves r sv) (hb : l.buffers.InBounds) (hd : r.direction = .write) :
    sv.link.buffers.staged = l.buffers.staged ++ sv.request.movedSince r ∧
      sv.link.buffers.undelivered = l.buffers.undelivered ∧
      sv.link.buffers.bytesRead = l.buffers.bytesRead ∧
      sv.link.buffers.bytesWritten =
        l.buffers.bytesWritten + UInt32.ofNat (sv.request.movedSince r).length := by
  have idle : l.buffers.staged = l.buffers.staged ++ r.movedSince r ∧
      l.buffers.bytesWritten =
        l.buffers.bytesWritten + UInt32.ofNat (r.movedSince r).length := by
    rw [movedSince_self, List.append_nil]
    exact ⟨rfl, (UInt32.add_zero _).symm⟩
  cases h with
  | busy => exact ⟨idle.1, rfl, rfl, idle.2⟩
  | failed => exact ⟨idle.1, rfl, rfl, idle.2⟩
  | finished _ _ exchanged =>
    have moves := Buffers.exchange_write hb hd
    rwa [exchanged] at moves
  | unfinished _ _ exchanged =>
    have moves := Buffers.exchange_write hb hd
    rwa [exchanged] at moves

/-- Serving a read request delivers the first of the bytes that wait for it. -/
theorem Serves.read (h : l.Serves r sv) (hb : l.buffers.InBounds) (hd : r.direction = .read) :
    l.buffers.undelivered = sv.request.movedSince r ++ sv.link.buffers.undelivered ∧
      sv.link.buffers.staged = l.buffers.staged ∧
      sv.link.buffers.bytesWritten = l.buffers.bytesWritten ∧
      sv.link.buffers.bytesRead =
        l.buffers.bytesRead + UInt32.ofNat (sv.request.movedSince r).length := by
  have idle : l.buffers.undelivered = r.movedSince r ++ l.buffers.undelivered ∧
      l.buffers.bytesRead = l.buffers.bytesRead + UInt32.ofNat (r.movedSince r).length := by
    rw [movedSince_self, List.nil_append]
    exact ⟨rfl, (UInt32.add_zero _).symm⟩
  cases h with
  | busy => exact ⟨idle.1, rfl, rfl, idle.2⟩
  | failed => exact ⟨idle.1, rfl, rfl, idle.2⟩
  | finished _ _ exchanged =>
    have moves := Buffers.exchange_read hb hd
    rwa [exchanged] at moves
  | unfinished _ _ exchanged =>
    have moves := Buffers.exchange_read hb hd
    rwa [exchanged] at moves

end Link

end PolledLink
