import PolledLink.Proofs.EarlyCompletion
import PolledLink.Proofs.Failure
import PolledLink.Proofs.Publication

/-! What a request gets when it is offered to a link. Unless the link is busy or has failed, it moves
as many bytes as fit: those that are left of the request, up to the room in the frame or to the bytes
received. Nothing else changes, and with bytes left over the periodic task is due next. -/

namespace PolledLink

namespace Buffers

/-- How many of the bytes left of the request can be moved. -/
def fitting (b : Buffers) (r : Request) : Nat :=
  min (r.requested - r.processed) <|
    match r.direction with
    | .write => payloadCapacity - b.staged.length
    | .read => b.undelivered.length

/-- The buffers and the request when `count` bytes more have been taken from it. -/
def Stages (b after : Buffers) (r moved : Request) (count : Nat) : Prop :=
  after =
      { b with
        tx := after.tx
        writePos := b.writePos + count
        bytesWritten := b.bytesWritten + UInt32.ofNat count } ∧
    after.staged = b.staged ++ (r.buffer.drop r.processed).take count ∧
    moved = { r with processed := r.processed + count }

/-- The buffers and the request when `count` bytes more have been put into it. -/
def Delivers (b after : Buffers) (r moved : Request) (count : Nat) : Prop :=
  after =
      { b with
        readPos := b.readPos + count
        readLeft := b.readLeft - count
        bytesRead := b.bytesRead + UInt32.ofNat count } ∧
    after.undelivered = b.undelivered.drop count ∧
    moved =
      { r with
        buffer := r.buffer.take r.processed ++ b.undelivered.take count ++
          r.buffer.drop (r.processed + count)
        processed := r.processed + count }

variable {b : Buffers} {r : Request}

theorem requested_exchange (b : Buffers) (r : Request) :
    (b.exchange r).2.1.requested = r.requested := by
  unfold exchange
  cases r.direction with
  | write => rfl
  | read => exact Bytes.length_overlay _ _ _

theorem InBounds.exchange_stages (h : b.InBounds) (hd : r.direction = .write) :
    b.Stages (b.exchange r).1 r (b.exchange r).2.1 (b.fitting r) := by
  have count : b.fitting r = min r.rest.length b.writeSpace := by
    simp only [fitting, hd, Request.length_rest, length_staged h, writeSpace]
  have exchanged : b.exchange r = ((b.stage r.rest).2,
      { r with processed := r.processed + min r.rest.length b.writeSpace },
      min r.rest.length b.writeSpace) := by
    unfold Buffers.exchange
    rw [hd]
    rfl
  rw [exchanged, count]
  refine ⟨rfl, ?_, rfl⟩
  rw [staged_stage h, Nat.min_comm, List.take_eq_take_min]
  rfl

theorem InBounds.exchange_delivers (h : b.InBounds) (hd : r.direction = .read) :
    b.Delivers (b.exchange r).1 r (b.exchange r).2.1 (b.fitting r) := by
  have count : b.fitting r = min r.rest.length b.readLeft := by
    simp only [fitting, hd, Request.length_rest, length_undelivered h]
  have delivered : (b.drain r.rest.length).1 = b.undelivered.take (b.fitting r) := by
    rw [drain_fst h, count, ← length_undelivered h, List.take_eq_take_min]
  have len : (b.undelivered.take (b.fitting r)).length = b.fitting r := by
    rw [List.length_take, length_undelivered h, count]
    omega
  have room : b.fitting r ≤ r.buffer.length - r.processed := by
    rw [count, Request.length_rest]
    exact Nat.min_le_left _ _
  have exchanged : b.exchange r = ((b.drain r.rest.length).2,
      { r with
        buffer := r.buffer.overlay r.processed (b.undelivered.take (b.fitting r))
        processed := r.processed + b.fitting r },
      b.fitting r) := by
    unfold Buffers.exchange
    rw [hd]
    simp only [delivered, len]
  rw [exchanged]
  refine ⟨?_, ?_, ?_⟩
  · rw [count]
    rfl
  · rw [drop_undelivered h, count, ← length_undelivered h, List.drop_eq_drop_min]
  · rw [Bytes.overlay, len, List.take_of_length_le (l := b.undelivered.take _) (by omega)]

theorem InBounds.processed_exchange (h : b.InBounds) (r : Request) :
    (b.exchange r).2.1.processed = r.processed + b.fitting r := by
  cases hd : r.direction with
  | write => rw [(h.exchange_stages hd).2.2]
  | read => rw [(h.exchange_delivers hd).2.2]

end Buffers

namespace Link

variable {l : Link} {r : Request}

/-- A link that gives its lock back just as it was. -/
theorem unlock_eq_self (free : l.locks.link = false) (shows : l.Shows l.buffers.writePos) :
    l.unlock = l := by
  have published : l.snapshot = l.published := shows.symm
  rw [unlock, publish, published]
  simp only [release_of_free free]

end Link

namespace Session

/-- In every run of a new link, however its calls are nested, a request that is offered has as many
bytes moved as fit, in order, and nothing else changes. With that the request is complete, or else
it stays pending and the periodic task is due next. A busy link leaves all as it is, and a failed
one but tells the request of the failure. -/
theorem service_moves_what_fits (config : Config) (ms : List Move) (r : Request) :
    let s := (ofConfig config).run ms
    let l := s.link
    let sv := l.service r
    s.advance (.call (.service r)) =
      ⟨sv.link, sv.notes, some sv.request, .returned (.progress sv.progress)⟩ ∧
    (l.busy = true → sv.progress = .pending ∧ sv.request = r ∧ sv.link = l) ∧
    (l.busy = false → ∀ e, l.failure? = some e →
      sv.progress = .ready (.error e) ∧ sv.request = { r with progress := .ready (.error e) } ∧
      sv.link = l) ∧
    (l.busy = false → l.failure? = none →
      let count := l.buffers.fitting r
      let all := r.processed + count = r.requested
      let told : Progress := if all then .ready .ok else .pending
      sv.progress = told ∧
      ∃ after moved,
        (r.direction = .write → l.buffers.Stages after r moved count) ∧
        (r.direction = .read → l.buffers.Delivers after r moved count) ∧
        sv.request = { moved with progress := told } ∧
        sv.link =
          { l with
            buffers := after
            schedule := if all then l.schedule else { l.schedule with countdown := 1 }
            published := { l with buffers := after }.snapshot }) ∧
    sv.link.locks = l.locks ∧ sv.link.operation = l.operation := by
  intro s l sv
  have steady : s.Steady := steady_run config ms
  have serves : l.Serves r sv := l.serves r
  refine ⟨rfl, ?_, ?_, ?_, ?_⟩
  · intro busy
    have held := Link.service_held busy r
    exact ⟨congrArg Serviced.progress held, congrArg Serviced.request held,
      congrArg Serviced.link held⟩
  · intro free e failed
    have idle : l.operation = .idle := steady.idle_of_failure failed
    have shows : l.Shows l.buffers.writePos :=
      shows_of_ne_issuingRead config ms (by rw [idle]; nofun)
    have told := Link.service_failed free failed r
    refine ⟨congrArg Serviced.progress told, congrArg Serviced.request told, ?_⟩
    exact (congrArg Serviced.link told).trans (Link.unlock_eq_self free shows)
  · intro free works count all told
    have inBounds : l.buffers.InBounds := steady.inBounds
    obtain ⟨link, progress, request⟩ := Link.service_works free works r
    have same :
        ((l.buffers.exchange r).2.1.processed = (l.buffers.exchange r).2.1.requested) = all := by
      rw [inBounds.processed_exchange, l.buffers.requested_exchange]
    simp only [same] at link progress request
    exact ⟨progress, _, _, inBounds.exchange_stages, inBounds.exchange_delivers, request, link⟩
  · obtain ⟨schedule, published, link⟩ := serves.link_eq
    rw [link]
    exact ⟨rfl, rfl⟩

end Session

end PolledLink
