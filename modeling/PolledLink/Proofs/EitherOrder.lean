import PolledLink.Proofs.Carrying
import PolledLink.Proofs.EarlyCompletion
import PolledLink.Proofs.Failure

/-! Requests of opposite directions. A read takes from the bytes received and a write adds to those
staged, so that each finds what it would have found without the other, and the link ends up the same
whichever of the two is served first. Hence it does not matter either which of the two units a wake
pass visits first. -/

namespace PolledLink

namespace PerUnit

variable {α : Type}

def swap (p : PerUnit α) : PerUnit α := ⟨p.output, p.input⟩

theorem set_get (p : PerUnit α) (unit : LinkUnit) : p.set unit (p.get unit) = p := by
  cases unit <;> rfl

end PerUnit

namespace Buffers

/-- Whether the bytes that can be moved are all that is left of the request. -/
def finishes (b : Buffers) (r : Request) : Bool :=
  (b.exchange r).2.1.processed = (b.exchange r).2.1.requested

variable (b : Buffers) {r other : Request}

theorem exchange_exchange (opposite : r.direction ≠ other.direction) :
    (b.exchange other).1.exchange r =
      (((b.exchange r).1.exchange other).1, (b.exchange r).2) := by
  unfold exchange
  cases hr : r.direction <;> cases ho : other.direction
  case read.write => rfl
  case write.read => rfl
  case read.read => exact absurd (hr.trans ho.symm) opposite
  case write.write => exact absurd (hr.trans ho.symm) opposite

theorem finishes_exchange (opposite : r.direction ≠ other.direction) :
    (b.exchange other).1.finishes r = b.finishes r := by
  simp only [finishes, b.exchange_exchange opposite]

end Buffers

namespace Link

/-- The link when bytes have been moved for a request, be they all that was left of it or a part. -/
def exchanged (l : Link) (b : Buffers) (all : Bool) : Link :=
  { l with
    buffers := b
    schedule := if all then l.schedule else l.schedule.nudge
    published := { l with buffers := b }.snapshot }

variable {l : Link} {r other : Request}

theorem exchanged_exchanged (l : Link) (b b' : Buffers) (all all' : Bool) :
    (l.exchanged b all).exchanged b' all' = l.exchanged b' (all && all') := by
  cases all <;> cases all' <;> rfl

theorem service_eq_exchanged (free : l.locks.link = false) (works : l.failure? = none)
    (r : Request) :
    (l.service r).link = l.exchanged (l.buffers.exchange r).1 (l.buffers.finishes r) ∧
      (l.service r).progress = (if l.buffers.finishes r then .ready .ok else .pending) ∧
      (l.service r).request =
        { (l.buffers.exchange r).2.1 with progress := (l.service r).progress } := by
  obtain ⟨link, progress, request⟩ := service_works free works r
  simp only [exchanged, Buffers.finishes, decide_eq_true_eq]
  exact ⟨link, progress, progress ▸ request⟩

/-- On a link that works the one request is moved behind the other. -/
theorem service_service_eq_exchanged (free : l.locks.link = false) (works : l.failure? = none)
    (r other : Request) :
    let later := (l.service other).link.service r
    let b := (l.buffers.exchange other).1
    later.link = l.exchanged (b.exchange r).1 (l.buffers.finishes other && b.finishes r) ∧
      later.progress = (if b.finishes r then .ready .ok else .pending) ∧
      later.request = { (b.exchange r).2.1 with progress := later.progress } := by
  intro later b
  have behind : later = (l.exchanged b (l.buffers.finishes other)).service r :=
    congrArg (Link.service · r) (service_eq_exchanged free works other).1
  rw [behind]
  obtain ⟨link, progress, request⟩ :=
    service_eq_exchanged (l := l.exchanged b (l.buffers.finishes other)) free works r
  exact ⟨link.trans (exchanged_exchanged l b _ _ _), progress, request⟩

/-- A request gets the same whether or not one of the other direction is served before it, and what
the two make of the link is the same in either order. -/
theorem service_service (l : Link) (opposite : r.direction ≠ other.direction) :
    let later := (l.service other).link.service r
    later.progress = (l.service r).progress ∧ later.request = (l.service r).request ∧
      later.link = ((l.service r).link.service other).link := by
  intro later
  cases held : l.locks.link with
  | true => simp only [later, service_held held, and_self]
  | false =>
    cases failed : l.failure? with
    | some e =>
      have told (request : Request) := service_failed held failed request
      have toldLater (request : Request) := service_failed (l := l.unlock) rfl failed request
      simp only [later, told, toldLater, and_self]
    | none =>
      obtain ⟨-, alone, movedAlone⟩ := service_eq_exchanged held failed r
      obtain ⟨link, behind, movedBehind⟩ := service_service_eq_exchanged held failed r other
      have progress : later.progress = (l.service r).progress := by
        rw [behind, alone, l.buffers.finishes_exchange opposite]
      refine ⟨progress, ?_, ?_⟩
      · rw [movedBehind, movedAlone, progress, l.buffers.exchange_exchange opposite]
      · rw [link, (service_service_eq_exchanged held failed other r).1, Bool.and_comm,
          l.buffers.finishes_exchange opposite, l.buffers.finishes_exchange opposite.symm,
          l.buffers.exchange_exchange opposite]

/-- What a wake pass makes of the request at the head of a queue. -/
def offer (l : Link) (r : Request) : Link × Request :=
  if r.isPending then ((l.service r).link, (l.service r).request) else (l, r)

theorem offer_offer (l : Link) (opposite : r.direction ≠ other.direction) :
    (l.offer other).1.offer r = (((l.offer r).1.offer other).1, (l.offer r).2) := by
  obtain ⟨-, request, link⟩ := l.service_service opposite
  by_cases hr : r.isPending <;> by_cases ho : other.isPending <;>
    simp only [offer, hr, ho, if_true, if_false, Bool.false_eq_true, request, link]

/-- A wake pass visits the units one after the other. -/
def visits (l : Link) (heads : PerUnit Request) : List LinkUnit → Link × PerUnit Request
  | [] => (l, heads)
  | unit :: units =>
    let (l, r) := l.offer (heads.get unit)
    l.visits (heads.set unit r) units

/-- The whole of a wake pass that has begun, if it visits the units in this order and nothing is
called in the course of it. -/
def pass (l : Link) (heads : PerUnit Request) (order : List LinkUnit) : Link × PerUnit Request :=
  let (l, heads) := l.visits heads order
  ({ l with locks := l.locks.release .wake }, heads)

theorem visits_reverse (l : Link) (opposite : r.direction ≠ other.direction) :
    l.visits ⟨r, other⟩ LinkUnit.all.reverse = l.visits ⟨r, other⟩ LinkUnit.all := by
  have input := l.offer_offer opposite
  have output := congrArg Prod.snd (l.offer_offer opposite.symm)
  calc l.visits ⟨r, other⟩ LinkUnit.all.reverse
      = (((l.offer other).1.offer r).1, ⟨((l.offer other).1.offer r).2, (l.offer other).2⟩) := rfl
    _ = (((l.offer r).1.offer other).1, ⟨(l.offer r).2, ((l.offer r).1.offer other).2⟩) := by
        rw [input, output]
    _ = l.visits ⟨r, other⟩ LinkUnit.all := rfl

theorem pass_reverse (l : Link) (opposite : r.direction ≠ other.direction) :
    l.pass ⟨r, other⟩ LinkUnit.all.reverse = l.pass ⟨r, other⟩ LinkUnit.all := by
  simp only [pass, l.visits_reverse opposite]

/-- The first of the units to be visited might as well be the other, with the same request. -/
theorem pass_swap (l : Link) (heads : PerUnit Request) :
    l.pass heads.swap LinkUnit.all =
      ((l.pass heads LinkUnit.all.reverse).1, (l.pass heads LinkUnit.all.reverse).2.swap) := rfl

end Link

/-- Queues of which only the heads are looked at, and where a request stays when it is complete. -/
def Queueing.heads : Queueing (PerUnit Request) where
  head unit heads := (some (heads.get unit), heads)
  putBack unit r heads := heads.set unit r
  complete _ _ heads := heads

namespace Deployment

variable {π τ : Type} (c : Channel π) {w : Deployment (PerUnit Request) π τ} {outer : List Demand}

/-- A wake pass deals with one unit, and then passes on. -/
theorem settle_offer {unit : LinkUnit} (hs : w.session.stopped = .head unit :: outer)
    (bound : Nat) :
    let offered := w.session.link.offer (w.queues.get unit)
    ∃ b, bound ≤ b ∧
      (host .heads c).settle (bound + 2) (.demand (.head unit)) w =
        (host .heads c).settle b (offered.1.passOn unit).turn
          { w with
            session := .take (offered.1.passOn unit) outer
            queues := w.queues.set unit offered.2 } := by
  intro offered
  let r := w.queues.get unit
  have responds : w.respond .heads c (.head unit) =
      let a := w.session.link.offered unit (some r)
      (a.turn,
        { w with
          session := .take a outer
          queues := a.served.elim w.queues (w.queues.set unit) }) :=
    respond_head_stopped .heads c hs
  rw [settle_demand, responds]
  cases pending : r.isPending with
  | false =>
    have skipped : (some r).filter Request.isPending = none := Option.filter_some_neg pending
    have same : offered = (w.session.link, r) := by
      simp only [offered, Link.offer, r, pending, Bool.false_eq_true, if_false]
    have kept : w.queues.set unit r = w.queues := w.queues.set_get unit
    rw [Link.offered_none skipped, same]
    simp only [Link.passOn_served, Option.elim_none, kept]
    exact ⟨bound + 1, Nat.le_succ bound, rfl⟩
  | true =>
    have shown : (some r).filter Request.isPending = some r := Option.filter_some_pos pending
    have served : offered =
        ((w.session.link.service r).link, (w.session.link.service r).request) := by
      simp only [offered, Link.offer, r, pending, if_true]
    rw [served]
    cases told : (w.session.link.service r).progress with
    | pending =>
      rw [Link.offered_short shown told]
      exact ⟨bound + 1, Nat.le_succ bound, rfl⟩
    | ready o =>
      rw [Link.offered_ready shown told]
      refine ⟨bound, Nat.le_refl bound, ?_⟩
      let completing : Deployment (PerUnit Request) π τ :=
        { w with
          session := ⟨(w.session.link.service r).link, .complete unit o :: outer⟩
          queues := w.queues.set unit (w.session.link.service r).request }
      have completes := respond_complete_stopped .heads c (w := completing) rfl
      exact (settle_demand .heads c bound _ completing).trans (by rw [completes]; rfl)

/-- A call that begins a wake pass, and is carried through, visits all units. -/
theorem invoke_pass {call : Call}
    (begins : (w.session.advance (.call call)).turn = .demand (.head .input)) :
    let ended := (w.session.advance (.call call)).link.pass w.queues LinkUnit.all
    ((host .heads c).invoke call w).2 =
      { w with session := ⟨ended.1, w.session.stopped⟩, queues := ended.2 } := by
  intro ended
  let a := w.session.advance (.call call)
  let begun : Deployment (PerUnit Request) π τ :=
    { w with session := ⟨a.link, .head .input :: w.session.stopped⟩ }
  let first := a.link.offer w.queues.input
  let between : Deployment (PerUnit Request) π τ :=
    { w with
      session := ⟨first.1, .head .output :: w.session.stopped⟩
      queues := w.queues.set .input first.2 }
  have moved : w.move (.call call) = (a, begun) := by
    simp only [move, Session.step, Session.take, begins, a, begun]
  obtain ⟨b, enough, input⟩ := settle_offer c (w := begun) rfl 2
  obtain ⟨spare, rfl⟩ := Nat.exists_eq_add_of_le' enough
  obtain ⟨left, -, output⟩ := settle_offer c (w := between) rfl spare
  have settles : ((host .heads c).settle 4 a.turn begun).2 =
      { w with session := ⟨ended.1, w.session.stopped⟩, queues := ended.2 } := by
    rw [begins]
    calc ((host .heads c).settle 4 (.demand (.head .input)) begun).2
        = ((host .heads c).settle (spare + 2) (.demand (.head .output)) between).2 :=
          congrArg Prod.snd input
      _ = ((host .heads c).settle left (.returned .nothing) _).2 := congrArg Prod.snd output
      _ = { w with session := ⟨ended.1, w.session.stopped⟩, queues := ended.2 } := by
        rw [settle_returned]
        rfl
  rw [invoke_eq, moved]
  exact settles

end Deployment

namespace Session

theorem next_service (s : Session) (r : Request) :
    s.next (.call (.service r)) = ⟨(s.link.service r).link, s.stopped⟩ := rfl

/-- Whatever state a session is in, and whatever calls are stopped in it, a read and a write get the
same in whichever order they are served, and the link ends up the same. Hence a wake pass that finds
them at the heads of the two units ends with the same link and the same requests, whichever unit it
visits first and whichever of the two waits at which. -/
theorem opposite_requests_commute (s : Session) (r other : Request)
    (opposite : r.direction ≠ other.direction) :
    let serve (r : Request) : Move := .call (.service r)
    let told (s : Session) (m : Move) := ((s.advance m).served, (s.advance m).turn)
    told (s.next (serve other)) (serve r) = told s (serve r) ∧
    told (s.next (serve r)) (serve other) = told s (serve other) ∧
    s.run [serve r, serve other] = s.run [serve other, serve r] ∧
    ∀ call, (s.advance (.call call)).turn = .demand (.head .input) →
      let begun := (s.advance (.call call)).link
      let ended := begun.pass ⟨r, other⟩ LinkUnit.all
      begun.pass ⟨r, other⟩ LinkUnit.all.reverse = ended ∧
      ∀ {π τ : Type} (c : Channel π) (channel : π) (far : τ),
        let carried (heads : PerUnit Request) :=
          ((Deployment.host .heads c).invoke call { session := s, queues := heads, channel, far }).2
        carried ⟨r, other⟩ =
          { session := ⟨ended.1, s.stopped⟩, queues := ended.2, channel, far } ∧
        carried ⟨other, r⟩ =
          { session := ⟨ended.1, s.stopped⟩, queues := ended.2.swap, channel, far } := by
  intro serve told
  have same {r other : Request} (opposite : r.direction ≠ other.direction) :
      told (s.next (serve other)) (serve r) = told s (serve r) := by
    obtain ⟨progress, request, -⟩ := s.link.service_service opposite
    simp only [told, serve, next_service, advance, Link.call, progress, request]
  refine ⟨same opposite, same opposite.symm, ?_, fun call begins => ?_⟩
  · have link := (s.link.service_service opposite).2.2
    simp only [run, serve, next_service, link]
  · intro begun ended
    have turned : begun.pass ⟨r, other⟩ LinkUnit.all.reverse = ended := begun.pass_reverse opposite
    refine ⟨turned, fun c channel far => ⟨Deployment.invoke_pass c begins, ?_⟩⟩
    have exchanged : (s.advance (.call call)).link.pass ⟨other, r⟩ LinkUnit.all =
        (ended.1, ended.2.swap) := by
      rw [← turned]
      exact begun.pass_swap ⟨r, other⟩
    have carried := Deployment.invoke_pass c
      (w := { session := s, queues := ⟨other, r⟩, channel, far }) begins
    simp only [exchanged] at carried
    exact carried

/-- Two bytes wait for a read of three, with room for the rest of a write. -/
theorem opposite_requests_commute_in_wake :
    let s := (ofConfig {}).run
      [.call (.attach 0), .call (.openUnit .input), .call .runTask, .answer none,
        .call (.readComplete (.ok [0x46, 0x52, 0x50, 0x59, 1, 0, 0, 2, 8, 9]))]
    let read : Request := { direction := .read, buffer := [0, 0, 0] }
    let write : Request := { direction := .write, buffer := [5, 6, 7], processed := 1 }
    let begun := (s.advance (.call .runTask)).link
    read.direction ≠ write.direction ∧
      (s.advance (.call .runTask)).turn = .demand (.head .input) ∧
      begun.pass ⟨read, write⟩ LinkUnit.all.reverse = begun.pass ⟨read, write⟩ LinkUnit.all ∧
      (begun.pass ⟨read, write⟩ LinkUnit.all).2 =
        ⟨{ read with buffer := [8, 9, 0], processed := 2 },
          { write with processed := 3, progress := .ready .ok }⟩ := by
  intro s read write begun
  have opposite : read.direction ≠ write.direction := nofun
  have begins : (s.advance (.call .runTask)).turn = .demand (.head .input) := by decide +kernel
  obtain ⟨-, -, -, passes⟩ := opposite_requests_commute s read write opposite
  exact ⟨opposite, begins, (passes .runTask begins).1, by decide +kernel⟩

end Session

end PolledLink
