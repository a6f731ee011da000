import PolledLink.Link.Session

/-! When a session is sound. Its link lock is then held for the outstanding operation and for nothing
else, and the calls that have stopped are at most one wake pass and, inside it, at most one start of
an operation. -/

namespace PolledLink

/-- Whether the channel is not just being asked for the operation. -/
def Operation.settled : Operation → Bool
  | idle | writing | reading => true
  | issuingWrite | issuingRead | writeDone _ => false

/-- The calls that a wake pass keeps stopped, as the wake lock tells. -/
inductive Waking : Bool → List Demand → Prop
  | asleep : Waking false []
  | head (unit : LinkUnit) : Waking true [.head unit]
  | complete (unit : LinkUnit) (outcome : Outcome) : Waking true [.complete unit outcome]

theorem Waking.eq_nil {ds : List Demand} (h : Waking false ds) : ds = [] := by
  cases h with
  | asleep => rfl

/-- The stopped calls that go with an operation and with the wake lock. -/
inductive Stacked : Operation → Bool → List Demand → Prop
  | idle {wake : Bool} {ds : List Demand} (h : Waking wake ds) : Stacked .idle wake ds
  | writing {wake : Bool} {ds : List Demand} (h : Waking wake ds) : Stacked .writing wake ds
  | reading {wake : Bool} {ds : List Demand} (h : Waking wake ds) : Stacked .reading wake ds
  | issuingWrite {wake : Bool} {ds : List Demand} (channel : ChannelId) (frame : Frame)
    (count : Nat) (h : Waking wake ds) :
    Stacked .issuingWrite wake (.issueWrite channel frame count :: ds)
  | writeDone {wake : Bool} {ds : List Demand} (outcome : Outcome) (channel : ChannelId)
    (frame : Frame) (count : Nat) (h : Waking wake ds) :
    Stacked (.writeDone outcome) wake (.issueWrite channel frame count :: ds)
  | issuingRead {wake : Bool} {ds : List Demand} (channel : ChannelId) (h : Waking wake ds) :
    Stacked .issuingRead wake (.issueRead channel :: ds)

namespace Stacked

variable {op : Operation} {wake : Bool} {outer : List Demand}

theorem of_issueWrite {channel : ChannelId} {frame : Frame} {count : Nat}
    (h : Stacked op wake (.issueWrite channel frame count :: outer)) :
    (op = .issuingWrite ∨ ∃ o, op = .writeDone o) ∧ Waking wake outer := by
  cases h with
  | idle waking => nomatch waking
  | writing waking => nomatch waking
  | reading waking => nomatch waking
  | issuingWrite _ _ _ waking => exact ⟨.inl rfl, waking⟩
  | writeDone o _ _ _ waking => exact ⟨.inr ⟨o, rfl⟩, waking⟩

theorem of_issueRead {channel : ChannelId} (h : Stacked op wake (.issueRead channel :: outer)) :
    op = .issuingRead ∧ Waking wake outer := by
  cases h with
  | idle waking => nomatch waking
  | writing waking => nomatch waking
  | reading waking => nomatch waking
  | issuingRead _ waking => exact ⟨rfl, waking⟩

/-- Inside a wake pass no operation is being started, so that the pass can stand anywhere. -/
theorem of_waking {d : Demand} (h : Stacked op wake (d :: outer)) (stopped : Waking true [d]) :
    wake = true ∧ outer = [] ∧
      ∀ {wake' : Bool} {ds : List Demand}, Waking wake' ds → Stacked op wake' ds := by
  have alone {wake : Bool} (waking : Waking wake (d :: outer)) : wake = true ∧ outer = [] := by
    cases waking <;> exact ⟨rfl, rfl⟩
  cases h with
  | idle waking => exact ⟨(alone waking).1, (alone waking).2, .idle⟩
  | writing waking => exact ⟨(alone waking).1, (alone waking).2, .writing⟩
  | reading waking => exact ⟨(alone waking).1, (alone waking).2, .reading⟩
  | issuingWrite _ _ _ _ => nomatch stopped
  | writeDone _ _ _ _ _ => nomatch stopped
  | issuingRead _ _ => nomatch stopped

end Stacked

structure Session.Sound (s : Session) : Prop where
  held : s.link.locks.link = s.link.inFlight
  attached : s.link.channel = none → s.link.operation = .idle
  inBounds : s.link.buffers.InBounds
  stacked : Stacked s.link.operation s.link.locks.wake s.stopped

namespace Session

variable {s : Session}

namespace Sound

theorem free (h : s.Sound) (idle : s.link.operation = .idle) : s.link.locks.link = false := by
  rw [h.held, Link.inFlight, idle]
  rfl

theorem busy (h : s.Sound) (inFlight : s.link.operation ≠ .idle) : s.link.locks.link = true := by
  rw [h.held, Link.inFlight]
  exact bne_iff_ne.mpr inFlight

theorem exists_channel (h : s.Sound) (inFlight : s.link.operation ≠ .idle) :
    ∃ channel, s.link.channel = some channel :=
  Option.ne_none_iff_exists'.mp fun none => inFlight (h.attached none)

/-- Unless an operation is being started, only a wake pass can be stopped. -/
theorem waking {op : Operation} (h : s.Sound) (hop : s.link.operation = op)
    (settled : op.settled = true) : Waking s.link.locks.wake s.stopped := by
  have stacked := h.stacked
  rw [hop] at stacked
  generalize s.stopped = ds at stacked ⊢
  cases stacked with
  | idle waking => exact waking
  | writing waking => exact waking
  | reading waking => exact waking
  | issuingWrite => nomatch settled
  | writeDone => nomatch settled
  | issuingRead => nomatch settled

/-- A link that gives up its lock with no operation outstanding. -/
theorem of_unlock {l : Link} {stopped : List Demand} (idle : l.operation = .idle)
    (inBounds : l.buffers.InBounds) (waking : Waking l.locks.wake stopped) :
    Sound ⟨l.unlock, stopped⟩ := by
  have quiet : l.unlock.operation = .idle := idle
  refine ⟨?_, fun _ => idle, inBounds, ?_⟩
  · rw [Link.inFlight, quiet]
    rfl
  · rw [quiet]
    exact .idle waking

variable {l : Link} {d next : Demand} {outer : List Demand}

/-- A wake pass that stops with its next demand. -/
theorem stopAgain (h : Sound ⟨l, d :: outer⟩) (stopped : Waking true [d])
    (again : Waking true [next]) : Sound ⟨l, next :: outer⟩ := by
  obtain ⟨wake, rfl, goes⟩ := h.stacked.of_waking stopped
  refine ⟨h.held, h.attached, h.inBounds, goes ?_⟩
  rw [wake]
  exact again

theorem passOn (h : Sound ⟨l, d :: outer⟩) (stopped : Waking true [d]) (unit : LinkUnit) :
    Sound (take (l.passOn unit) outer) := by
  cases unit with
  | input => exact h.stopAgain stopped (.head .output)
  | output =>
    obtain ⟨_, rfl, goes⟩ := h.stacked.of_waking stopped
    exact ⟨h.held, h.attached, h.inBounds, goes .asleep⟩

end Sound

end Session

end PolledLink
