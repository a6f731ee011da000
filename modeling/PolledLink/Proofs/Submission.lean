import PolledLink.Proofs.Echo
import PolledLink.Proofs.Stepping

/-! Requests as a host submits them. The first of a unit is offered to the link at once, and those
behind it wait for their turn. So it makes no difference to what they will come to that not all are
in waiting from the start. -/

namespace PolledLink

namespace Request

/-- Moved as a whole, and without an error. -/
structure Finished (r : Request) : Prop where
  ready : r.progress = .ready .ok
  whole : r.processed = r.requested

variable {r : Request} {rs : List Request}

theorem finished_filled (r : Request) (bs : Bytes) : (r.filled bs).Finished :=
  ⟨rfl, (Bytes.length_overlay _ _ _).symm⟩

theorem finished_fill (rs : List Request) (bs : Bytes) : ∀ r ∈ fill rs bs, r.Finished := by
  induction rs generalizing bs with
  | nil => nofun
  | cons r rs ih => exact List.forall_mem_cons.mpr ⟨r.finished_filled _, ih _⟩

theorem requested_fill (rs : List Request) (bs : Bytes) :
    (fill rs bs).map requested = rs.map requested := by
  induction rs generalizing bs with
  | nil => rfl
  | cons r rs ih =>
    have same : (r.filled (bs.take r.rest.length)).requested = r.requested :=
      Bytes.length_overlay _ _ _
    rw [fill, List.map_cons, List.map_cons, same, ih]

theorem demand_fresh (fresh : ∀ r ∈ rs, r.processed = 0) :
    demand rs = (rs.map buffer).flatten.length := by
  induction rs with
  | nil => rfl
  | cons r rs ih =>
    rw [List.forall_mem_cons] at fresh
    rw [demand_cons, List.map_cons, List.flatten_cons, List.length_append, length_rest, fresh.1,
      ih fresh.2]
    rfl

/-- Requests of which nothing was moved before are filled by the stream alone. -/
theorem flatten_fill {d : Direction} {bs : Bytes} (waits : ∀ r ∈ rs, r.Waits d)
    (fresh : ∀ r ∈ rs, r.processed = 0) (enough : demand rs ≤ bs.length) :
    ((fill rs bs).map buffer).flatten = bs.take (demand rs) := by
  have moved : List.zipWith movedSince (fill rs bs) rs = (fill rs bs).map buffer := by
    clear enough waits
    induction rs generalizing bs with
    | nil => rfl
    | cons r rs ih =>
      rw [List.forall_mem_cons] at fresh
      have whole := (r.finished_filled (bs.take r.rest.length)).whole
      rw [fill, List.zipWith_cons_cons, List.map_cons, ih fresh.2, movedSince, fresh.1, whole,
        requested, List.take_length, List.drop_zero]
  rw [← moved]
  exact movedSince_fill waits enough

end Request

inductive Submission
  | write (chunk : Bytes)
  | read (buffer : Bytes)

namespace Submission

def unit : Submission → LinkUnit
  | write _ => .output
  | read _ => .input

def request : Submission → Request
  | write chunk => { direction := .write, buffer := chunk }
  | read buffer => { direction := .read, buffer }

def chunks (subs : List Submission) : List Bytes :=
  subs.filterMap fun
    | write chunk => some chunk
    | read _ => none

/-- The buffers to read into. -/
def buffers (subs : List Submission) : List Bytes :=
  subs.filterMap fun
    | write _ => none
    | read buffer => some buffer

def requests (unit : LinkUnit) (subs : List Submission) : List Request :=
  (subs.filter (·.unit = unit)).map request

theorem requests_cons (unit : LinkUnit) (s : Submission) (subs : List Submission) :
    requests unit (s :: subs) =
      if s.unit = unit then s.request :: requests unit subs else requests unit subs := by
  by_cases same : s.unit = unit
  · simp only [requests, List.filter_cons, same, decide_true, if_true, List.map_cons]
  · simp only [requests, List.filter_cons, same, decide_false, Bool.false_eq_true, if_false]

theorem waits (s : Submission) : s.request.Waits s.request.direction := by
  cases s <;> exact ⟨rfl, rfl, Nat.zero_le _⟩

theorem waits_of_mem {unit : LinkUnit} {subs : List Submission} {r : Request}
    (h : r ∈ requests unit subs) :
    r.Waits (match unit with | .input => .read | .output => .write) ∧ r.processed = 0 := by
  obtain ⟨s, mem, rfl⟩ := List.mem_map.mp h
  have same : s.unit = unit := of_decide_eq_true (List.mem_filter.mp mem).2
  subst same
  cases s <;> exact ⟨⟨rfl, rfl, Nat.zero_le _⟩, rfl⟩

theorem rest_requests (unit : LinkUnit) (subs : List Submission) :
    (requests unit subs).flatMap Request.rest =
      ((requests unit subs).map Request.buffer).flatten := by
  have whole : ∀ r ∈ requests unit subs, r.rest = r.buffer := fun r hr => by
    rw [Request.rest, (waits_of_mem hr).2, List.drop_zero]
  rw [List.flatMap_def, List.map_congr_left whole]

theorem buffer_inputs (subs : List Submission) :
    (requests .input subs).map Request.buffer = buffers subs := by
  induction subs with
  | nil => rfl
  | cons s subs ih =>
    rw [requests_cons]
    cases s with
    | write chunk => exact ih
    | read buffer => exact congrArg (buffer :: ·) ih

theorem demand_inputs (subs : List Submission) :
    Request.demand (requests .input subs) = (buffers subs).flatten.length := by
  rw [Request.demand_fresh fun r hr => (waits_of_mem hr).2, buffer_inputs]

theorem buffer_outputs (subs : List Submission) :
    (requests .output subs).map Request.buffer = chunks subs := by
  induction subs with
  | nil => rfl
  | cons s subs ih =>
    rw [requests_cons]
    cases s with
    | write chunk => exact congrArg (chunk :: ·) ih
    | read buffer => exact ih

end Submission

def Queues.enqueue (unit : LinkUnit) (r : Request) (qs : Queues) : Queues :=
  { qs with waiting := qs.waiting.set unit (qs.waiting.get unit ++ [r]) }

namespace Queues

variable {unit : LinkUnit} {qs : Queues}

theorem set_enqueue (qs : Queues) (r : Request) (rs : List Request) :
    (qs.enqueue unit r).waiting.set unit rs = qs.waiting.set unit rs := by
  unfold enqueue
  cases unit <;> rfl

theorem complete_enqueue (first : qs.waiting.get unit = []) (o : Outcome) (r : Request) :
    (qs.enqueue unit r).complete unit o =
      { waiting := qs.waiting.set unit []
        completed := qs.completed.set unit (qs.completed.get unit ++ [(o, r)]) } := by
  simp only [enqueue, complete, PerUnit.get_set_self, first, List.nil_append]
  cases unit <;> rfl

end Queues

namespace Outlook

def enqueue (s : Submission) (v : Outlook) : Outlook :=
  { v with queues := v.queues.enqueue s.unit s.request }

/-- A request that is the first of its unit has its turn at once. -/
def submit (s : Submission) (v : Outlook) : Outlook :=
  if v.queues.waiting.get s.unit = [] then (v.enqueue s).offer s.unit else v.enqueue s

/-- With all of the requests in waiting. -/
def awaiting (subs : List Submission) (v : Outlook) : Outlook :=
  { v with
    queues :=
      { v.queues with
        waiting :=
          { input := v.queues.waiting.input ++ Submission.requests .input subs
            output := v.queues.waiting.output ++ Submission.requests .output subs } } }

variable {v : Outlook} {s : Submission} {subs : List Submission}

theorem awaiting_nil (v : Outlook) : v.awaiting [] = v := by
  simp only [awaiting, Submission.requests, List.filter_nil, List.map_nil, List.append_nil]

theorem awaiting_cons (s : Submission) (subs : List Submission) (v : Outlook) :
    v.awaiting (s :: subs) = (v.enqueue s).awaiting subs := by
  cases s <;> simp [awaiting, Submission.requests_cons, enqueue, Queues.enqueue, Submission.unit,
    PerUnit.set, PerUnit.get]

theorem get_enqueue (first : v.queues.waiting.get s.unit = []) :
    (v.enqueue s).queues.waiting.get s.unit = [s.request] := by
  rw [enqueue, Queues.enqueue, PerUnit.get_set_self, first]
  rfl

theorem get_awaiting (unit : LinkUnit) :
    (v.awaiting subs).queues.waiting.get unit =
      v.queues.waiting.get unit ++ Submission.requests unit subs := by
  cases unit <;> rfl

/-- The oldest request has its turn in the same way, however many wait behind it. -/
theorem offer_awaiting (unit : LinkUnit) {r : Request} {rs : List Request} {d : Direction}
    (h : v.queues.waiting.get unit = r :: rs) (waits : r.Waits d) :
    (v.awaiting subs).offer unit = (v.offer unit).awaiting subs := by
  have h' : (v.awaiting subs).queues.waiting.get unit =
      r :: (rs ++ Submission.requests unit subs) := by
    rw [get_awaiting, h]
    rfl
  have move : (v.awaiting subs).move r = ((v.move r).1.awaiting subs, (v.move r).2) := by
    unfold Outlook.move
    split <;> rfl
  rw [offer_cons unit h waits, offer_cons unit h' waits, move]
  by_cases all : (v.move r).2.processed = (v.move r).2.requested
  · simp only [all, if_true]
    cases unit <;> rfl
  · simp only [all, if_false]
    cases unit <;> rfl

/-- It is then as if it were put in the queue with its turn behind it. -/
theorem submit_first (first : v.queues.waiting.get s.unit = []) :
    v.submit s =
      let (after, moved) := v.move s.request
      { after with
        queues :=
          if moved.processed = moved.requested then
            (v.queues.enqueue s.unit { moved with progress := .ready .ok }).complete s.unit .ok
          else v.queues.enqueue s.unit { moved with progress := .pending } } := by
  have move : (v.enqueue s).move s.request =
      ((v.move s.request).1.enqueue s, (v.move s.request).2) := by
    unfold Outlook.move
    split <;> rfl
  have waiting (rs : List Request) : (v.enqueue s).queues.waiting.set s.unit rs =
      v.queues.waiting.set s.unit rs := v.queues.set_enqueue s.request rs
  unfold submit
  rw [if_pos first, offer_cons s.unit (get_enqueue first) s.waits, move]
  simp only [waiting, Queues.complete_enqueue first]
  simp only [Queues.enqueue, first, List.nil_append]
  rfl

theorem Resounds.offer (h : v.Resounds) (unit : LinkUnit) : v.Relays (v.offer unit) := by
  cases unit with
  | input => exact h.offer_input
  | output => exact h.offer_output

/-- What the requests will come to is the same, whether one of them has been submitted already. -/
theorem Resounds.submit (h : (v.awaiting (s :: subs)).Resounds) :
    (v.awaiting (s :: subs)).Relays ((v.submit s).awaiting subs) := by
  rw [awaiting_cons] at h ⊢
  unfold Outlook.submit
  split
  · rename_i first
    rw [← offer_awaiting s.unit (get_enqueue first) s.waits]
    exact h.offer s.unit
  · exact ⟨h, rfl⟩

def submitAll (subs : List Submission) (v : Outlook) : Outlook :=
  subs.foldl (fun v s => v.submit s) v

theorem Resounds.submitAll (h : (v.awaiting subs).Resounds) :
    (v.awaiting subs).Relays (v.submitAll subs) := by
  induction subs generalizing v with
  | nil =>
    rw [awaiting_nil] at h ⊢
    exact ⟨h, rfl⟩
  | cons s subs ih =>
    have submitted := h.submit
    exact submitted.trans (ih submitted.resounds)

/-- Nothing has been moved yet, and the peer is to send back all that it receives. -/
def fresh : Outlook where
  staged := []
  undelivered := []
  owesWake := false
  queues := {}
  peer := { echoes := true }

theorem unsent_fresh (subs : List Submission) :
    (fresh.awaiting subs).unsent = (Submission.chunks subs).flatten := by
  rw [← Submission.buffer_outputs, ← Submission.rest_requests]
  rfl

theorem coming_fresh (subs : List Submission) :
    (fresh.awaiting subs).coming = (Submission.chunks subs).flatten := unsent_fresh subs

theorem resounds_fresh
    (enough : (Submission.buffers subs).flatten.length ≤
      (Submission.chunks subs).flatten.length) : (fresh.awaiting subs).Resounds where
  inputs r hr := by
    have mem : r ∈ Submission.requests .input subs := hr
    exact (Submission.waits_of_mem mem).1
  outputs r hr := by
    have mem : r ∈ Submission.requests .output subs := hr
    exact (Submission.waits_of_mem mem).1
  staged_le := Nat.zero_le _
  demand_le := by
    rw [coming_fresh]
    exact Nat.le_trans (Nat.le_of_eq (Submission.demand_inputs subs)) enough
  echoes := rfl

theorem echo_fresh (subs : List Submission) :
    let written := (Submission.chunks subs).flatten
    let inputs := Submission.requests .input subs
    (fresh.awaiting subs).echo =
      ⟨written, (Request.fill inputs written).map (Outcome.ok, ·),
        (Submission.requests .output subs).map fun r => (.ok, r.spent),
        written.drop (Request.demand inputs)⟩ := by
  unfold echo
  rw [coming_fresh, unsent_fresh]
  rfl

end Outlook

namespace Deployment

variable {π : Type}

/-- Submits a request. One that is the first of its unit is serviced at once, and waits only if that
does not complete it. -/
def submit (c : Channel π) (s : Submission) (w : Deployment Queues π Peer) :
    Deployment Queues π Peer :=
  if w.queues.waiting.get s.unit = [] then
    let ((v, served), w) := (host .fifo c).invoke (.service s.request) w
    let queues := w.queues.enqueue s.unit (served.getD s.request)
    match v with
    | .progress (.ready o) => { w with queues := queues.complete s.unit o }
    | _ => { w with queues }
  else { w with queues := w.queues.enqueue s.unit s.request }

def submitAll (c : Channel π) (subs : List Submission) (w : Deployment Queues π Peer) :
    Deployment Queues π Peer := subs.foldl (fun w s => w.submit c s) w

theorem Working.requeue {w : Deployment Queues (List Issue) Peer} (h : w.Working)
    (queues : Queues) : Working { w with queues } :=
  ⟨⟨h.sound, h.stopped, h.wired, h.accounts⟩, h.attached, h.works⟩

theorem Working.serving {w : Deployment Queues (List Issue) Peer} (h : w.Working) (r : Request)
    (queues : Queues) : (w.serving r queues).Working := by
  have kept := w.kept_serving r queues
  have sound := h.sound.served r
  rw [h.stopped] at sound
  refine ⟨⟨sound, rfl, ?_, h.accounts⟩, ?_, ?_⟩
  · have wired := h.wired
    rw [← w.session.link.service_operation r] at wired
    exact wired
  · rw [kept.attached]
    exact h.attached
  · exact (congrArg Outcome.failure? kept.result).trans h.works

variable {w : Deployment Queues Mailbox Peer}

/-- A request that is serviced at once has just the turn that it would have in a wake pass. -/
theorem Running.submit (h : w.Running) (s : Submission) :
    (w.submit .mailbox s).Running ∧ (w.submit .mailbox s).outlook = w.outlook.submit s := by
  by_cases first : w.queues.waiting.get s.unit = []
  · let l := w.session.link
    have free : l.locks.link = false :=
      h.sound.free (h.toWorking.idle (Mailbox.contents_eq_nil.mpr h.quiet))
    obtain ⟨-, progress, request⟩ := Link.service_works free h.works s.request
    have moved : (w.outlook.move s.request).2 = (l.buffers.exchange s.request).2.1 :=
      congrArg Prod.snd (Buffers.move_eq_exchange h.sound.inBounds s.request rfl rfl)
    have called : (host .fifo .mailbox).invoke (.service s.request) w =
        ((.progress (l.service s.request).progress, some (l.service s.request).request),
          { w with session := ⟨(l.service s.request).link, []⟩ }) :=
      invoke_returned .fifo .mailbox h.stopped rfl
    have left (queues : Queues) :
        Running { w with session := ⟨(l.service s.request).link, []⟩, queues } ∧
          outlook { w with session := ⟨(l.service s.request).link, []⟩, queues } =
            { (w.outlook.move s.request).1 with queues } :=
      ⟨⟨h.toWorking.serving s.request queues, h.quiet, Link.Paced.service h.paced s.request⟩,
        outlook_serving (w := w.seen) free h.works h.sound.inBounds s.request queues⟩
    rw [Outlook.submit_first (v := w.outlook) first]
    unfold Deployment.submit
    simp only [first, if_true, called, moved, Option.getD_some]
    by_cases all : (l.buffers.exchange s.request).2.1.processed =
        (l.buffers.exchange s.request).2.1.requested
    · simp only [all, if_true] at progress request ⊢
      simp only [progress, request]
      exact left _
    · simp only [all, if_false] at progress request ⊢
      simp only [progress, request]
      exact left _
  · unfold Deployment.submit Outlook.submit
    rw [if_neg first, if_neg (c := w.outlook.queues.waiting.get s.unit = []) first]
    exact ⟨⟨h.toWorking.requeue _, h.quiet, h.paced⟩, rfl⟩

theorem Running.submitAll (h : w.Running) (subs : List Submission) :
    (w.submitAll .mailbox subs).Running ∧
      (w.submitAll .mailbox subs).outlook = w.outlook.submitAll subs := by
  induction subs generalizing w with
  | nil => exact ⟨h, rfl⟩
  | cons s subs ih =>
    obtain ⟨running, outlook⟩ := h.submit s
    have later := ih running
    rw [outlook] at later
    exact later

end Deployment

end PolledLink
