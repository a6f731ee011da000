import PolledLink.Proofs.Outlook

/-! What a link, its queues and its peer are going to come to, once all requests are complete. It
can be told from the outset, since no round changes the prospect. -/

namespace PolledLink

theorem Bytes.overlay_append {area first second : Bytes} {start : Nat}
    (h : start + (first.length + second.length) ≤ area.length) :
    (area.overlay start first).overlay (start + first.length) second =
      area.overlay start (first ++ second) := by
  have reach : (area.take start ++ first).length = start + first.length := by
    rw [List.length_append, List.length_take_of_le (by omega)]
  have earlier : (area.overlay start first).take (start + first.length) =
      area.take start ++ first := by
    rw [overlay_of_fits (by omega), ← reach, List.take_left]
  have later : (area.overlay start first).drop (start + first.length + second.length) =
      area.drop (start + (first.length + second.length)) := by
    rw [overlay_of_fits (by omega), ← List.drop_drop, List.drop_left' reach, List.drop_drop,
      Nat.add_assoc]
  rw [overlay_of_fits (by rw [length_overlay]; omega), earlier, later,
    overlay_of_fits (by rw [List.length_append]; exact h), List.length_append,
    List.append_assoc _ first]

namespace Request

variable {r : Request} {d : Direction}

structure Waits (r : Request) (d : Direction) : Prop where
  direction : r.direction = d
  pending : r.progress = .pending
  within : r.processed ≤ r.requested

instance (r : Request) (d : Direction) : Decidable (r.Waits d) :=
  decidable_of_iff (r.direction = d ∧ r.progress = .pending ∧ r.processed ≤ r.requested)
    ⟨fun ⟨direction, pending, within⟩ => ⟨direction, pending, within⟩,
      fun ⟨direction, pending, within⟩ => ⟨direction, pending, within⟩⟩

/-- With these bytes in the rest of its buffer, and complete. -/
def filled (r : Request) (bs : Bytes) : Request :=
  { r with
    buffer := r.buffer.overlay r.processed bs, processed := r.requested, progress := .ready .ok }

/-- With the rest of its buffer taken, and complete. -/
def spent (r : Request) : Request := { r with processed := r.requested, progress := .ready .ok }

/-- With these bytes behind those that were moved before, and more to come. -/
def gained (r : Request) (bs : Bytes) : Request :=
  { r with
    buffer := r.buffer.overlay r.processed bs, processed := r.processed + bs.length }

/-- With so many of its bytes taken, and more to follow. -/
def drained (r : Request) (count : Nat) : Request := { r with processed := r.processed + count }

theorem requested_gained (r : Request) (bs : Bytes) : (r.gained bs).requested = r.requested :=
  Bytes.length_overlay _ _ _

theorem Waits.gained {bs : Bytes} (h : r.Waits d) (fits : bs.length ≤ r.rest.length) :
    (r.gained bs).Waits d := by
  refine ⟨h.direction, h.pending, ?_⟩
  have within := h.within
  rw [requested_gained]
  rw [length_rest] at fits
  show r.processed + bs.length ≤ r.requested
  omega

theorem Waits.drained {count : Nat} (h : r.Waits d) (fits : count ≤ r.rest.length) :
    (r.drained count).Waits d := by
  refine ⟨h.direction, h.pending, ?_⟩
  have within := h.within
  rw [length_rest] at fits
  show r.processed + count ≤ r.requested
  omega

theorem length_rest_gained (r : Request) (bs : Bytes) :
    (r.gained bs).rest.length = r.rest.length - bs.length := by
  rw [length_rest, length_rest, requested_gained]
  exact Nat.sub_add_eq _ _ _

theorem rest_drained (r : Request) (count : Nat) : (r.drained count).rest = r.rest.drop count :=
  List.drop_drop.symm

theorem filled_gained {first second : Bytes} (fits : first.length + second.length ≤ r.rest.length)
    (h : r.Waits d) : (r.gained first).filled second = r.filled (first ++ second) := by
  have within := h.within
  have room : r.processed + (first.length + second.length) ≤ r.buffer.length := by
    rw [length_rest] at fits
    exact Nat.add_le_of_le_sub' within fits
  have requested := r.requested_gained first
  simp only [filled, requested]
  simp only [gained, Bytes.overlay_append room]

def demand : List Request → Nat
  | [] => 0
  | r :: rs => r.rest.length + demand rs

/-- The requests as they are filled from a stream of bytes, one after the other. -/
def fill : List Request → Bytes → List Request
  | [], _ => []
  | r :: rs, bs => r.filled (bs.take r.rest.length) :: fill rs (bs.drop r.rest.length)

theorem demand_cons (r : Request) (rs : List Request) :
    demand (r :: rs) = r.rest.length + demand rs := rfl

/-- The first of the bytes can be moved before the others are there. -/
theorem fill_gained {rs : List Request} {first : Bytes} (h : r.Waits d)
    (short : first.length ≤ r.rest.length) (later : Bytes) :
    fill (r.gained first :: rs) later = fill (r :: rs) (first ++ later) := by
  have cut : (first ++ later).take r.rest.length =
      first ++ later.take (r.rest.length - first.length) := by
    rw [List.take_append, List.take_of_length_le short]
  have left : (first ++ later).drop r.rest.length =
      later.drop (r.rest.length - first.length) := by
    rw [List.drop_append, List.drop_of_length_le short, List.nil_append]
  have fits :
      first.length + (later.take (r.rest.length - first.length)).length ≤ r.rest.length := by
    rw [List.length_take]
    omega
  rw [fill, fill, cut, left, length_rest_gained, filled_gained fits h]

theorem drop_demand_gained {rs : List Request} {first : Bytes}
    (short : first.length ≤ r.rest.length) (later : Bytes) :
    later.drop (demand (r.gained first :: rs)) = (first ++ later).drop (demand (r :: rs)) := by
  rw [demand_cons, demand_cons, length_rest_gained, ← List.drop_drop, ← List.drop_drop,
    List.drop_append, List.drop_of_length_le short, List.nil_append]

theorem drop_demand_filled {rs : List Request} {first : Bytes}
    (enough : r.rest.length ≤ first.length) (later : Bytes) :
    (first.drop r.rest.length ++ later).drop (demand rs) =
      (first ++ later).drop (demand (r :: rs)) := by
  rw [demand_cons, ← List.drop_drop, List.drop_append_of_le_length enough]

theorem fill_filled {rs : List Request} {first : Bytes} (enough : r.rest.length ≤ first.length)
    (later : Bytes) :
    r.filled (first.take r.rest.length) :: fill rs (first.drop r.rest.length ++ later) =
      fill (r :: rs) (first ++ later) := by
  rw [fill, List.take_append_of_le_length enough, List.drop_append_of_le_length enough]

/-- What is moved into requests that are filled is the stream itself. -/
theorem movedSince_fill {rs : List Request} {bs : Bytes} (waits : ∀ r ∈ rs, r.Waits d)
    (enough : demand rs ≤ bs.length) :
    (List.zipWith Request.movedSince (fill rs bs) rs).flatten = bs.take (demand rs) := by
  induction rs generalizing bs with
  | nil => rfl
  | cons r rs ih =>
    have within := (waits r List.mem_cons_self).within
    rw [demand_cons] at enough ⊢
    have whole : (bs.take r.rest.length).length = r.rest.length :=
      List.length_take_of_le (by omega)
    have reach : r.processed + (bs.take r.rest.length).length = r.buffer.length := by
      rw [whole, length_rest]
      exact Nat.add_sub_cancel' within
    have moved : (r.filled (bs.take r.rest.length)).movedSince r = bs.take r.rest.length := by
      have buffer : r.buffer.overlay r.processed (bs.take r.rest.length) =
          r.buffer.take r.processed ++ bs.take r.rest.length := by
        rw [Bytes.overlay_of_fits (Nat.le_of_eq reach), reach, List.drop_length, List.append_nil]
      have all : (r.buffer.take r.processed ++ bs.take r.rest.length).length = r.requested := by
        rw [← buffer]
        exact Bytes.length_overlay _ _ _
      simp only [Request.movedSince, filled, buffer]
      rw [List.take_of_length_le (Nat.le_of_eq all),
        List.drop_left' (List.length_take_of_le within)]
    have short : demand rs ≤ (bs.drop r.rest.length).length := by
      rw [List.length_drop]
      omega
    have later := ih (fun r hr => waits r (List.mem_cons_of_mem _ hr)) short
    rw [fill, List.zipWith_cons_cons, List.flatten_cons, moved, later, ← List.take_add]

end Request

/-- What it will have come to. -/
structure Prospect where
  /-- All that the peer receives. -/
  received : Bytes
  inputs : List (Outcome × Request)
  outputs : List (Outcome × Request)
  /-- What no request has asked for. -/
  surplus : Bytes

namespace Outlook

def incoming (v : Outlook) : Bytes := v.undelivered ++ v.peer.outbox

def prospect (v : Outlook) : Prospect where
  received := v.peer.received ++ v.staged ++ v.queues.waiting.output.flatMap Request.rest
  inputs :=
    v.queues.completed.input ++ (Request.fill v.queues.waiting.input v.incoming).map (Outcome.ok, ·)
  outputs := v.queues.completed.output ++ v.queues.waiting.output.map fun r => (.ok, r.spent)
  surplus := v.incoming.drop (Request.demand v.queues.waiting.input)

/-- Every request in waiting can be completed, by a peer that only answers. -/
structure Orderly (v : Outlook) : Prop where
  inputs : ∀ r ∈ v.queues.waiting.input, r.Waits .read
  outputs : ∀ r ∈ v.queues.waiting.output, r.Waits .write
  staged_le : v.staged.length ≤ payloadCapacity
  demand_le : Request.demand v.queues.waiting.input ≤ v.incoming.length
  silent : v.peer.echoes = false

section offer

variable {v : Outlook} {r : Request} {rs : List Request}

theorem move_read (v : Outlook) (hd : r.direction = .read) :
    v.move r =
      ({ v with undelivered := v.undelivered.drop r.rest.length },
        { r with
          buffer := r.buffer.overlay r.processed (v.undelivered.take r.rest.length)
          processed := r.processed + (v.undelivered.take r.rest.length).length }) := by
  unfold move
  split
  · rename_i write
    nomatch hd.symm.trans write
  · rfl

theorem move_write (v : Outlook) (hd : r.direction = .write) :
    v.move r =
      ({ v with staged := v.staged ++ r.rest.take (payloadCapacity - v.staged.length) },
        { r with
          processed :=
            r.processed + (r.rest.take (payloadCapacity - v.staged.length)).length }) := by
  unfold move
  split
  · rfl
  · rename_i read
    nomatch hd.symm.trans read

theorem offer_nil (unit : LinkUnit) (h : v.queues.waiting.get unit = []) : v.offer unit = v := by
  simp only [offer, h, List.head?_nil, Option.filter_none]

theorem offer_cons (unit : LinkUnit) {d : Direction} (h : v.queues.waiting.get unit = r :: rs)
    (waits : r.Waits d) :
    v.offer unit =
      let (after, moved) := v.move r
      { after with
        queues :=
          if moved.processed = moved.requested then
            { waiting := v.queues.waiting.set unit rs
              completed :=
                v.queues.completed.set unit
                  (v.queues.completed.get unit ++ [(.ok, { moved with progress := .ready .ok })]) }
          else
            { v.queues with
              waiting :=
                v.queues.waiting.set unit ({ moved with progress := .pending } :: rs) } } := by
  have pending : r.isPending = true := decide_eq_true waits.pending
  simp only [offer, h, List.head?_cons, Option.filter_some, pending, if_true, Queues.putBack,
    Queues.complete, PerUnit.get_set_self]
  split
  · have last (p : PerUnit (List Request)) (x : List Request) : (p.set unit x).set unit rs =
        p.set unit rs := by cases unit <;> rfl
    simp only [last]
  · rfl

theorem offer_read_all (h : v.queues.waiting.input = r :: rs) (waits : r.Waits .read)
    (enough : r.rest.length ≤ v.undelivered.length) :
    v.offer .input =
      { v with
        undelivered := v.undelivered.drop r.rest.length
        queues :=
          { waiting := { v.queues.waiting with input := rs }
            completed :=
              { v.queues.completed with
                input := v.queues.completed.input ++
                  [(.ok, r.filled (v.undelivered.take r.rest.length))] } } } := by
  have all : r.processed + (v.undelivered.take r.rest.length).length = r.requested := by
    rw [List.length_take_of_le enough, r.length_rest]
    exact Nat.add_sub_cancel' waits.within
  have same (bs : Bytes) : (r.buffer.overlay r.processed bs).length = r.requested :=
    Bytes.length_overlay _ _ _
  rw [offer_cons .input h waits, v.move_read waits.direction]
  simp only [all, Request.requested, same, if_true]
  rfl

theorem offer_read_part (h : v.queues.waiting.input = r :: rs) (waits : r.Waits .read)
    (short : v.undelivered.length < r.rest.length) :
    v.offer .input =
      { v with
        undelivered := []
        queues :=
          { v.queues with
            waiting :=
              { v.queues.waiting with input := r.gained v.undelivered :: rs } } } := by
  have same : (r.buffer.overlay r.processed v.undelivered).length = r.requested :=
    Bytes.length_overlay _ _ _
  have part : r.processed + v.undelivered.length ≠ r.requested := by
    rw [r.length_rest] at short
    omega
  rw [offer_cons .input h waits, v.move_read waits.direction,
    List.take_of_length_le (Nat.le_of_lt short), List.drop_of_length_le (Nat.le_of_lt short)]
  simp only [Request.requested, same] at part ⊢
  simp only [part, if_false, Request.gained, waits.pending]
  rfl

theorem offer_write_all (h : v.queues.waiting.output = r :: rs) (waits : r.Waits .write)
    (room : r.rest.length ≤ payloadCapacity - v.staged.length) :
    v.offer .output =
      { v with
        staged := v.staged ++ r.rest
        queues :=
          { waiting := { v.queues.waiting with output := rs }
            completed :=
              { v.queues.completed with
                output := v.queues.completed.output ++ [(.ok, r.spent)] } } } := by
  have all : r.processed + r.rest.length = r.requested := by
    rw [r.length_rest]
    exact Nat.add_sub_cancel' waits.within
  rw [offer_cons .output h waits, v.move_write waits.direction,
    List.take_of_length_le room]
  simp only [all, Request.requested, if_true]
  rfl

theorem offer_write_part (h : v.queues.waiting.output = r :: rs) (waits : r.Waits .write)
    (full : payloadCapacity - v.staged.length < r.rest.length) :
    v.offer .output =
      { v with
        staged := v.staged ++ r.rest.take (payloadCapacity - v.staged.length)
        queues :=
          { v.queues with
            waiting :=
              { v.queues.waiting with
                output := r.drained (payloadCapacity - v.staged.length) :: rs } } } := by
  have part : r.processed + (payloadCapacity - v.staged.length) ≠ r.requested := by
    rw [r.length_rest] at full
    omega
  rw [offer_cons .output h waits, v.move_write waits.direction,
    List.length_take_of_le (Nat.le_of_lt full)]
  simp only [Request.requested] at part ⊢
  simp only [part, if_false, Request.drained, waits.pending]
  rfl

/-- The turn of the oldest read. -/
inductive InputTurn (v : Outlook) : Outlook → Prop
  | none (waiting : v.queues.waiting.input = []) : InputTurn v v
  | part {r : Request} {rs : List Request} (waiting : v.queues.waiting.input = r :: rs)
    (waits : r.Waits .read) (later : ∀ r ∈ rs, r.Waits .read)
    (short : v.undelivered.length < r.rest.length) :
    InputTurn v
      { v with
        undelivered := []
        queues :=
          { v.queues with
            waiting := { v.queues.waiting with input := r.gained v.undelivered :: rs } } }
  | all {r : Request} {rs : List Request} (waiting : v.queues.waiting.input = r :: rs)
    (later : ∀ r ∈ rs, r.Waits .read) (enough : r.rest.length ≤ v.undelivered.length) :
    InputTurn v
      { v with
        undelivered := v.undelivered.drop r.rest.length
        queues :=
          { waiting := { v.queues.waiting with input := rs }
            completed :=
              { v.queues.completed with
                input := v.queues.completed.input ++
                  [(.ok, r.filled (v.undelivered.take r.rest.length))] } } }

theorem inputTurn (h : ∀ r ∈ v.queues.waiting.input, r.Waits .read) :
    v.InputTurn (v.offer .input) := by
  cases waiting : v.queues.waiting.input with
  | nil =>
    rw [offer_nil .input waiting]
    exact .none waiting
  | cons r rs =>
    rw [waiting] at h
    obtain ⟨waits, later⟩ := List.forall_mem_cons.mp h
    rcases Nat.lt_or_ge v.undelivered.length r.rest.length with short | enough
    · rw [offer_read_part waiting waits short]
      exact .part waiting waits later short
    · rw [offer_read_all waiting waits enough]
      exact .all waiting later enough

/-- The turn of the oldest write. -/
inductive OutputTurn (v : Outlook) : Outlook → Prop
  | none (waiting : v.queues.waiting.output = []) : OutputTurn v v
  | part {r : Request} {rs : List Request} (waiting : v.queues.waiting.output = r :: rs)
    (waits : r.Waits .write) (later : ∀ r ∈ rs, r.Waits .write)
    (full : payloadCapacity - v.staged.length < r.rest.length) :
    OutputTurn v
      { v with
        staged := v.staged ++ r.rest.take (payloadCapacity - v.staged.length)
        queues :=
          { v.queues with
            waiting :=
              { v.queues.waiting with
                output := r.drained (payloadCapacity - v.staged.length) :: rs } } }
  | all {r : Request} {rs : List Request} (waiting : v.queues.waiting.output = r :: rs)
    (later : ∀ r ∈ rs, r.Waits .write)
    (room : r.rest.length ≤ payloadCapacity - v.staged.length) :
    OutputTurn v
      { v with
        staged := v.staged ++ r.rest
        queues :=
          { waiting := { v.queues.waiting with output := rs }
            completed :=
              { v.queues.completed with
                output := v.queues.completed.output ++ [(.ok, r.spent)] } } }

theorem outputTurn (h : ∀ r ∈ v.queues.waiting.output, r.Waits .write) :
    v.OutputTurn (v.offer .output) := by
  cases waiting : v.queues.waiting.output with
  | nil =>
    rw [offer_nil .output waiting]
    exact .none waiting
  | cons r rs =>
    rw [waiting] at h
    obtain ⟨waits, later⟩ := List.forall_mem_cons.mp h
    rcases Nat.lt_or_ge (payloadCapacity - v.staged.length) r.rest.length with full | room
    · rw [offer_write_part waiting waits full]
      exact .part waiting waits later full
    · rw [offer_write_all waiting waits room]
      exact .all waiting later room

/-- What a run of the task comes to. -/
inductive TaskRun (v : Outlook) : Outlook → Prop
  | chained (calm : v.owesWake = false) (staged : v.staged ≠ []) (empty : v.undelivered = []) :
    TaskRun v v.flush.fetch
  | flushed (calm : v.owesWake = false) (staged : v.staged ≠ []) (left : v.undelivered ≠ []) :
    TaskRun v v.flush
  | polled (calm : v.owesWake = false) (sent : v.staged = []) (empty : v.undelivered = []) :
    TaskRun v v.fetch
  | woken (due : v.owesWake = false → v.staged = [] ∧ v.undelivered ≠ []) :
    TaskRun v (({ v with owesWake := false }.offer .input).offer .output)

theorem taskRun (v : Outlook) : v.TaskRun v.next := by
  unfold Outlook.next
  split
  · rename_i flushes
    split
    · rename_i empty
      exact .chained flushes.1 flushes.2 empty
    · rename_i left
      exact .flushed flushes.1 flushes.2 left
  · rename_i stays
    have sent (calm : v.owesWake = false) : v.staged = [] :=
      Decidable.not_not.mp fun staged => stays ⟨calm, staged⟩
    split
    · rename_i polls
      exact .polled polls.1 (sent polls.1) polls.2
    · rename_i wakes
      exact .woken fun calm => ⟨sent calm, fun empty => wakes ⟨calm, empty⟩⟩

/-- What is kept to in every round. -/
structure Steers (v v' : Outlook) : Prop where
  orderly : v'.Orderly
  prospect : v'.prospect = v.prospect

theorem Orderly.offer_input (h : v.Orderly) : v.Steers (v.offer .input) := by
  have turn := inputTurn h.inputs
  generalize v.offer .input = v' at turn ⊢
  have demand := h.demand_le
  cases turn with
  | none => exact ⟨h, rfl⟩
  | part waiting waits later short =>
    rw [waiting, Request.demand_cons, incoming, List.length_append] at demand
    have short := Nat.le_of_lt short
    -- the request stays where it is, and asks for less by what has left the buffer
    refine ⟨⟨List.forall_mem_cons.mpr ⟨waits.gained short, later⟩, h.outputs, h.staged_le, ?_,
      h.silent⟩, ?_⟩
    · rw [Request.demand_cons, Request.length_rest_gained]
      show _ ≤ v.peer.outbox.length
      omega
    · simp only [prospect, incoming, waiting, List.nil_append, Request.fill_gained waits short,
        Request.drop_demand_gained short]
  | @all r rs waiting later enough =>
    rw [waiting, Request.demand_cons, incoming, List.length_append] at demand
    refine ⟨⟨later, h.outputs, h.staged_le, ?_, h.silent⟩, ?_⟩
    · rw [incoming, List.length_append, List.length_drop]
      show Request.demand rs ≤ v.undelivered.length - r.rest.length + v.peer.outbox.length
      omega
    · simp only [prospect, incoming, waiting, List.append_assoc, List.singleton_append,
        Request.drop_demand_filled enough, ← Request.fill_filled enough, List.map_cons]

theorem Orderly.offer_output (h : v.Orderly) : v.Steers (v.offer .output) := by
  have turn := outputTurn h.outputs
  generalize v.offer .output = v' at turn ⊢
  have bound := h.staged_le
  cases turn with
  | none => exact ⟨h, rfl⟩
  | @part r rs waiting waits later full =>
    have fits := Nat.le_of_lt full
    refine ⟨⟨h.inputs, List.forall_mem_cons.mpr ⟨waits.drained fits, later⟩, ?_, h.demand_le,
      h.silent⟩, ?_⟩
    · rw [List.length_append, List.length_take_of_le fits]
      omega
    · have split (later : Bytes) : r.rest.take (payloadCapacity - v.staged.length) ++
          (r.rest.drop (payloadCapacity - v.staged.length) ++ later) = r.rest ++ later := by
        rw [← List.append_assoc, List.take_append_drop]
      simp only [prospect, incoming, waiting, List.append_assoc, List.flatMap_cons,
        Request.rest_drained, List.map_cons, split]
      rfl
  | all waiting later room =>
    refine ⟨⟨h.inputs, later, ?_, h.demand_le, h.silent⟩, ?_⟩
    · rw [List.length_append]
      omega
    · simp only [prospect, incoming, waiting, List.append_assoc, List.flatMap_cons, List.map_cons,
        List.singleton_append]

theorem Orderly.flush (h : v.Orderly) : v.Steers v.flush := by
  have silent : v.peer.accept v.staged =
      { v.peer with received := v.peer.received ++ v.staged } := by
    simp only [Peer.accept, h.silent, Bool.false_eq_true, if_false]
  unfold Outlook.flush
  rw [silent]
  refine ⟨⟨h.inputs, h.outputs, Nat.zero_le _, h.demand_le, h.silent⟩, ?_⟩
  simp only [prospect, incoming, List.append_nil]

theorem Orderly.fetch (h : v.Orderly) (empty : v.undelivered = []) : v.Steers v.fetch := by
  have same : v.fetch.incoming = v.incoming := by
    rw [incoming, incoming, empty]
    exact List.take_append_drop _ _
  refine ⟨⟨h.inputs, h.outputs, h.staged_le, ?_, h.silent⟩, ?_⟩
  · rw [same]
    exact h.demand_le
  · simp only [prospect, same]
    rfl

theorem Orderly.woken (h : v.Orderly) : v.Steers { v with owesWake := false } :=
  ⟨⟨h.inputs, h.outputs, h.staged_le, h.demand_le, h.silent⟩, rfl⟩

theorem Steers.trans {v' v'' : Outlook} (first : v.Steers v') (second : v'.Steers v'') :
    v.Steers v'' := ⟨second.orderly, second.prospect.trans first.prospect⟩

/-- Every round steers for what was in prospect. -/
theorem Orderly.next (h : v.Orderly) : v.Steers v.next := by
  have run := v.taskRun
  generalize v.next = v' at run ⊢
  cases run with
  | chained _ _ empty => exact h.flush.trans (h.flush.orderly.fetch empty)
  | flushed => exact h.flush
  | polled _ _ empty => exact h.fetch empty
  | woken =>
    have input := h.woken.orderly.offer_input
    exact h.woken.trans (input.trans input.orderly.offer_output)

end offer

end Outlook

end PolledLink
