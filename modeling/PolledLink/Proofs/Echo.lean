import PolledLink.Proofs.Prospect

/-! A peer that sends back all that it receives. Whatever is to be written is then on its way to be
read, and it can be told from the outset what the requests will come to. Every round moves the bytes
on, until no request is left. -/

namespace PolledLink.Outlook

/-- All that the peer has yet to receive. -/
def unsent (v : Outlook) : Bytes := v.staged ++ v.queues.waiting.output.flatMap Request.rest

/-- All that is on its way to the read requests, what comes first at the front. -/
def coming (v : Outlook) : Bytes := v.undelivered ++ (v.peer.outbox ++ v.unsent)

/-- The prospect of a link whose peer sends everything back. -/
def echo (v : Outlook) : Prospect where
  received := v.peer.received ++ v.unsent
  inputs :=
    v.queues.completed.input ++ (Request.fill v.queues.waiting.input v.coming).map (Outcome.ok, ·)
  outputs := v.queues.completed.output ++ v.queues.waiting.output.map fun r => (.ok, r.spent)
  surplus := v.coming.drop (Request.demand v.queues.waiting.input)

/-- Every request in waiting can be completed, by a peer that sends everything back. -/
structure Resounds (v : Outlook) : Prop where
  inputs : ∀ r ∈ v.queues.waiting.input, r.Waits .read
  outputs : ∀ r ∈ v.queues.waiting.output, r.Waits .write
  staged_le : v.staged.length ≤ payloadCapacity
  demand_le : Request.demand v.queues.waiting.input ≤ v.coming.length
  echoes : v.peer.echoes = true

/-- What is kept to while the bytes move on. -/
structure Relays (v v' : Outlook) : Prop where
  resounds : v'.Resounds
  echo : v'.echo = v.echo

theorem Relays.trans {v v' v'' : Outlook} (first : v.Relays v') (second : v'.Relays v'') :
    v.Relays v'' := ⟨second.resounds, second.echo.trans first.echo⟩

variable {v : Outlook}

/-- Bytes that only change places are still coming in the same order. -/
theorem Resounds.relays {v' : Outlook} (h : v.Resounds) (waiting : v'.queues = v.queues)
    (echoes : v'.peer.echoes = v.peer.echoes) (staged_le : v'.staged.length ≤ v.staged.length)
    (received : v'.peer.received ++ v'.staged = v.peer.received ++ v.staged)
    (coming : v'.coming = v.coming) : v.Relays v' := by
  refine ⟨⟨?_, ?_, Nat.le_trans staged_le h.staged_le, ?_, echoes.trans h.echoes⟩, ?_⟩
  · rw [waiting]
    exact h.inputs
  · rw [waiting]
    exact h.outputs
  · rw [waiting, coming]
    exact h.demand_le
  · unfold echo unsent
    rw [waiting, coming, ← List.append_assoc, received, List.append_assoc]

theorem Resounds.flush (h : v.Resounds) : v.Relays v.flush := by
  have accepted : v.peer.accept v.staged =
      { v.peer with
        received := v.peer.received ++ v.staged, outbox := v.peer.outbox ++ v.staged } := by
    simp only [Peer.accept, h.echoes, if_true]
  unfold Outlook.flush
  rw [accepted]
  refine h.relays rfl rfl (Nat.zero_le _) (List.append_nil _) ?_
  simp only [coming, unsent, List.nil_append, List.append_assoc]

theorem Resounds.fetch (h : v.Resounds) (empty : v.undelivered = []) : v.Relays v.fetch := by
  refine h.relays rfl rfl (Nat.le_refl _) rfl ?_
  show v.peer.outbox.take payloadCapacity ++ (v.peer.outbox.drop payloadCapacity ++ _) = v.coming
  rw [← List.append_assoc, List.take_append_drop, coming, empty]
  rfl

theorem Resounds.woken (h : v.Resounds) : v.Relays { v with owesWake := false } :=
  h.relays rfl rfl (Nat.le_refl _) rfl rfl

theorem Resounds.offer_input (h : v.Resounds) : v.Relays (v.offer .input) := by
  have turn := inputTurn h.inputs
  generalize v.offer .input = v' at turn ⊢
  have demand := h.demand_le
  cases turn with
  | none => exact ⟨h, rfl⟩
  | part waiting waits later short =>
    rw [waiting, Request.demand_cons, coming, List.length_append] at demand
    have short := Nat.le_of_lt short
    refine ⟨⟨List.forall_mem_cons.mpr ⟨waits.gained short, later⟩, h.outputs, h.staged_le, ?_,
      h.echoes⟩, ?_⟩
    · rw [Request.demand_cons, Request.length_rest_gained]
      show _ ≤ (v.peer.outbox ++ v.unsent).length
      omega
    · simp only [echo, coming, unsent, waiting, List.nil_append, Request.fill_gained waits short,
        Request.drop_demand_gained short]
  | @all r rs waiting later enough =>
    rw [waiting, Request.demand_cons, coming, List.length_append] at demand
    refine ⟨⟨later, h.outputs, h.staged_le, ?_, h.echoes⟩, ?_⟩
    · rw [coming, List.length_append, List.length_drop]
      show Request.demand rs ≤
        v.undelivered.length - r.rest.length + (v.peer.outbox ++ v.unsent).length
      omega
    · simp only [echo, coming, unsent, waiting, List.append_assoc, List.singleton_append,
        Request.drop_demand_filled enough, ← Request.fill_filled enough, List.map_cons]

/-- Bytes that are staged for write requests are still to be sent. -/
theorem Resounds.stage (h : v.Resounds) {staged : Bytes} {rs : List Request}
    {done : List (Outcome × Request)} (waits : ∀ r ∈ rs, r.Waits .write)
    (staged_le : staged.length ≤ payloadCapacity)
    (unsent : staged ++ rs.flatMap Request.rest = v.unsent)
    (outputs : done ++ rs.map (fun r => (Outcome.ok, r.spent)) = v.echo.outputs) :
    v.Relays
      { v with
        staged
        queues :=
          { waiting := { v.queues.waiting with output := rs }
            completed := { v.queues.completed with output := done } } } := by
  generalize hv : ({ v with staged, queues := _ } : Outlook) = v'
  have same : v'.unsent = v.unsent := by
    rw [← hv]
    exact unsent
  have coming : v'.coming = v.coming := by
    rw [Outlook.coming, same, ← hv]
    rfl
  refine ⟨⟨?_, ?_, ?_, ?_, ?_⟩, ?_⟩
  · exact hv ▸ h.inputs
  · exact hv ▸ waits
  · exact hv ▸ staged_le
  · rw [coming, ← hv]
    exact h.demand_le
  · exact hv ▸ h.echoes
  · rw [echo, same, coming, ← hv, outputs]
    rfl

theorem Resounds.offer_output (h : v.Resounds) : v.Relays (v.offer .output) := by
  have turn := outputTurn h.outputs
  generalize v.offer .output = v' at turn ⊢
  have bound := h.staged_le
  have unsent {r : Request} {rs : List Request} (waiting : v.queues.waiting.output = r :: rs) :
      v.unsent = v.staged ++ (r.rest ++ rs.flatMap Request.rest) := by
    rw [Outlook.unsent, waiting, List.flatMap_cons]
  have outputs {r : Request} {rs : List Request} (waiting : v.queues.waiting.output = r :: rs) :
      v.echo.outputs =
        v.queues.completed.output ++ (.ok, r.spent) :: rs.map fun r => (.ok, r.spent) := by
    rw [echo, waiting, List.map_cons]
  cases turn with
  | none => exact ⟨h, rfl⟩
  | @part r rs waiting waits later full =>
    have fits := Nat.le_of_lt full
    apply h.stage (List.forall_mem_cons.mpr ⟨waits.drained fits, later⟩)
    · rw [List.length_append, List.length_take_of_le fits]
      omega
    · rw [unsent waiting, List.flatMap_cons, Request.rest_drained, List.append_assoc,
        ← List.append_assoc (r.rest.take _), List.take_append_drop]
    · exact (outputs waiting).symm
  | all waiting later room =>
    apply h.stage later
    · rw [List.length_append]
      omega
    · rw [unsent waiting, List.append_assoc]
    · rw [outputs waiting, List.append_assoc, List.singleton_append]

/-- Whatever the task does, it is in the same order that the bytes move on. -/
theorem Resounds.next (h : v.Resounds) : v.Relays v.next := by
  have run := v.taskRun
  generalize v.next = v' at run ⊢
  cases run with
  | chained _ _ empty => exact h.flush.trans (h.flush.resounds.fetch empty)
  | flushed => exact h.flush
  | polled _ _ empty => exact h.fetch empty
  | woken =>
    have input := h.woken.resounds.offer_input
    exact h.woken.trans (input.trans input.resounds.offer_output)

/-- How far there is to go, for the requests and for each of the bytes. -/
def travel (v : Outlook) : Nat :=
  4 * (v.queues.waiting.input.length + v.queues.waiting.output.length) +
    4 * Request.demand v.queues.waiting.input + 12 * Request.demand v.queues.waiting.output +
    8 * v.staged.length + 4 * v.peer.outbox.length

/-- How many rounds it may take before anything moves. -/
def pause (v : Outlook) : Nat :=
  if v.owesWake then 1
  else if v.staged = [] ∧ v.undelivered = [] ∧ v.peer.outbox = [] then 2 else 0

def toGo (v : Outlook) : Nat := v.travel + v.pause

/-- No request is left. -/
def Served (v : Outlook) : Prop :=
  v.queues.waiting.input = [] ∧ v.queues.waiting.output = []

theorem pause_le (calm : v.owesWake = false) : v.pause ≤ 2 := by
  simp only [pause, calm, Bool.false_eq_true, if_false]
  split <;> decide

theorem InputTurn.travels {v' : Outlook} (turn : v.InputTurn v') :
    v'.queues.waiting.output = v.queues.waiting.output ∧ v'.staged = v.staged ∧ v'.peer = v.peer ∧
      v'.owesWake = v.owesWake ∧
      (v'.travel + 4 ≤ v.travel ∨
        v'.travel = v.travel ∧ v'.undelivered = v.undelivered ∧
          (v.queues.waiting.input = [] ∨
            v.undelivered = [] ∧ 0 < Request.demand v.queues.waiting.input)) := by
  cases turn with
  | none waiting => exact ⟨rfl, rfl, rfl, rfl, .inr ⟨rfl, rfl, .inl waiting⟩⟩
  | @part r rs waiting waits later short =>
    refine ⟨rfl, rfl, rfl, rfl, ?_⟩
    have less : Request.demand (r.gained v.undelivered :: rs) + v.undelivered.length =
        Request.demand (r :: rs) := by
      rw [Request.demand_cons, Request.demand_cons, Request.length_rest_gained]
      omega
    simp only [travel, waiting, List.length_cons]
    by_cases none : v.undelivered = []
    · rw [none, List.length_nil, Nat.add_zero] at less
      rw [none, less, Request.demand_cons]
      exact .inr ⟨rfl, rfl, .inr ⟨rfl, by omega⟩⟩
    · have some := List.length_pos_iff.mpr none
      exact .inl (by omega)
  | all waiting later enough =>
    refine ⟨rfl, rfl, rfl, rfl, .inl ?_⟩
    simp only [travel, waiting, List.length_cons, Request.demand_cons]
    omega

theorem OutputTurn.travels {v' : Outlook} (turn : v.OutputTurn v') :
    v'.queues.waiting.input = v.queues.waiting.input ∧ v'.undelivered = v.undelivered ∧
      v'.peer = v.peer ∧ v'.owesWake = v.owesWake ∧
      (v'.travel + 4 ≤ v.travel ∨
        v'.travel = v.travel ∧ v'.staged = v.staged ∧
          (v.queues.waiting.output = [] ∨ v.staged ≠ [])) := by
  cases turn with
  | none waiting => exact ⟨rfl, rfl, rfl, rfl, .inr ⟨rfl, rfl, .inl waiting⟩⟩
  | @part r rs waiting waits later full =>
    refine ⟨rfl, rfl, rfl, rfl, ?_⟩
    have less : Request.demand (r.drained (payloadCapacity - v.staged.length) :: rs) +
        (payloadCapacity - v.staged.length) = Request.demand (r :: rs) := by
      rw [Request.demand_cons, Request.demand_cons, Request.rest_drained, List.length_drop]
      omega
    have moved : (r.rest.take (payloadCapacity - v.staged.length)).length =
        payloadCapacity - v.staged.length := List.length_take_of_le (Nat.le_of_lt full)
    simp only [travel, waiting, List.length_cons, List.length_append, moved]
    rcases Nat.eq_zero_or_pos (payloadCapacity - v.staged.length) with none | some
    · -- there is no room, so that a whole frame is staged
      have staged : v.staged ≠ [] := by
        intro nothing
        rw [nothing] at none
        nomatch none
      rw [none, Nat.add_zero] at less
      rw [none, less, List.take_zero, List.append_nil]
      exact .inr ⟨rfl, rfl, .inr staged⟩
    · exact .inl (by omega)
  | all waiting later room =>
    refine ⟨rfl, rfl, rfl, rfl, .inl ?_⟩
    simp only [travel, waiting, List.length_cons, Request.demand_cons, List.length_append]
    omega

/-- A wake pass brings something nearer, or sees to it that the next round does. -/
theorem Resounds.toGo_wake (h : v.Resounds) (busy : ¬ v.Served)
    (due : v.owesWake = false → v.staged = [] ∧ v.undelivered ≠ []) :
    (({ v with owesWake := false }.offer .input).offer .output).toGo < v.toGo := by
  have woken := h.woken.resounds
  have first := (inputTurn woken.inputs).travels
  have second := (outputTurn woken.offer_input.resounds.outputs).travels
  generalize ({ v with owesWake := false } : Outlook).offer .input = v₁ at first second ⊢
  generalize v₁.offer .output = v₂ at second ⊢
  obtain ⟨outputs, staged, peer, calm, first⟩ := first
  obtain ⟨-, undelivered, peer₂, calm₂, second⟩ := second
  dsimp only at outputs staged peer calm first
  have soon := pause_le (calm₂.trans calm)
  have same : ({ v with owesWake := false } : Outlook).travel = v.travel := rfl
  rw [same] at first
  rw [outputs, staged] at second
  unfold toGo
  rcases first with less | ⟨still, undelivered₁, reads⟩
  · rcases second with less₂ | ⟨still₂, -, -⟩ <;> omega
  · rcases second with less₂ | ⟨still₂, staged₂, writes⟩
    · omega
    · -- nothing has moved, so that there is something elsewhere that can
      have stuck : ¬ (v.owesWake = false) := by
        intro asleep
        obtain ⟨none, some⟩ := due asleep
        rcases reads with noInputs | ⟨used, -⟩
        · rcases writes with noOutputs | full
          · exact busy ⟨noInputs, noOutputs⟩
          · exact full none
        · exact some used
      have pause : v.pause = 1 := if_pos (Bool.of_not_eq_false stuck)
      have moves : ¬ (v₂.staged = [] ∧ v₂.undelivered = [] ∧ v₂.peer.outbox = []) := by
        rw [staged₂, undelivered, undelivered₁, peer₂, peer]
        rintro ⟨noStaged, noUndelivered, noOutbox⟩
        rcases writes with noOutputs | full
        · rcases reads with noInputs | ⟨-, asked⟩
          · exact busy ⟨noInputs, noOutputs⟩
          · have demand := h.demand_le
            rw [coming, unsent, noStaged, noUndelivered, noOutbox, noOutputs] at demand
            exact absurd asked (Nat.not_lt_of_le demand)
        · exact full noStaged
      have pause₂ : v₂.pause = 0 := by
        simp only [Outlook.pause, calm₂.trans calm, Bool.false_eq_true, if_false, if_neg moves]
      omega

theorem Resounds.travel_flush (h : v.Resounds) (staged : v.staged ≠ []) :
    v.flush.travel + 4 ≤ v.travel := by
  have some := List.length_pos_iff.mpr staged
  simp only [travel, Outlook.flush, Peer.accept, h.echoes, if_true, List.length_append,
    List.length_nil]
  omega

theorem travel_fetch (v : Outlook) :
    v.fetch.travel ≤ v.travel ∧ (v.peer.outbox ≠ [] → v.fetch.travel + 4 ≤ v.travel) := by
  have left : (v.peer.outbox.drop payloadCapacity).length =
      v.peer.outbox.length - payloadCapacity := List.length_drop
  simp only [travel, fetch, left]
  refine ⟨by omega, fun outbox => ?_⟩
  have some := List.length_pos_iff.mpr outbox
  simp only [payloadCapacity]
  omega

theorem toGo_fetch (calm : v.owesWake = false) (staged : v.staged = [])
    (undelivered : v.undelivered = []) : v.fetch.toGo < v.toGo := by
  obtain ⟨stays, less⟩ := v.travel_fetch
  have pause : v.fetch.pause = 1 := rfl
  rw [toGo, toGo, pause]
  by_cases outbox : v.peer.outbox = []
  · have pause : v.pause = 2 := by
      simp only [Outlook.pause, calm, Bool.false_eq_true, if_false, staged, undelivered, outbox,
        and_self, if_true]
    omega
  · have less := less outbox
    omega

/-- Until no request is left, there is less to go after every round. -/
theorem Resounds.toGo_next (h : v.Resounds) (busy : ¬ v.Served) : v.next.toGo < v.toGo := by
  have run := v.taskRun
  generalize v.next = v' at run ⊢
  cases run with
  | chained _ staged =>
    have flushed := h.travel_flush staged
    have fetched := v.flush.travel_fetch.1
    have pause : v.flush.fetch.pause = 1 := rfl
    rw [toGo, toGo, pause]
    omega
  | flushed calm staged =>
    have flushed := h.travel_flush staged
    have soon : v.flush.pause ≤ 2 := pause_le (v := v.flush) calm
    rw [toGo, toGo]
    omega
  | polled calm sent empty => exact toGo_fetch calm sent empty
  | woken due => exact h.toGo_wake busy due

/-- Once no request is left, none comes back. -/
theorem Served.next (h : v.Served) : v.next.Served := by
  have run := v.taskRun
  generalize v.next = v' at run ⊢
  cases run with
  | chained => exact h
  | flushed => exact h
  | polled => exact h
  | woken =>
    let woken : Outlook := { v with owesWake := false }
    rw [offer_nil (v := woken) .input h.1, offer_nil (v := woken) .output h.2]
    exact h

theorem Served.echo_eq (h : v.Served) :
    v.echo =
      ⟨v.peer.received ++ v.staged, v.queues.completed.input, v.queues.completed.output,
        v.undelivered ++ (v.peer.outbox ++ v.staged)⟩ := by
  simp only [echo, coming, unsent, h.1, h.2, Request.fill, List.map_nil, List.append_nil,
    List.flatMap_nil]
  rfl

end PolledLink.Outlook
