import PolledLink.Proofs.Prospect
import PolledLink.Proofs.Rounds

/-! A peer that answers everything drains the queues. Every round brings this nearer, whatever
mixture of requests is in waiting, and in whatever state the buffers are to start with. -/

namespace PolledLink

def frames (n : Nat) : Nat := (n + (payloadCapacity - 1)) / payloadCapacity

theorem frames_mono {m n : Nat} (h : m ≤ n) : frames m ≤ frames n :=
  Nat.div_le_div_right (Nat.add_le_add_right h _)

theorem frames_sub {n : Nat} (h : 0 < n) : frames (n - payloadCapacity) + 1 = frames n := by
  simp only [frames, payloadCapacity]
  omega

namespace Outlook

variable {v : Outlook}

/-- Requests to complete, and frames to send and to receive. -/
def load (v : Outlook) : Nat :=
  v.queues.waiting.input.length + v.queues.waiting.output.length +
    frames (Request.demand v.queues.waiting.output) + frames v.peer.outbox.length

/-- How many more rounds it may take before the load gets less. -/
def delay (v : Outlook) : Nat :=
  -- with a frame staged the wake that is owed may find no room, and a flush has to follow it
  if v.owesWake then if v.staged = [] then 1 else 3
  else if v.undelivered = [] then if v.peer.outbox = [] then 2 else 0
  else if v.staged = [] then 1 else 2

def effort (v : Outlook) : Nat := 2 * v.load + v.delay

structure Drained (v : Outlook) : Prop where
  inputs : v.queues.waiting.input = []
  outputs : v.queues.waiting.output = []
  staged : v.staged = []

theorem Orderly.progress_input {v' : Outlook} (h : v.Orderly) (turn : v.InputTurn v') :
    v'.queues.waiting.output = v.queues.waiting.output ∧ v'.staged = v.staged ∧ v'.peer = v.peer ∧
      v'.owesWake = v.owesWake ∧
      (v.queues.waiting.input = [] ∧ v'.queues.waiting.input = [] ∨
        v'.queues.waiting.input.length + 1 = v.queues.waiting.input.length ∨
        v'.queues.waiting.input.length = v.queues.waiting.input.length ∧
          v'.undelivered = [] ∧ v.peer.outbox ≠ []) := by
  cases turn with
  | none waiting => exact ⟨rfl, rfl, rfl, rfl, .inl ⟨waiting, waiting⟩⟩
  | part waiting waits later short =>
    have demand := h.demand_le
    rw [waiting, Request.demand_cons, incoming, List.length_append] at demand
    have more : v.peer.outbox ≠ [] := List.ne_nil_of_length_pos (by omega)
    rw [waiting]
    exact ⟨rfl, rfl, rfl, rfl, .inr (.inr ⟨rfl, rfl, more⟩)⟩
  | all waiting later enough =>
    rw [waiting]
    exact ⟨rfl, rfl, rfl, rfl, .inr (.inl rfl)⟩

theorem OutputTurn.progresses {v' : Outlook} (turn : v.OutputTurn v') :
    v'.queues.waiting.input = v.queues.waiting.input ∧ v'.undelivered = v.undelivered ∧
      v'.peer = v.peer ∧ v'.owesWake = v.owesWake ∧
      (v.queues.waiting.output = [] ∧ v' = v ∨
        v'.queues.waiting.output.length + 1 = v.queues.waiting.output.length ∧
          Request.demand v'.queues.waiting.output ≤ Request.demand v.queues.waiting.output ∨
        v'.queues.waiting.output.length = v.queues.waiting.output.length ∧
          Request.demand v'.queues.waiting.output + (payloadCapacity - v.staged.length) =
            Request.demand v.queues.waiting.output) := by
  cases turn with
  | none waiting => exact ⟨rfl, rfl, rfl, rfl, .inl ⟨waiting, rfl⟩⟩
  | part waiting waits later full =>
    rw [waiting]
    refine ⟨rfl, rfl, rfl, rfl, .inr (.inr ⟨rfl, ?_⟩)⟩
    rw [Request.demand_cons, Request.demand_cons, Request.rest_drained, List.length_drop]
    omega
  | all waiting later room =>
    rw [waiting]
    refine ⟨rfl, rfl, rfl, rfl, .inr (.inl ⟨rfl, ?_⟩)⟩
    rw [Request.demand_cons]
    exact Nat.le_add_left _ _

/-- A wake pass with nothing staged makes the load less, if the requests can still move anything. -/
theorem Orderly.load_wake (h : v.Orderly) :
    let v' := ({ v with owesWake := false }.offer .input).offer .output
    v'.owesWake = false ∧ v'.load ≤ v.load ∧
      (v.staged = [] →
        v'.load < v.load ∨ (v'.undelivered = [] ∧ v'.peer.outbox ≠ []) ∨
          (v.queues.waiting.input = [] ∧ v.queues.waiting.output = [])) := by
  have woken := h.woken.orderly
  have first := woken.progress_input (inputTurn woken.inputs)
  have second := (outputTurn woken.offer_input.orderly.outputs).progresses
  generalize ({ v with owesWake := false } : Outlook).offer .input = v₁ at first second ⊢
  generalize v₁.offer .output = v₂ at second ⊢
  obtain ⟨outputs, staged, peer, owes, first⟩ := first
  obtain ⟨inputs, undelivered, peer₂, owes₂, second⟩ := second
  dsimp only at outputs staged peer owes first
  rw [outputs, staged] at second
  have fewerInputs : v₁.queues.waiting.input.length ≤ v.queues.waiting.input.length := by
    rcases first with ⟨-, none⟩ | done | ⟨same, -⟩
    · rw [none]
      exact Nat.zero_le _
    · omega
    · exact Nat.le_of_eq same
  have fewerOutputs : v₂.queues.waiting.output.length ≤ v.queues.waiting.output.length ∧
      Request.demand v₂.queues.waiting.output ≤ Request.demand v.queues.waiting.output := by
    rcases second with ⟨-, rfl⟩ | ⟨done, less⟩ | ⟨same, less⟩
    · rw [outputs]
      exact ⟨Nat.le_refl _, Nat.le_refl _⟩
    · exact ⟨by omega, less⟩
    · exact ⟨Nat.le_of_eq same, by omega⟩
  have fewerFrames := frames_mono fewerOutputs.2
  simp only [load, peer₂, peer, inputs, undelivered]
  refine ⟨owes₂.trans owes, by omega, fun none => ?_⟩
  rcases first with ⟨noInputs, -⟩ | done | ⟨-, used, more⟩
  · rcases second with ⟨noOutputs, -⟩ | ⟨done, -⟩ | ⟨-, moved⟩
    · exact .inr (.inr ⟨noInputs, noOutputs⟩)
    · exact .inl (by omega)
    · -- a whole frame was staged
      rw [none, List.length_nil, Nat.sub_zero] at moved
      have frame := frames_sub (Nat.lt_of_lt_of_le (by decide : 0 < payloadCapacity)
        (Nat.le.intro ((Nat.add_comm _ _).trans moved)))
      rw [Nat.sub_eq_of_eq_add moved.symm] at frame
      exact .inl (by omega)
  · exact .inl (by omega)
  · exact .inr (.inl ⟨used, more⟩)

theorem delay_le (calm : v.owesWake = false) : v.delay ≤ 2 := by
  simp only [delay, calm, Bool.false_eq_true, if_false]
  split <;> split <;> decide

theorem Orderly.effort_flush (h : v.Orderly) (calm : v.owesWake = false) (staged : v.staged ≠ []) :
    if v.undelivered = [] then v.flush.effort = v.effort else v.flush.effort < v.effort := by
  have outbox : v.flush.peer.outbox = v.peer.outbox := by
    simp only [Outlook.flush, Peer.accept, h.silent, Bool.false_eq_true, if_false]
  have load : v.flush.load = v.load := by
    rw [Outlook.load, Outlook.load, outbox]
    rfl
  have none : v.flush.staged = [] := rfl
  have same : v.flush.undelivered = v.undelivered := rfl
  have still : v.flush.owesWake = false := calm
  simp only [effort, delay, load, outbox, none, same, still, calm, staged, Bool.false_eq_true,
    if_false, if_true]
  split
  · rfl
  · exact Nat.lt_succ_self _

theorem effort_fetch (calm : v.owesWake = false) (empty : v.undelivered = [])
    (staged : v.staged = []) : v.fetch.effort < v.effort := by
  have owes : v.fetch.owesWake = true := rfl
  have still : v.fetch.staged = [] := staged
  have load : v.fetch.load + frames v.peer.outbox.length =
      v.load + frames (v.peer.outbox.length - payloadCapacity) := by
    simp only [Outlook.load, fetch, List.length_drop]
    omega
  simp only [effort, delay, owes, still, calm, empty, Bool.false_eq_true, if_false, if_true]
  split
  · rename_i none
    rw [none, List.length_nil, Nat.zero_sub] at load
    omega
  · rename_i some
    have frame := frames_sub (List.length_pos_iff.mpr some)
    omega

theorem Orderly.effort_wake (h : v.Orderly) (busy : ¬ v.Drained)
    (due : v.owesWake = false → v.staged = [] ∧ v.undelivered ≠ []) :
    (({ v with owesWake := false }.offer .input).offer .output).effort < v.effort := by
  obtain ⟨calm, less, progress⟩ := h.load_wake
  generalize ({ v with owesWake := false }.offer .input).offer .output = v' at calm less progress ⊢
  have soon := delay_le calm
  by_cases none : v.staged = []
  · have delay : v.delay = 1 := by
      cases owes : v.owesWake with
      | true => simp only [Outlook.delay, owes, none, if_true]
      | false =>
        simp only [Outlook.delay, owes, none, (due owes).2, Bool.false_eq_true, if_false, if_true]
    -- a wake that filled no request has used up what was received, with more to be polled for
    rcases progress none with fewer | ⟨used, more⟩ | ⟨inputs, outputs⟩
    · rw [effort, effort, delay]
      omega
    · have now : v'.delay = 0 := by
        simp only [Outlook.delay, calm, used, more, Bool.false_eq_true, if_false, if_true]
      rw [effort, effort, delay, now]
      omega
    · exact absurd ⟨inputs, outputs, none⟩ busy
  · have owes : v.owesWake = true := Bool.of_not_eq_false fun calm => none (due calm).1
    have delay : v.delay = 3 := by
      simp only [Outlook.delay, owes, none, if_true, if_false]
    rw [effort, effort, delay]
    omega

/-- Until all is drained there is less to do after every round. -/
theorem Orderly.effort_next (h : v.Orderly) (busy : ¬ v.Drained) : v.next.effort < v.effort := by
  have run := v.taskRun
  generalize v.next = v' at run ⊢
  cases run with
  | chained calm staged empty =>
    -- the flush by itself gains nothing, and then the poll that is chained to it does
    have flushed := h.effort_flush calm staged
    rw [if_pos empty] at flushed
    rw [← flushed]
    exact effort_fetch (v := v.flush) calm empty rfl
  | flushed calm staged left =>
    have flushed := h.effort_flush calm staged
    rwa [if_neg left] at flushed
  | polled calm sent empty => exact effort_fetch calm empty sent
  | woken due => exact h.effort_wake busy due

theorem Drained.prospect_eq (h : v.Drained) :
    v.prospect =
      ⟨v.peer.received, v.queues.completed.input, v.queues.completed.output, v.incoming⟩ := by
  simp only [prospect, h.inputs, h.outputs, h.staged, Request.fill, List.map_nil, List.append_nil,
    List.flatMap_nil]
  rfl

theorem Drained.next (h : v.Drained) : v.next.Drained := by
  have run := v.taskRun
  generalize v.next = v' at run ⊢
  cases run with
  | chained _ staged => exact absurd h.staged staged
  | flushed _ staged => exact absurd h.staged staged
  | polled => exact ⟨h.inputs, h.outputs, h.staged⟩
  | woken =>
    let woken : Outlook := { v with owesWake := false }
    rw [offer_nil (v := woken) .input h.inputs, offer_nil (v := woken) .output h.outputs]
    exact ⟨h.inputs, h.outputs, h.staged⟩

def after : Nat → Outlook → Outlook
  | 0, v => v
  | n + 1, v => v.next.after n

theorem Orderly.after (h : v.Orderly) (n : Nat) : v.Steers (v.after n) := by
  induction n generalizing v with
  | zero => exact ⟨h, rfl⟩
  | succ n ih => exact h.next.trans (ih h.next.orderly)

theorem Drained.after (h : v.Drained) (n : Nat) : (v.after n).Drained := by
  induction n generalizing v with
  | zero => exact h
  | succ n ih => exact ih h.next

theorem Orderly.drained_after (h : v.Orderly) {n : Nat} (enough : v.effort ≤ n) :
    (v.after n).Drained := by
  induction n generalizing v with
  | zero =>
    refine Classical.byContradiction fun busy => ?_
    have less := h.effort_next busy
    omega
  | succ n ih =>
    by_cases drained : v.Drained
    · exact drained.after (n + 1)
    · have less := h.effort_next drained
      exact ih h.next.orderly (by omega)

theorem effort_le (v : Outlook) : v.effort ≤ 2 * v.load + 3 := by
  refine Nat.add_le_add_left ?_ _
  cases owes : v.owesWake with
  | false => exact Nat.le_succ_of_le (delay_le owes)
  | true =>
    simp only [delay, owes, if_true]
    split <;> decide

end Outlook

namespace Deployment

variable {σ τ : Type} {w : Deployment Queues (List Issue) Peer}

def rounds (q : Queueing σ) (f : FarEnd τ) (c : Call) :
    Nat → Deployment σ (List Issue) τ → Deployment σ (List Issue) τ
  | 0, w => w
  | n + 1, w => rounds q f c n (round q f c w).2

theorem Working.rounds (h : w.Working) (quiet : w.channel = []) (n : Nat) :
    let left := rounds .fifo Peer.farEnd .runTask n w
    left.Working ∧ left.channel = [] ∧ left.outlook = w.outlook.after n := by
  induction n generalizing w with
  | zero => exact ⟨h, quiet, rfl⟩
  | succ n ih =>
    obtain ⟨working, none, next⟩ := h.round quiet (c := .runTask) rfl rfl
    have later := ih working none
    rw [next] at later
    exact later

/-- A link that works, with no call and no operation outstanding, comes to an end with any requests
that are put in its queues, as long as the peer answers and has what the read requests ask for. The
number of rounds is bounded by the number of requests and of frames. Each request is then complete,
in its turn, and the bytes are neither more nor fewer nor in another order than they were. -/
theorem responsive_peer_drains (config : Config) (ms : List Session.Move)
    (inputs outputs : List Request) (received outbox : Bytes)
    (called : ((Session.ofConfig config).run ms).stopped = [])
    (attached : ((Session.ofConfig config).run ms).link.channel ≠ none)
    (idle : ((Session.ofConfig config).run ms).link.operation = .idle)
    (works : ((Session.ofConfig config).run ms).link.failure? = none)
    (reads : ∀ r ∈ inputs, r.Waits .read) (writes : ∀ r ∈ outputs, r.Waits .write)
    (demand : Request.demand inputs ≤
      ((Session.ofConfig config).run ms).link.buffers.readLeft + outbox.length) (n : Nat) :
    let session := (Session.ofConfig config).run ms
    let queues : Queues := { waiting := ⟨inputs, outputs⟩ }
    let left := rounds .fifo Peer.farEnd .runTask n
      { session, queues, channel := [], far := { received, outbox } }
    let load := inputs.length + outputs.length + frames (Request.demand outputs) +
      frames outbox.length
    let stream := session.link.buffers.undelivered ++ outbox
    left.session.link.inFlight = false ∧ left.channel = [] ∧
    (2 * load + 10 ≤ n →
      left.queues.waiting = ⟨[], []⟩ ∧ left.session.link.buffers.staged = [] ∧
      left.queues.completed.input = (Request.fill inputs stream).map (Outcome.ok, ·) ∧
      left.queues.completed.output = outputs.map (fun r => (.ok, r.spent)) ∧
      left.far.received =
        received ++ session.link.buffers.staged ++ outputs.flatMap Request.rest ∧
      (List.zipWith Request.movedSince (left.queues.completed.input.map Prod.snd) inputs).flatten =
        stream.take (Request.demand inputs) ∧
      left.session.link.buffers.undelivered ++ left.far.outbox =
        stream.drop (Request.demand inputs)) := by
  intro session queues left load stream
  have sound : session.Sound := (Session.steady_run config ms).toSound
  let start : Deployment Queues (List Issue) Peer :=
    { session, queues, channel := [], far := { received, outbox } }
  have working : start.Working := ⟨⟨sound, called, idle ▸ .idle, rfl⟩, attached, works⟩
  obtain ⟨ended, none, outlook⟩ := working.rounds rfl n
  have asked : Request.demand inputs ≤ stream.length := by
    rw [List.length_append, Buffers.length_undelivered sound.inBounds]
    exact demand
  have room : session.link.buffers.staged.length ≤ payloadCapacity := by
    rw [Buffers.length_staged sound.inBounds]
    exact sound.inBounds.writePos_le
  have orderly : start.outlook.Orderly := ⟨reads, writes, room, asked, rfl⟩
  have idle := ended.idle none
  have settled : left.session.link.inFlight = false := by
    rw [Link.inFlight, idle]
    rfl
  refine ⟨settled, none, fun enough => ?_⟩
  have effort := start.outlook.effort_le
  have drained := orderly.drained_after (n := n)
    (Nat.le_trans effort (Nat.le_trans (Nat.add_le_add_left (by decide) _) enough))
  have prospect := (orderly.after n).prospect
  rw [← outlook] at drained prospect
  rw [drained.prospect_eq] at prospect
  obtain ⟨received, filled, spent, surplus⟩ := Prospect.mk.inj prospect
  have filled : left.queues.completed.input =
      (Request.fill inputs stream).map (Outcome.ok, ·) := filled
  refine ⟨?_, drained.staged, filled, spent, received, ?_, surplus⟩
  · exact congr (congrArg PerUnit.mk drained.inputs) drained.outputs
  · have requests : left.queues.completed.input.map Prod.snd = Request.fill inputs stream := by
      rw [filled, List.map_map]
      exact List.map_id _
    rw [requests]
    exact Request.movedSince_fill reads asked

/-- Bytes staged and received beforehand take part, as do requests that are partly done. -/
theorem responsive_peer_drains_both_ways :
    let ms : List Session.Move :=
      [.call (.attach 0), .call (.openUnit .input), .call .runTask, .answer none,
        .call (.readComplete (.ok [0x46, 0x52, 0x50, 0x59, 1, 0, 0, 3, 1, 2, 3])),
        .call (.service { direction := .write, buffer := [9] })]
    let inputs : List Request := [{ direction := .read, buffer := [0, 0, 0, 0, 0], processed := 1 }]
    let outputs : List Request := [{ direction := .write, buffer := [6, 7, 8], processed := 1 }]
    let session := (Session.ofConfig {}).run ms
    let left := rounds .fifo Peer.farEnd .runTask 18
      { session, queues := { waiting := ⟨inputs, outputs⟩ }, channel := [],
        far := { outbox := [4, 5] } }
    session.stopped = [] ∧ session.link.channel ≠ none ∧ session.link.operation = .idle ∧
    session.link.failure? = none ∧ (∀ r ∈ inputs, r.Waits .read) ∧ (∀ r ∈ outputs, r.Waits .write) ∧
    Request.demand inputs ≤ session.link.buffers.readLeft + [4, 5].length ∧
    left.queues.waiting = ⟨[], []⟩ ∧
    left.queues.completed.input =
      [(.ok,
        { direction := .read, buffer := [0, 1, 2, 3, 4], processed := 5,
          progress := .ready .ok })] ∧
    left.far.received = [9, 7, 8] ∧
    left.session.link.buffers.undelivered ++ left.far.outbox = [5] := by
  intro ms inputs outputs
  have called : ((Session.ofConfig {}).run ms).stopped = [] := by decide +kernel
  have attached : ((Session.ofConfig {}).run ms).link.channel ≠ none := by decide +kernel
  have idle : ((Session.ofConfig {}).run ms).link.operation = .idle := by decide +kernel
  have works : ((Session.ofConfig {}).run ms).link.failure? = none := by decide +kernel
  have reads : ∀ r ∈ inputs, r.Waits .read := by decide
  have writes : ∀ r ∈ outputs, r.Waits .write := by decide
  have demand : Request.demand inputs ≤
      ((Session.ofConfig {}).run ms).link.buffers.readLeft + [4, 5].length := by decide +kernel
  have undelivered : ((Session.ofConfig {}).run ms).link.buffers.undelivered = [1, 2, 3] := by
    decide +kernel
  have staged : ((Session.ofConfig {}).run ms).link.buffers.staged = [9] := by decide +kernel
  obtain ⟨-, -, drains⟩ := responsive_peer_drains {} ms inputs outputs [] [4, 5] called attached
    idle works reads writes demand 18
  obtain ⟨waiting, -, filled, -, received, -, surplus⟩ := drains (by decide)
  rw [undelivered] at filled surplus
  rw [staged] at received
  exact ⟨called, attached, idle, works, reads, writes, demand, waiting, filled, received, surplus⟩

end Deployment

end PolledLink
