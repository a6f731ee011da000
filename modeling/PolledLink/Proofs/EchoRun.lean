import PolledLink.Proofs.Submission

/-! A runner between queues and a peer that sends everything back, until no request is left. -/

namespace PolledLink

instance (v : Outlook) : Decidable v.Served := inferInstanceAs (Decidable (_ ∧ _))

namespace Deployment

variable {w : Deployment Queues Mailbox Peer}

/-- Whether both queues are empty. -/
def emptied (_ : Nat) : StateM (Deployment Queues Mailbox Peer) Bool :=
  fun w => (decide (w.queues.waiting.input = [] ∧ w.queues.waiting.output = []), w)

theorem runUntil_next (bound limit steps : Nat) (buffer : Frame)
    (w : Deployment Queues Mailbox Peer) :
    let stepped := (runner .fifo Peer.carrier).step bound buffer w
    (runner .fifo Peer.carrier).runUntil bound emptied (pure ()) (limit + 1) steps buffer w =
      if stepped.2.outlook.Served then ((steps + 1, stepped.1.2), stepped.2)
      else
        (runner .fifo Peer.carrier).runUntil bound emptied (pure ()) limit (steps + 1) stepped.1.2
          stepped.2 := by
  simp only [Runner.runUntil, bind, StateT.bind]
  generalize (runner .fifo Peer.carrier).step bound buffer w = stepped
  obtain ⟨⟨o, buffer⟩, w⟩ := stepped
  have asked : emptied (steps + 1) w = (decide w.outlook.Served, w) := rfl
  have noted (e : Error) : (runner .fifo Peer.carrier).note (.stepFailed e) w = ((), w) := rfl
  by_cases served : w.outlook.Served
  · cases o <;> simp only [StateT.bind, bind, noted, asked, served, decide_true, if_true] <;> rfl
  · cases o <;> simp only [StateT.bind, bind, noted, asked, served, decide_false, if_false] <;> rfl

/-- The steps come to an end, however the task is paced. Each of them leaves less to go, or else the
next run of the task nearer. -/
theorem Running.ends {w : Deployment Queues Mailbox Peer} (h : w.Running)
    (resounds : w.outlook.Resounds) (bound : Nat) (buffer : Frame) :
    ∃ count last left, left.Running ∧ w.outlook.Relays left.outlook ∧ left.outlook.Served ∧
      ∀ spare steps,
        (runner .fifo Peer.carrier).runUntil (bound + 3) emptied (pure ()) (count + 1 + spare)
          steps buffer w = ((steps + (count + 1), last), left) := by
  obtain ⟨running, goes⟩ := h.step bound buffer
  have next (limit steps : Nat) := runUntil_next (bound + 3) limit steps buffer w
  generalize (runner .fifo Peer.carrier).step (bound + 3) buffer w = stepped at running goes next
  obtain ⟨⟨o, last⟩, w'⟩ := stepped
  dsimp only at running goes next
  have relays : w.outlook.Relays w'.outlook := by
    rcases goes with next | ⟨same, -⟩
    · rw [next]
      exact resounds.next
    · rw [same]
      exact ⟨resounds, rfl⟩
  by_cases served : w'.outlook.Served
  · refine ⟨0, last, w', running, relays, served, fun spare steps => ?_⟩
    rw [Nat.zero_add, Nat.add_comm 1, next, if_pos served]
  · have busy : ¬ w.outlook.Served := by
      intro before
      rcases goes with next | ⟨same, -⟩
      · exact served (next ▸ before.next)
      · exact served (same ▸ before)
    have nearer : w'.outlook.toGo < w.outlook.toGo ∨ w'.outlook.toGo = w.outlook.toGo ∧
        w'.session.link.schedule.countdown < w.session.link.schedule.countdown := by
      rcases goes with next | ⟨same, less⟩
      · rw [next]
        exact .inl (resounds.toGo_next busy)
      · exact .inr ⟨congrArg _ same, less⟩
    obtain ⟨count, final, left, ended, later, empty, runs⟩ :=
      running.ends relays.resounds bound last
    refine ⟨count + 1, final, left, ended, relays.trans later, empty, fun spare steps => ?_⟩
    rw [show count + 1 + 1 + spare = count + 1 + spare + 1 by omega, next, if_neg served, runs,
      show steps + 1 + (count + 1) = steps + (count + 1 + 1) by omega]
termination_by (w.outlook.toGo, w.session.link.schedule.countdown)
decreasing_by
  rcases nearer with less | ⟨same, less⟩
  · exact .left _ _ less
  · rw [same]
    exact .right _ less

/-- A call that makes no demands leaves nothing behind but the link. -/
theorem run_returned (h : w.seen.AtRest) {call : Call} {l : Link} {notes : List Note}
    {served : Option Request} {v : Value} (starts : call.completes = false)
    (returns : w.session.link.call call = ⟨l, notes, served, .returned v⟩) :
    ((host .fifo .mailbox).run call w).2 = { w with session := ⟨l, []⟩ } ∧
      (seen { w with session := ⟨l, []⟩ }).AtRest := by
  have called := invoke_returned .fifo .mailbox h.stopped returns
  have plain := h.invoke (q := .fifo) starts
  rw [invoke_returned .fifo .wire h.stopped returns] at plain
  exact ⟨congrArg Prod.snd called, plain⟩

/-- A new link, with a peer that sends back all that it receives. -/
def echoing (config : Config) : Deployment Queues Mailbox Peer where
  session := .ofConfig config
  queues := {}
  channel := {}
  far := { echoes := true }

/-- The new link when it has been attached to the mailbox, and has had units opened. -/
def engaged (config : Config) (channel : ChannelId) (units : List LinkUnit) :
    Deployment Queues Mailbox Peer :=
  units.foldl (fun w unit => ((host .fifo .mailbox).run (.openUnit unit) w).2)
    ((host .fifo .mailbox).run (.attach channel) (echoing config)).2

/-- Ready for units to be opened. -/
structure Attached (w : Deployment Queues Mailbox Peer) : Prop extends w.seen.Working where
  quiet : w.channel.operation = none
  configured : w.session.link.configured = true

theorem Attached.openUnit (h : w.Attached) (unit : LinkUnit) :
    let left := ((host .fifo .mailbox).run (.openUnit unit) w).2
    left.Attached ∧ left.session.link.Paced ∧ left.outlook = w.outlook := by
  let l := w.session.link
  obtain ⟨schedule, notes, returns, paced⟩ : ∃ schedule notes, l.call (.openUnit unit) =
      ⟨{ l with result := .ok, discards := 0, schedule, isOpen := l.isOpen.set unit true }, notes,
        none, .returned (.outcome .ok)⟩ ∧ schedule.installed = true := by
    have configured : l.configured = true := h.configured
    simp only [Link.call, Link.openUnit, configured, if_true]
    exact ⟨_, _, rfl, Schedule.installed_install _⟩
  obtain ⟨run, rest⟩ := run_returned h.toStands rfl returns
  rw [run]
  exact ⟨⟨⟨rest, h.attached, rfl⟩, h.quiet, h.configured⟩, paced, rfl⟩

theorem Attached.opens (h : w.Attached) (units : List LinkUnit)
    (paced : units ≠ [] ∨ w.session.link.Paced) :
    let left := units.foldl (fun w unit => ((host .fifo .mailbox).run (.openUnit unit) w).2) w
    left.Running ∧ left.outlook = w.outlook := by
  induction units generalizing w with
  | nil => exact ⟨⟨h.toWorking, h.quiet, paced.resolve_left fun some => some rfl⟩, rfl⟩
  | cons unit units ih =>
    obtain ⟨attached, paced, same⟩ := h.openUnit unit
    have later := ih attached (.inr paced)
    rw [same] at later
    exact later

theorem running_engaged (config : Config) (channel : ChannelId) {units : List LinkUnit}
    (opened : units ≠ []) :
    (engaged config channel units).Running ∧
      (engaged config channel units).outlook = .fresh := by
  have rest : (echoing config).seen.AtRest := ⟨Session.sound_ofConfig config, rfl, .idle, rfl⟩
  have attaches : Call.completes (.attach channel) = false := rfl
  obtain ⟨run, rest⟩ := run_returned rest attaches rfl
  have attached : ((host .fifo .mailbox).run (.attach channel) (echoing config)).2.Attached := by
    rw [run]
    exact ⟨⟨rest, nofun, rfl⟩, rfl, rfl⟩
  obtain ⟨running, outlook⟩ := attached.opens units (.inl opened)
  refine ⟨running, outlook.trans ?_⟩
  rw [run]
  rfl

/-- The runner comes to an end with all requests that are submitted to a new link, if the peer sends
back all that it receives, and is sent at least as much as is to be read. However the requests were
mixed, each of them is then complete, the bytes were read in the order in which they were written,
and they were sent in this order, apart from the last that are still staged. No step has more than
two operations to perform, and finds the mailbox empty at the third. -/
theorem echo_completes_requests (config : Config) (channel : ChannelId) (units : List LinkUnit)
    (opened : units ≠ []) (subs : List Submission)
    (enough : (Submission.buffers subs).flatten.length ≤ (Submission.chunks subs).flatten.length)
    (bound : Nat) (buffer : Frame) :
    let start := submitAll .mailbox subs (engaged config channel units)
    let written := (Submission.chunks subs).flatten
    ∃ count last left,
      (∀ spare,
        (runner .fifo Peer.carrier).runUntil (bound + 3) emptied (pure ()) (count + spare) 0 buffer
          start = ((count, last), left)) ∧
      left.queues.waiting = ⟨[], []⟩ ∧
      (∀ unit, ∀ done ∈ left.queues.completed.get unit, done.1 = .ok ∧ done.2.Finished) ∧
      left.queues.completed.input.map (fun done => done.2.requested) =
        (Submission.buffers subs).map List.length ∧
      left.queues.completed.output.map (fun done => done.2.buffer) = Submission.chunks subs ∧
      (left.queues.completed.input.map (fun done => done.2.buffer)).flatten <+: written ∧
      left.far.received ++ left.session.link.buffers.staged = written := by
  intro start written
  obtain ⟨running, outlook⟩ := running_engaged config channel opened
  obtain ⟨submitted, submissions⟩ := running.submitAll subs
  have resounds := Outlook.resounds_fresh enough
  have relays := resounds.submitAll
  rw [← outlook, ← submissions] at relays
  obtain ⟨count, last, left, -, relayed, served, runs⟩ :=
    submitted.ends relays.resounds bound buffer
  have echo := (relays.trans relayed).echo
  rw [served.echo_eq, outlook, Outlook.echo_fresh] at echo
  obtain ⟨received, inputs, outputs, -⟩ := Prospect.mk.inj echo
  have inputs : left.queues.completed.input =
      (Request.fill (Submission.requests .input subs) written).map (Outcome.ok, ·) := inputs
  have outputs : left.queues.completed.output =
      (Submission.requests .output subs).map fun r => (.ok, r.spent) := outputs
  have reads : ∀ r ∈ Submission.requests .input subs, r.Waits .read ∧ r.processed = 0 :=
    fun _ hr => Submission.waits_of_mem hr
  have demand := Submission.demand_inputs subs
  refine ⟨count + 1, last, left, fun spare => ?_, ?_, ?_, ?_, ?_, ?_, received⟩
  · rw [runs, Nat.zero_add]
  · exact congr (congrArg PerUnit.mk served.1) served.2
  · intro unit done hdone
    cases unit with
    | input =>
      rw [PerUnit.get, inputs] at hdone
      obtain ⟨r, hr, rfl⟩ := List.mem_map.mp hdone
      exact ⟨rfl, Request.finished_fill _ _ r hr⟩
    | output =>
      rw [PerUnit.get, outputs] at hdone
      obtain ⟨r, -, rfl⟩ := List.mem_map.mp hdone
      exact ⟨rfl, rfl, rfl⟩
  · rw [inputs, ← Submission.buffer_inputs, List.map_map, List.map_map]
    exact Request.requested_fill _ _
  · rw [outputs, ← Submission.buffer_outputs, List.map_map]
    rfl
  · have filled : left.queues.completed.input.map (fun done => done.2.buffer) =
        (Request.fill (Submission.requests .input subs) written).map Request.buffer := by
      rw [inputs, List.map_map]
      rfl
    rw [filled, Request.flatten_fill (fun r hr => (reads r hr).1) (fun r hr => (reads r hr).2)
      (Nat.le_trans (Nat.le_of_eq demand) enough)]
    exact List.take_prefix _ _

/-- The first of two reads is there before anything is written. -/
theorem echo_completes_requests_one_by_one :
    let subs : List Submission := [.read [0, 0], .write [1, 2], .write [3], .read [0]]
    let start := submitAll .mailbox subs (engaged {} 0 [.input, .output])
    [LinkUnit.input, .output] ≠ [] ∧
    (Submission.buffers subs).flatten.length ≤ (Submission.chunks subs).flatten.length ∧
    ∃ count last left,
      (∀ spare,
        (runner .fifo Peer.carrier).runUntil 3 emptied (pure ()) (count + spare) 0
          (Block.zero frameLength) start = ((count, last), left)) ∧
      left.queues.waiting = ⟨[], []⟩ ∧
      left.queues.completed.input.map (fun done => done.2.requested) = [2, 1] ∧
      (left.queues.completed.input.map (fun done => done.2.buffer)).flatten <+: [1, 2, 3] ∧
      left.far.received ++ left.session.link.buffers.staged = [1, 2, 3] := by
  intro subs start
  have opened : [LinkUnit.input, .output] ≠ [] := nofun
  have enough : (Submission.buffers subs).flatten.length ≤
      (Submission.chunks subs).flatten.length := by decide
  obtain ⟨count, last, left, runs, empty, -, lengths, -, read, sent⟩ :=
    echo_completes_requests {} 0 _ opened subs enough 0 (Block.zero frameLength)
  exact ⟨opened, enough, count, last, left, runs, empty, lengths, read, sent⟩

end Deployment

end PolledLink
