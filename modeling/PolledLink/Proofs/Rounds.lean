import PolledLink.Proofs.Outlook
import PolledLink.Proofs.Rest

/-! Rounds of a link that works, between queues and a peer that answers everything. What can be
seen of the deployment after a round is what was to be expected from before it. -/

namespace PolledLink

theorem Peer.take_frame {f : Frame} {h : Header} (p : Peer) (hp : Header.parse f.bytes = .ok h) :
    p.take f.bytes = p.accept f.payload := by
  simp only [take, hp, Frame.payload, accept]

namespace Buffers

variable {b : Buffers}

theorem payload_stamped (hb : b.InBounds) (source : UInt8) :
    (b.stamped source).tx.payload = b.staged := by
  have parsed : Header.parse (b.stamped source).tx.bytes =
      .ok ⟨.request, source, UInt16.ofNat b.writePos⟩ := Frame.parse_stamp _ _
  rw [← b.staged_stamped source, Frame.payload, parsed]
  simp only [hb.toNat_writePos]
  rfl

theorem staged_eq_nil (hb : b.InBounds) : b.staged = [] ↔ b.writePos = 0 := by
  rw [← List.length_eq_zero_iff, length_staged hb]

theorem undelivered_eq_nil (hb : b.InBounds) : b.undelivered = [] ↔ b.readLeft = 0 := by
  rw [← List.length_eq_zero_iff, length_undelivered hb]

/-- The buffers move just the bytes that can be seen to move. -/
theorem move_eq_exchange (hb : b.InBounds) (r : Request) {v : Outlook}
    (staged : v.staged = b.staged) (undelivered : v.undelivered = b.undelivered) :
    v.move r =
      ({ v with
          staged := (b.exchange r).1.staged, undelivered := (b.exchange r).1.undelivered },
        (b.exchange r).2.1) := by
  cases hd : r.direction with
  | write =>
    have space : payloadCapacity - b.staged.length = b.writeSpace := by
      rw [length_staged hb, writeSpace]
    have count : (r.rest.take b.writeSpace).length = min r.rest.length b.writeSpace := by
      rw [List.length_take, Nat.min_comm]
    have same : (b.stage r.rest).2.undelivered = v.undelivered := undelivered.symm
    simp only [Outlook.move, exchange, hd, staged, space, staged_stage hb, count, same]
    rfl
  | read =>
    have rest := drop_undelivered hb r.rest.length
    have same : (b.drain r.rest.length).2.staged = v.staged := staged.symm
    simp only [Outlook.move, exchange, hd, undelivered, drain_fst hb, rest, same]

end Buffers

namespace Deployment

variable {π : Type} {w : Deployment Queues (List Issue) Peer}

def outlook (w : Deployment Queues π Peer) : Outlook where
  staged := w.session.link.buffers.staged
  undelivered := w.session.link.buffers.undelivered
  owesWake := w.session.link.wakeScheduled
  queues := w.queues
  peer := w.far

/-- At rest, with a channel to work on and no failure to keep it from that. -/
structure Working (w : Deployment Queues (List Issue) Peer) : Prop extends w.AtRest where
  attached : w.session.link.channel ≠ none
  works : w.session.link.failure? = none

/-- What a wake pass keeps of the deployment in which it has begun. -/
structure Kept (w w' : Deployment Queues (List Issue) Peer) : Prop where
  locks : w'.session.link.locks = w.session.link.locks
  attached : w'.session.link.channel = w.session.link.channel
  result : w'.session.link.result = w.session.link.result
  inBounds : w.session.link.buffers.InBounds → w'.session.link.buffers.InBounds
  channel : w'.channel = w.channel

theorem respond_shown {unit : LinkUnit} (hs : w.session.stopped = [.head unit]) :
    let a := w.session.link.offered unit (w.queues.waiting.get unit).head?
    w.respond .fifo .wire (.head unit) =
      (a.turn,
        { w with
          session := .take a []
          queues := a.served.elim w.queues (w.queues.putBack unit) }) :=
  respond_head_stopped .fifo .wire hs

def serving (w : Deployment Queues (List Issue) Peer) (r : Request) (queues : Queues) :
    Deployment Queues (List Issue) Peer :=
  { w with session := ⟨(w.session.link.service r).link, []⟩, queues }

theorem kept_serving (w : Deployment Queues (List Issue) Peer) (r : Request) (queues : Queues) :
    w.Kept (w.serving r queues) := by
  obtain ⟨schedule, published, link⟩ := (w.session.link.serves r).link_eq
  have locks : (w.session.link.service r).link.locks = w.session.link.locks := by rw [link]
  have attached : (w.session.link.service r).link.channel = w.session.link.channel := by rw [link]
  have result : (w.session.link.service r).link.result = w.session.link.result := by rw [link]
  exact ⟨locks, attached, result, (w.session.link.serves r).inBounds, rfl⟩

theorem outlook_serving (free : w.session.link.locks.link = false)
    (works : w.session.link.failure? = none) (hb : w.session.link.buffers.InBounds) (r : Request)
    (queues : Queues) :
    (w.serving r queues).outlook = { (w.outlook.move r).1 with queues } := by
  obtain ⟨schedule, published, link⟩ := (w.session.link.serves r).link_eq
  have buffers : (w.session.link.service r).link.buffers = (w.session.link.buffers.exchange r).1 :=
    congrArg Link.buffers (Link.service_works free works r).1
  rw [Buffers.move_eq_exchange (v := w.outlook) hb r rfl rfl, ← buffers]
  unfold serving outlook
  rw [link]

/-- A wake pass deals with one unit, and then passes on. -/
theorem settle_head {unit : LinkUnit} (hs : w.session.stopped = [.head unit])
    (free : w.session.link.locks.link = false) (works : w.session.link.failure? = none)
    (hb : w.session.link.buffers.InBounds) (bound : Nat) :
    ∃ b w', bound ≤ b ∧
      (host .fifo .wire).settle (bound + 2) (.demand (.head unit)) w =
        (host .fifo .wire).settle b (w'.session.link.passOn unit).turn
          { w' with session := .take (w'.session.link.passOn unit) [] } ∧
      w'.outlook = w.outlook.offer unit ∧ w.Kept w' := by
  have queues : w.outlook.queues = w.queues := rfl
  rw [settle_demand, respond_shown hs, Outlook.offer, queues]
  cases pending : (w.queues.waiting.get unit).head?.filter Request.isPending with
  | none =>
    simp only [Link.offered_none pending, Link.passOn_served]
    exact ⟨bound + 1, w, Nat.le_succ bound, rfl, rfl, rfl, rfl, rfl, id, rfl⟩
  | some r =>
    obtain ⟨-, progress, request⟩ := Link.service_works free works r
    have moved : (w.outlook.move r).2 = (w.session.link.buffers.exchange r).2.1 :=
      congrArg Prod.snd (Buffers.move_eq_exchange (v := w.outlook) hb r rfl rfl)
    simp only [moved]
    by_cases all : (w.session.link.buffers.exchange r).2.1.processed =
        (w.session.link.buffers.exchange r).2.1.requested
    · simp only [all, if_true] at progress request ⊢
      simp only [Link.offered_ready pending progress, ← request]
      rw [settle_demand, respond_complete_stopped .fifo .wire rfl]
      exact ⟨bound, w.serving r _, Nat.le_refl _, rfl, outlook_serving free works hb r _,
        w.kept_serving r _⟩
    · simp only [all, if_false] at progress request ⊢
      simp only [Link.offered_short pending progress, ← request]
      exact ⟨bound + 1, w.serving r _, Nat.le_succ _, rfl, outlook_serving free works hb r _,
        w.kept_serving r _⟩

theorem Working.wake (h : w.Working) (idle : w.session.link.operation = .idle) {c : Call}
    {schedule : Schedule}
    (runs : w.session.advance (.call c) = { w.session.link with schedule }.runTask)
    (action : w.session.link.nextAction = .wake) :
    let woken := ((host .fifo .wire).invoke c w).2
    woken.session.link.channel ≠ none ∧ woken.session.link.failure? = none ∧
      woken.channel = w.channel ∧
      woken.outlook = ({ w.outlook with owesWake := false }.offer .input).offer .output := by
  have waking := h.sound.waking idle rfl
  rw [h.stopped] at waking
  have hw : w.session.link.locks.wake = false := by
    cases wake : w.session.link.locks.wake with
    | false => rfl
    | true => nomatch wake ▸ waking
  have task := Link.runTask_wake (l := { w.session.link with schedule }) (h.sound.free idle) action
    hw
  let begun : Deployment Queues (List Issue) Peer :=
    { w with
      session :=
        ⟨{ w.session.link with
            schedule
            wakeScheduled := w.session.link.wakeScheduled && w.session.link.failure?.isSome
            locks := w.session.link.locks.set .wake true }.unlock, [.head .input]⟩ }
  have begins : ((host .fifo .wire).invoke c w).2 =
      ((host .fifo .wire).settle Demand.maxPerCall (.demand (.head .input)) begun).2 := by
    rw [invoke_eq]
    simp only [move, Session.step, runs, task, Session.take, Advance.demand, h.stopped]
    rfl
  have free : begun.session.link.locks.link = false := rfl
  have outlook : begun.outlook = { w.outlook with owesWake := false } := by
    have calm : (w.session.link.wakeScheduled && w.session.link.failure?.isSome) = false := by
      rw [h.works, Option.isSome_none, Bool.and_false]
    exact congrArg (fun owesWake => { w.outlook with owesWake }) calm
  -- a unit takes two answers at most, and the second unit gets what the first has left of the bound
  obtain ⟨b, passed, enough, settles, outlook₁, kept⟩ :=
    settle_head (w := begun) rfl free h.works h.sound.inBounds 2
  obtain ⟨b, rfl⟩ := Nat.exists_eq_add_of_le' enough
  let second : Deployment Queues (List Issue) Peer :=
    { passed with session := ⟨passed.session.link, [.head .output]⟩ }
  have works : second.session.link.failure? = none :=
    (congrArg Outcome.failure? kept.result).trans h.works
  obtain ⟨b, ended, -, settles₂, outlook₂, kept₂⟩ :=
    settle_head (w := second) rfl (kept.locks ▸ free) works (kept.inBounds h.sound.inBounds) b
  have settled : (host .fifo .wire).settle Demand.maxPerCall (.demand (.head .input)) begun =
      (.nothing, { ended with session := .take (ended.session.link.passOn .output) [] }) :=
    settles.trans (settles₂.trans (settle_returned .fifo .wire b .nothing _))
  rw [begins, settled]
  refine ⟨?_, ?_, kept₂.channel.trans kept.channel, ?_⟩
  · exact fun none => h.attached ((kept₂.attached.trans kept.attached).symm.trans none)
  · exact (congrArg Outcome.failure? kept₂.result).trans works
  · rw [← outlook, ← outlook₁]
    exact outlook₂

theorem Working.idle (h : w.Working) (quiet : w.channel = []) : w.session.link.operation = .idle :=
  AtRest.operation_of_channel h.toStands quiet

theorem Working.exists_channel (h : w.Working) : ∃ channel, w.session.link.channel = some channel :=
  Option.ne_none_iff_exists'.mp h.attached

theorem Working.startFlush (h : w.Working) (quiet : w.channel = []) {c : Call} {schedule : Schedule}
    (runs : w.session.advance (.call c) = { w.session.link with schedule }.runTask)
    (action : w.session.link.nextAction = .flush) :
    let called := ((host .fifo .wire).invoke c w).2
    called.session.link.channel ≠ none ∧ called.session.link.failure? = none ∧
      called.outlook = w.outlook ∧
      ∃ frame, called.channel = [.write frame] ∧ ∃ header, Header.parse frame.bytes = .ok header ∧
        frame.payload = w.outlook.staged := by
  have idle := h.idle quiet
  obtain ⟨channel, attached⟩ := h.exists_channel
  have task := Link.runTask_flush (l := { w.session.link with schedule }) (h.sound.free idle) action
    attached h.sound.inBounds
  rw [invoke_issueWrite .fifo .wire h.stopped (runs.trans task) rfl]
  let source := w.session.link.config.source
  refine ⟨h.attached, h.works, ?_, (w.session.link.buffers.stamped source).tx, ?_,
    ⟨.request, source, UInt16.ofNat w.session.link.buffers.writePos⟩, Frame.parse_stamp _ _,
    Buffers.payload_stamped h.sound.inBounds source⟩
  · have same := w.session.link.buffers.staged_stamped source
    exact congrArg (fun staged => { w.outlook with staged }) same
  · rw [quiet]
    rfl

theorem Working.startPoll (h : w.Working) (quiet : w.channel = []) {c : Call} {schedule : Schedule}
    (runs : w.session.advance (.call c) = { w.session.link with schedule }.runTask)
    (action : w.session.link.nextAction = .poll) :
    let called := ((host .fifo .wire).invoke c w).2
    called.session.link.channel ≠ none ∧ called.session.link.failure? = none ∧
      called.outlook = w.outlook ∧ called.channel = [.read] := by
  have idle := h.idle quiet
  obtain ⟨channel, attached⟩ := h.exists_channel
  have task := Link.runTask_poll (l := { w.session.link with schedule }) (h.sound.free idle) action
    attached
  rw [invoke_issueRead .fifo .wire h.stopped (runs.trans task) rfl]
  refine ⟨h.attached, h.works, rfl, ?_⟩
  rw [quiet]
  rfl

/-- The peer gets the staged bytes. With nothing left to deliver a poll follows. -/
theorem Working.write (h : w.Working) {frame : Frame} {header : Header}
    (hc : w.channel = [.write frame]) (parsed : Header.parse frame.bytes = .ok header)
    (payload : frame.payload = w.outlook.staged) (calm : w.outlook.owesWake = false) :
    let written := (carryOut .fifo Peer.farEnd (.write frame) { w with channel := [] }).2
    written.session.link.channel ≠ none ∧ written.session.link.failure? = none ∧
      written.outlook = w.outlook.flush ∧
      written.channel = if w.outlook.undelivered = [] then [.read] else [] := by
  have wired := h.wired
  rw [hc] at wired
  obtain ⟨channel, attached⟩ := h.exists_channel
  let taken : Deployment Queues (List Issue) Peer :=
    { w with channel := [], far := w.far.take frame.bytes, done := w.done ++ [.write frame.bytes] }
  have carried : (carryOut .fifo Peer.farEnd (.write frame) { w with channel := [] }).2 =
      ((host .fifo .wire).invoke (.writeComplete .ok) taken).2 := rfl
  have peer : w.far.take frame.bytes = w.far.accept w.outlook.staged := by
    rw [w.far.take_frame parsed, payload]
  rw [carried]
  by_cases none : w.outlook.undelivered = []
  · have empty := (Buffers.undelivered_eq_nil h.sound.inBounds).mp none
    have ends := invoke_writeComplete_chains (w := taken) .fifo .wire h.stopped wired.of_write.1
      empty calm attached
    rw [ends, if_pos none]
    exact ⟨h.attached, rfl, congrArg (fun peer => { w.outlook with staged := [], peer }) peer, rfl⟩
  · have left : ¬ (w.session.link.buffers.readLeft = 0 ∧ w.session.link.wakeScheduled = false) :=
      fun both => none ((Buffers.undelivered_eq_nil h.sound.inBounds).mpr both.1)
    have ends := invoke_writeComplete_keeps (w := taken) .fifo .wire h.stopped wired.of_write.1 left
    rw [ends, if_neg none]
    exact ⟨h.attached, rfl, congrArg (fun peer => { w.outlook with staged := [], peer }) peer, rfl⟩

theorem Working.read (h : w.Working) (hc : w.channel = [.read]) :
    let brought := (carryOut .fifo Peer.farEnd .read { w with channel := [] }).2
    brought.session.link.channel ≠ none ∧ brought.session.link.failure? = none ∧
      brought.outlook = w.outlook.fetch ∧ brought.channel = [] := by
  have wired := h.wired
  rw [hc] at wired
  obtain ⟨r, reply, payload, peer⟩ := w.far.read_farEnd
  let taken : Deployment Queues (List Issue) Peer :=
    { w with channel := [], far := (Peer.farEnd.read w.far).2, done := w.done ++ [.read] }
  obtain ⟨notes, accepted⟩ :=
    Link.receive_accepted { w.session.link with operation := .idle } reply
  have ends := invoke_readComplete (w := taken) .fifo .wire (Peer.farEnd.read w.far).1
    h.stopped wired.of_read.1 accepted
  have whole : r.payload.take r.buffered = r.payload :=
    List.take_of_length_le (Nat.le_of_eq (Link.Received.length_payload reply))
  have loaded : (w.session.link.buffers.load r).undelivered = w.far.outbox.take payloadCapacity :=
    (w.session.link.buffers.undelivered_load r).trans (whole.trans payload)
  rw [carryOut_read]
  rw [ends]
  refine ⟨h.attached, rfl, ?_, rfl⟩
  exact congr (congrArg (fun undelivered peer =>
    { w.outlook with undelivered, owesWake := true, peer }) loaded) peer

theorem Working.serve_read (h : w.Working) (hc : w.channel = [.read]) (bound : Nat) :
    let served := (serve .fifo Peer.farEnd (bound + 1) w).2
    served.Working ∧ served.channel = [] ∧ served.outlook = w.outlook.fetch := by
  obtain ⟨attached, works, fetched, none⟩ := h.read hc
  have rest := AtRest.carryOut (q := .fifo) (f := Peer.farEnd) h.toStands hc
  rw [snd_serve_next hc, serve_empty none]
  exact ⟨⟨rest, attached, works⟩, none, fetched⟩

theorem Working.serve_write (h : w.Working) {frame : Frame} {header : Header}
    (hc : w.channel = [.write frame]) (parsed : Header.parse frame.bytes = .ok header)
    (payload : frame.payload = w.outlook.staged) (calm : w.outlook.owesWake = false) (bound : Nat) :
    let served := (serve .fifo Peer.farEnd (bound + 2) w).2
    served.Working ∧ served.channel = [] ∧
      served.outlook =
        if w.outlook.undelivered = [] then w.outlook.flush.fetch else w.outlook.flush := by
  obtain ⟨attached, works, flushed, chained⟩ := h.write hc parsed payload calm
  have rest := AtRest.carryOut (q := .fifo) (f := Peer.farEnd) h.toStands hc
  rw [snd_serve_next hc]
  by_cases none : w.outlook.undelivered = []
  · rw [if_pos none] at chained ⊢
    rw [← flushed]
    exact Working.serve_read ⟨rest, attached, works⟩ chained bound
  · rw [if_neg none] at chained ⊢
    rw [serve_empty chained]
    exact ⟨⟨rest, attached, works⟩, chained, flushed⟩

theorem Working.nextAction_eq (h : w.Working) :
    w.session.link.nextAction =
      if w.outlook.owesWake = false ∧ w.outlook.staged ≠ [] then .flush
      else if w.outlook.owesWake = false ∧ w.outlook.undelivered = [] then .poll
      else .wake := by
  have staged : w.outlook.staged ≠ [] ↔ 0 < w.session.link.buffers.writePos := by
    rw [Nat.pos_iff_ne_zero]
    exact not_congr (Buffers.staged_eq_nil h.sound.inBounds)
  have undelivered : w.outlook.undelivered = [] ↔ w.session.link.buffers.readLeft = 0 :=
    Buffers.undelivered_eq_nil h.sound.inBounds
  have works : w.session.link.failure?.isSome = false := by
    rw [h.works]
    rfl
  have calm : w.outlook.owesWake = w.session.link.wakeScheduled := rfl
  simp only [Link.nextAction, Action.next, works, staged, undelivered, calm, Bool.false_eq_true,
    if_false, and_comm]

/-- The call that runs the task has everything follow that was to be expected. -/
theorem Working.round (h : w.Working) (quiet : w.channel = []) {c : Call} {schedule : Schedule}
    (hc : c.completes = false)
    (runs : w.session.advance (.call c) = { w.session.link with schedule }.runTask) :
    let rounded := (round .fifo Peer.farEnd c w).2
    rounded.Working ∧ rounded.channel = [] ∧ rounded.outlook = w.outlook.next := by
  have rest := AtRest.invoke (q := .fifo) h.toStands hc
  have action := h.nextAction_eq
  show let served := (serve .fifo Peer.farEnd 2 ((host .fifo .wire).invoke c w).2).2
    served.Working ∧ served.channel = [] ∧ served.outlook = w.outlook.next
  unfold Outlook.next
  split at action
  · rename_i flushes
    obtain ⟨attached, works, same, frame, hc, header, parsed, payload⟩ :=
      h.startFlush quiet runs action
    rw [if_pos flushes]
    rw [← same] at payload flushes ⊢
    exact Working.serve_write ⟨rest, attached, works⟩ hc parsed payload flushes.1 0
  · rename_i stays
    split at action
    · rename_i polls
      obtain ⟨attached, works, same, hc⟩ := h.startPoll quiet runs action
      rw [if_neg stays, if_pos polls, ← same]
      exact Working.serve_read ⟨rest, attached, works⟩ hc 1
    · rename_i wakes
      obtain ⟨attached, works, hc, woken⟩ := h.wake (h.idle quiet) runs action
      rw [if_neg stays, if_neg wakes, serve_empty (hc.trans quiet)]
      exact ⟨⟨rest, attached, works⟩, hc.trans quiet, woken⟩

end Deployment

end PolledLink
