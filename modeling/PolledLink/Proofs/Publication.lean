import Mathlib.Data.List.Induction
import PolledLink.Proofs.Balance

/-! What can be read of a link without its lock. The published counts are those of the bytes that the
link holds, since nobody gives the lock up without publishing. The one place where they lag behind
is inside a read that was chained to a write: the frame is sent by then, and is counted as staged
until the channel has been asked for the read. -/

namespace PolledLink

/-- What the peripheral had in all when a reply was last accepted, and how much has been delivered
since. -/
structure Reported where
  total : Nat := 0
  delivered : Nat := 0

namespace Reported

def note (n : Reported) : Event → Reported
  | .received received =>
    match received.reply with
    | .ok r => ⟨r.total.toNat, 0⟩
    | .error _ => n
  | .served before after =>
    match before.direction with
    | .read => { n with delivered := n.delivered + (after.movedSince before).length }
    | .write => n
  | .issued _ _ | .wrote _ => n

def noteAll (n : Reported) (es : List Event) : Reported := es.foldl note n

variable {n : Reported} {received : Link.Received} {before after : Request}

theorem note_accepted {r : Reply} (h : received.reply = .ok r) :
    n.note (.received received) = ⟨r.total.toNat, 0⟩ := by
  simp only [note, h]

theorem note_refused {e : Error} (h : received.reply = .error e) :
    n.note (.received received) = n := by
  simp only [note, h]

theorem note_served_read (hd : before.direction = .read) :
    n.note (.served before after) =
      { n with delivered := n.delivered + (after.movedSince before).length } := by
  simp only [note, hd]

theorem note_served_write (hd : before.direction = .write) :
    n.note (.served before after) = n := by
  simp only [note, hd]

theorem noteAll_append (n : Reported) (first second : List Event) :
    n.noteAll (first ++ second) = (n.noteAll first).noteAll second :=
  List.foldl_append

end Reported

namespace Buffers

theorem readAvail_exchange (b : Buffers) (r : Request) :
    (b.exchange r).1.readAvail = b.readAvail := by
  unfold exchange
  cases r.direction <;> rfl

theorem left_add_avail_load (b : Buffers) (r : Reply) :
    (b.load r).readLeft + (b.load r).readAvail = r.total.toNat := by
  simp only [load, Reply.buffered, carried]
  omega

end Buffers

namespace Link

/-- All that was reported has been delivered, waits to be, or is yet to be fetched. -/
def Splits (l : Link) (n : Reported) : Prop :=
  l.buffers.readLeft + l.buffers.readAvail + n.delivered = n.total

/-- The published counts are those of the link, but for `count` bytes being shown as staged. -/
def Shows (l : Link) (count : Nat) : Prop :=
  l.published = { l.snapshot with writePending := count }

variable {l : Link} {n : Reported} {r : Request} {sv : Serviced}

theorem Serves.readAvail (h : l.Serves r sv) : sv.link.buffers.readAvail = l.buffers.readAvail := by
  have kept := l.buffers.readAvail_exchange r
  cases h with
  | busy => rfl
  | failed => rfl
  | finished _ _ exchanged => rwa [exchanged] at kept
  | unfinished _ _ exchanged => rwa [exchanged] at kept

theorem Splits.serves (h : l.Splits n) (serves : l.Serves r sv) (hb : l.buffers.InBounds) :
    sv.link.Splits (n.note (.served r sv.request)) := by
  have before := Buffers.length_undelivered hb
  have after := Buffers.length_undelivered (serves.inBounds hb)
  unfold Splits at h ⊢
  rw [serves.readAvail]
  cases hd : r.direction with
  | write =>
    rw [(serves.write hb hd).2.1, before] at after
    rw [Reported.note_served_write hd, ← after]
    exact h
  | read =>
    rw [(serves.read hb hd).1, List.length_append, after] at before
    rw [Reported.note_served_read hd]
    dsimp only
    omega

theorem Splits.passOn (h : l.Splits n) (unit : LinkUnit) : (l.passOn unit).link.Splits n := by
  cases unit <;> exact h

end Link

namespace Session

variable {s s' : Session} {m : Move} {es : List Event} {n : Reported}

theorem Passage.splits (p : s.Passage m es s') (h : s.Sound) (splits : s.link.Splits n) :
    s'.link.Splits (n.noteAll es) := by
  have refused {received : Link.Received} {e : Error} (hr : received.reply = .error e) :
      s.link.Splits (n.note (.received received)) := by
    rw [Reported.note_refused hr]
    exact splits
  cases p with
  | served r => exact splits.serves (s.link.serves r) h.inBounds
  | shown => exact splits.serves (s.link.serves _) h.inBounds
  | @shownShort unit => exact (splits.serves (s.link.serves _) h.inBounds).passOn unit
  | @shownNone unit => exact splits.passOn unit
  | @completed unit => exact splits.passOn unit
  | @replyAccepted received r reading hr =>
    show Link.Splits _ (n.note (.received received))
    rw [Reported.note_accepted hr]
    exact s.link.buffers.left_add_avail_load r
  | replyDiscarded reading hr => exact refused hr
  | readFailed reading hr => exact refused hr
  | _ => exact splits

theorem Steady.splits_run (h : s.Steady) (ms : List Move) (splits : s.link.Splits n) :
    (s.run ms).link.Splits (n.noteAll (s.history ms)) := by
  induction ms generalizing s n with
  | nil => exact splits
  | cons m ms ih =>
    rw [history, Reported.noteAll_append]
    exact ih (h.next m) ((passage h.toSound m).splits h.toSound splits)

/-- What a passage does to the published counts. -/
inductive Publishes (s : Session) (m : Move) (es : List Event) (s' : Session) : Prop
  | anew (shows : s'.link.Shows s'.link.buffers.writePos)
    (answered : s.link.operation = .issuingRead → ∃ shown, m = .answer shown)
  | still (staged : s'.link.buffers.writePos = s.link.buffers.writePos)
    (shows : ∀ {count : Nat}, s.link.Shows count → s'.link.Shows count)
    (issuing : s.link.operation = .issuingRead → s'.link.operation = .issuingRead)
  | behind {channel : ChannelId} (chains : es = [.wrote .ok, .issued channel .read])

theorem Publishes.serves {r : Request} (h : s.Sound) (hl : s'.link = (s.link.service r).link) :
    s.Publishes m es s' := by
  have serves := s.link.serves r
  rcases serves.published with same | published
  · rw [same] at hl
    exact .still (by rw [hl]) (by rw [hl]; exact id) (by rw [hl]; exact id)
  · by_cases idle : s.link.operation = .idle
    · exact .anew (by rw [hl]; exact published) fun issuing => nomatch idle.symm.trans issuing
    · rw [(serves.eq_of_held (h.busy idle)).1] at hl
      exact .still (by rw [hl]) (by rw [hl]; exact id) (by rw [hl]; exact id)

theorem Publishes.passOn {l : Link} {outer : List Demand} (h : s.Publishes m es ⟨l, outer⟩)
    (unit : LinkUnit) : s.Publishes m es (take (l.passOn unit) outer) := by
  cases unit <;>
    cases h with
    | anew shows answered => exact .anew shows answered
    | still staged shows issuing => exact .still staged shows issuing
    | behind chains => exact .behind chains

theorem Passage.publishes (p : s.Passage m es s') (h : s.Sound) : s.Publishes m es s' := by
  have settled {op : Operation} (hop : s.link.operation = op) (other : op ≠ .issuingRead) :
      s.link.operation = .issuingRead → ∃ shown, m = .answer shown :=
    fun issuing => absurd (hop.symm.trans issuing) other
  have writing (writes : s.link.operation.writes = true) :
      s.link.operation = .issuingRead → ∃ shown, m = .answer shown := by
    intro issuing
    rw [issuing] at writes
    nomatch writes
  cases p with
  | aside => exact .still rfl id id
  | attached idle => exact .anew rfl (settled idle nofun)
  | opened => exact .still rfl id id
  | served r => exact .serves h rfl
  | flushed runs idle => exact .still rfl id fun issuing => nomatch idle.symm.trans issuing
  | polled runs idle => exact .still rfl id fun _ => rfl
  | unstarted runs idle => exact .anew rfl (settled idle nofun)
  | wakeRefused runs idle => exact .anew rfl (settled idle nofun)
  | woke runs idle => exact .anew rfl (settled idle nofun)
  | shown => exact .serves h rfl
  | @shownShort unit => exact Publishes.passOn (.serves h rfl) unit
  | @shownNone unit => cases unit <;> exact .still rfl id id
  | @completed unit => cases unit <;> exact .still rfl id id
  | writeStarted hs issuing => exact .anew rfl (settled issuing nofun)
  | @readStarted _ shown => exact .anew rfl fun _ => ⟨shown, rfl⟩
  | writeEarly issuing => exact .still rfl id fun h => nomatch issuing.symm.trans h
  | writeFailed ends => exact .anew rfl (writing ends.writes)
  | writeSent ends => exact .anew rfl (writing ends.writes)
  | writeChained => exact .behind rfl
  | replyAccepted reading => exact .anew rfl (settled reading nofun)
  | replyDiscarded reading => exact .anew rfl (settled reading nofun)
  | readFailed reading => exact .anew rfl (settled reading nofun)

/-- Where a read is chained to a write, the frame that was sent still counts as staged. -/
theorem Passage.chained {channel : ChannelId} (p : s.Passage m es s')
    (chains : es = [.wrote .ok, .issued channel .read]) :
    s.link.operation.writes = true ∧ s'.link.operation = .issuingRead ∧
      (s.link.Shows s.link.buffers.writePos → s'.link.Shows s.link.buffers.writePos) := by
  cases p with
  | writeChained ends =>
    refine ⟨ends.writes, rfl, fun shows => ?_⟩
    cases ends with
    | late => exact shows
    | heldOver => rfl
  | _ => nomatch chains

/-- Unless a read is being asked for, the published counts are up to date. -/
theorem Steady.shows_run (h : s.Steady) (ms : List Move)
    (start : s.link.operation ≠ .issuingRead → s.link.Shows s.link.buffers.writePos) :
    (s.run ms).link.operation ≠ .issuingRead →
      (s.run ms).link.Shows (s.run ms).link.buffers.writePos := by
  induction ms generalizing s with
  | nil => exact start
  | cons m ms ih =>
    have p := passage h.toSound m
    refine ih (h.next m) fun other => ?_
    cases p.publishes h.toSound with
    | anew shows => exact shows
    | still staged shows issuing =>
      have shown := shows (start fun reading => other (issuing reading))
      rwa [← staged] at shown
    | behind chains => exact absurd (p.chained chains).2.1 other

/-- The move ends a write and asks for a read in its place. -/
def Chains (s : Session) (m : Move) : Prop :=
  ∃ channel, s.events m = [.wrote .ok, .issued channel .read]

/-- All moves since the one that chained a read to a write are calls, and so are made from inside the
issue of that read. -/
def InsideChained (s : Session) (ms : List Move) : Prop :=
  ∃ before m calls, (s.run before).Chains m ∧ ms = before ++ m :: List.map Move.call calls

theorem Steady.inside_calls (h : s.Steady) (issuing : s.link.operation = .issuingRead)
    {count : Nat} (shows : s.link.Shows count) (calls : List Call) :
    (s.run (calls.map .call)).link.operation = .issuingRead ∧
      (s.run (calls.map .call)).link.Shows count := by
  induction calls generalizing s with
  | nil => exact ⟨issuing, shows⟩
  | cons c calls ih =>
    have p := passage h.toSound (.call c)
    cases p.publishes h.toSound with
    | anew _ answered => nomatch answered issuing
    | still _ keeps reading => exact ih (h.next _) (reading issuing) (keeps shows)
    | behind chains =>
      have writes := (p.chained chains).1
      rw [issuing] at writes
      nomatch writes

/-- The issue of a read is done once it is answered. -/
theorem Sound.answer_issuingRead (h : s.Sound) (issuing : s.link.operation = .issuingRead)
    (shown : Option Request) :
    (s.next (.answer shown)).link = { s.link.publish with operation := .reading } := by
  have stacked := h.stacked
  rw [issuing] at stacked
  have answered : s.advance (.answer shown) =
      .done { s.link.publish with operation := .reading } [.polling] := by
    unfold advance
    generalize s.stopped = stopped at stacked
    cases stacked with
    | issuingRead => exact Link.readIssued_pending issuing
  unfold next Session.step
  rw [answered]
  rfl

theorem shows_ofConfig (config : Config) :
    (ofConfig config).link.Shows (ofConfig config).link.buffers.writePos := by
  cases config with
  | mk _ _ report _ => cases report <;> rfl

theorem shows_of_ne_issuingRead (config : Config) (ms : List Move)
    (other : ((ofConfig config).run ms).link.operation ≠ .issuingRead) :
    ((ofConfig config).run ms).link.Shows ((ofConfig config).run ms).link.buffers.writePos :=
  (steady_ofConfig config).shows_run ms (fun _ => shows_ofConfig config) other

/-- What a run shows as long as it stays inside a chained read. -/
theorem shows_inside (config : Config) {before : List Move} {m : Move} (calls : List Call)
    (chains : ((ofConfig config).run before).Chains m) :
    let s := (ofConfig config).run before
    let inside := (ofConfig config).run (before ++ m :: calls.map .call)
    s.link.operation.writes = true ∧ inside.link.operation = .issuingRead ∧
      inside.link.Shows s.link.buffers.writePos := by
  intro s inside
  have steady : s.Steady := steady_run config before
  obtain ⟨channel, events⟩ := chains
  obtain ⟨writes, issuing, shows⟩ := (passage steady.toSound m).chained events
  have other : s.link.operation ≠ .issuingRead := by
    intro reading
    rw [reading] at writes
    nomatch writes
  have current := shows_of_ne_issuingRead config before other
  have rest := (steady.next m).inside_calls issuing (shows current) calls
  have run : inside = (s.next m).run (calls.map .call) := run_append _ before _
  rw [run]
  exact ⟨writes, rest⟩

theorem shows_or_inside (config : Config) (ms : List Move) :
    let s := (ofConfig config).run ms
    s.link.Shows s.link.buffers.writePos ∨ (ofConfig config).InsideChained ms := by
  induction ms using List.reverseRecOn with
  | nil => exact .inl (shows_ofConfig config)
  | append_singleton ms m ih =>
    have steady := steady_run config ms
    have run : (ofConfig config).run (ms ++ [m]) = ((ofConfig config).run ms).next m :=
      run_append _ ms [m]
    rw [run]
    rcases ih with shows | ⟨before, chaining, calls, chains, rfl⟩
    · cases (passage steady.toSound m).publishes steady.toSound with
      | anew anew => exact .inl anew
      | still staged keeps =>
        have kept := keeps shows
        rw [← staged] at kept
        exact .inl kept
      | behind events => exact .inr ⟨ms, m, [], ⟨_, events⟩, rfl⟩
    · cases m with
      | call c =>
        refine .inr ⟨before, chaining, calls ++ [c], chains, ?_⟩
        rw [List.map_append, List.append_assoc]
        rfl
      | answer shown =>
        have issuing := (shows_inside config calls chains).2.1
        have answered := steady.toSound.answer_issuingRead issuing shown
        simp only [answered]
        exact .inl rfl

/-- In every run of a new link, however its calls are nested, what can be read without the lock agrees
with the bytes that the link holds. Only inside a read that was chained to a write is the count of
staged bytes another, which is that of the frame just sent. All that the last accepted reply
reported has been delivered since, waits to be, or is yet to be fetched. -/
theorem status_agrees_with_buffers (config : Config) (ms : List Move) :
    let s := (ofConfig config).run ms
    let b := s.link.buffers
    let available := b.readLeft + if config.reportUnfetched then b.readAvail else 0
    let reported := ({} : Reported).noteAll ((ofConfig config).history ms)
    (¬ (ofConfig config).InsideChained ms →
      s.link.status.snapshot = ⟨b.staged.length, available, b.bytesRead, b.bytesWritten⟩) ∧
    (∀ before m calls, ((ofConfig config).run before).Chains m →
      ms = before ++ m :: List.map Move.call calls →
      ∃ frame, ((ofConfig config).traffic before).outstanding = some (.write frame) ∧
        s.link.status.snapshot =
          ⟨frame.payload.length, available, b.bytesRead, b.bytesWritten⟩) ∧
    b.readLeft + b.readAvail + reported.delivered = reported.total := by
  intro s b available reported
  have steady : s.Steady := steady_run config ms
  have hc : s.link.config = config := (steady_ofConfig config).config_run ms
  have shown {count : Nat} (shows : s.link.Shows count) :
      s.link.status.snapshot = ⟨count, available, b.bytesRead, b.bytesWritten⟩ := by
    show s.link.published = _
    rw [shows, Link.snapshot, hc]
  refine ⟨?_, ?_, (steady_ofConfig config).splits_run ms rfl⟩
  · intro outside
    rw [Buffers.length_staged steady.inBounds]
    exact shown ((shows_or_inside config ms).resolve_right outside)
  · rintro before m calls chains rfl
    obtain ⟨writes, _, shows⟩ := shows_inside config calls chains
    have sound := steady_run config before
    have tracked := tracked_traffic config before
    refine ⟨_, (tracked.writes writes).1, ?_⟩
    rw [tracked.payload_eq sound.inBounds writes, Buffers.length_staged sound.inBounds]
    exact shown shows

-- the three bytes have been sent, and still show as staged while the read is being asked for
example :
    let s := (ofConfig {}).run
      [.call (.attach 0), .call (.service ⟨.write, [1, 2, 3], 0, .pending⟩), .call .runTask,
        .answer none, .call (.writeComplete .ok)]
    s.link.status.snapshot = ⟨3, 0, 0, 3⟩ ∧ s.link.buffers.staged = [] := by
  decide +kernel

end Session

end PolledLink
