import PolledLink.Proofs.Fitting
import PolledLink.Proofs.Setup

/-! Attaching a channel, and opening and closing units. This may be done at any point, also while bytes
are on their way, for it touches neither the bytes nor the operation that is outstanding. What it
leaves behind is what the last of these calls to succeed has asked for. -/

namespace PolledLink.Session

/-- The call returns at once, with success. -/
def Succeeds (s : Session) (c : Call) : Prop :=
  (s.advance (.call c)).turn = .returned (.outcome .ok)

instance (s : Session) (c : Call) : Decidable (s.Succeeds c) :=
  inferInstanceAs (Decidable (_ = _))

/-- What is told of each of the moves, where there is anything to tell. -/
def gather {α : Type} (tell : Session → Move → Option α) : Session → List Move → List α
  | _, [] => []
  | s, m :: ms => (tell s m).toList ++ gather tell (s.next m) ms

/-- The channel that the move attaches. -/
def attachment? (s : Session) : Move → Option ChannelId
  | .call (.attach channel) => if s.Succeeds (.attach channel) then some channel else none
  | _ => none

/-- Whether the move leaves the unit open, if it opens or closes it. -/
def opening? (unit : LinkUnit) (s : Session) : Move → Option Bool
  | .call (.openUnit other) =>
    if other = unit ∧ s.Succeeds (.openUnit other) then some true else none
  | .call (.closeUnit other) =>
    if other = unit ∧ s.Succeeds (.closeUnit other) then some false else none
  | _ => none

/-- All the channels that are attached in the course of a run, the last one at the end. -/
def attachments (s : Session) (ms : List Move) : List ChannelId := gather attachment? s ms

/-- All that becomes of the unit in the course of a run, as it is opened and closed. -/
def openings (s : Session) (unit : LinkUnit) (ms : List Move) : List Bool :=
  gather (opening? unit) s ms

section Gather

variable {α : Type} {tell : Session → Move → Option α}

/-- What a view shows is what it was last told. -/
theorem view_run (view : Session → Option α)
    (step : ∀ s m, view (s.next m) = (tell s m).or (view s)) (s : Session) (ms : List Move) :
    view (s.run ms) = (gather tell s ms).getLast?.or (view s) := by
  induction ms generalizing s with
  | nil => rfl
  | cons m ms ih =>
    have told : (tell s m).toList.getLast? = tell s m := by cases tell s m <;> rfl
    rw [run, ih, step, gather, List.getLast?_append, told, Option.or_assoc]

end Gather

variable {s : Session} {m : Move}

theorem attach_free (idle : s.link.locks.link = false) (channel : ChannelId) :
    s.advance (.call (.attach channel)) =
      ⟨{ s.link with channel := some channel, configured := true }.unlock, [.attached], none,
        .returned (.outcome .ok)⟩ := by
  simp only [advance, Link.call, Link.attach, Link.acquire?_free idle]
  rfl

theorem attach_held (held : s.link.locks.link = true) (channel : ChannelId) :
    s.advance (.call (.attach channel)) = ⟨s.link, [], none, .returned (.outcome (.error .busy))⟩ := by
  simp only [advance, Link.call, Link.attach_held held]

theorem open_attached (configured : s.link.configured = true) (unit : LinkUnit) :
    ∃ notes, s.advance (.call (.openUnit unit)) =
      ⟨{ s.link with
          result := .ok, discards := 0
          schedule := s.link.schedule.useAll (s.link.callUses (.openUnit unit))
          isOpen := s.link.isOpen.set unit true },
        notes, none, .returned (.outcome .ok)⟩ := by
  obtain ⟨notes, opens⟩ := Link.openUnit_configured configured unit
  refine ⟨notes, ?_⟩
  simp only [advance, Link.call, opens]

theorem open_unattached (unattached : s.link.configured = false) (unit : LinkUnit) :
    s.advance (.call (.openUnit unit)) =
      ⟨s.link, [.openedUnattached unit], none, .returned (.outcome (.error .notConfigured))⟩ := by
  simp only [advance, Link.call, Link.openUnit_unattached unattached]

theorem close_eq (s : Session) (unit : LinkUnit) :
    s.advance (.call (.closeUnit unit)) =
      ⟨{ s.link with isOpen := s.link.isOpen.set unit false }, [.closed unit], none,
        .returned (.outcome .ok)⟩ := rfl

theorem turn_openUnit (s : Session) (unit : LinkUnit) :
    (s.advance (.call (.openUnit unit))).turn =
      .returned (.outcome (if s.link.configured then .ok else .error .notConfigured)) := by
  cases configured : s.link.configured with
  | false => exact congrArg Advance.turn (open_unattached configured unit)
  | true =>
    obtain ⟨notes, opens⟩ := open_attached configured unit
    exact congrArg Advance.turn opens

theorem turn_attach (s : Session) (channel : ChannelId) :
    (s.advance (.call (.attach channel))).turn =
      .returned (.outcome (if s.link.locks.link then .error .busy else .ok)) := by
  cases held : s.link.locks.link with
  | false => exact congrArg Advance.turn (attach_free held channel)
  | true => exact congrArg Advance.turn (attach_held held channel)

theorem succeeds_openUnit {unit : LinkUnit} :
    s.Succeeds (.openUnit unit) ↔ s.link.configured = true := by
  rw [Succeeds, turn_openUnit]
  cases s.link.configured <;> simp

theorem succeeds_attach {channel : ChannelId} :
    s.Succeeds (.attach channel) ↔ s.link.locks.link = false := by
  rw [Succeeds, turn_attach]
  cases s.link.locks.link <;> simp

/-- The channel and the open units after a move are those that it tells of. -/
structure Told (s : Session) (m : Move) (l : Link) : Prop where
  channel : l.channel = (s.attachment? m).or s.link.channel
  configured : l.configured = ((s.attachment? m).isSome || s.link.configured)
  isOpen : ∀ unit, some (l.isOpen.get unit) = (opening? unit s m).or (some (s.link.isOpen.get unit))

theorem told_of_tends {us : List Schedule.Use} {l : Link} (h : s.link.Tends us l)
    (attaches : s.attachment? m = none) (opens : ∀ unit, opening? unit s m = none) :
    s.Told m l := by
  refine ⟨?_, ?_, fun unit => ?_⟩
  · rw [attaches, h.channel, Option.none_or]
  · rw [attaches, h.configured]
    rfl
  · rw [opens, h.isOpen, Option.none_or]

theorem told_switch {c : Call} (unit : LinkUnit) (opens : Bool) {l : Link}
    (tells : ∀ other, opening? other s (.call c) = if unit = other then some opens else none)
    (attaches : s.attachment? (.call c) = none) (channel : l.channel = s.link.channel)
    (configured : l.configured = s.link.configured)
    (isOpen : l.isOpen = s.link.isOpen.set unit opens) : s.Told (.call c) l := by
  refine ⟨?_, ?_, fun other => ?_⟩
  · rw [attaches, channel, Option.none_or]
  · rw [attaches, configured]
    rfl
  · rw [tells, isOpen]
    by_cases same : unit = other
    · rw [if_pos same, same, PerUnit.get_set_self, Option.some_or]
    · rw [if_neg same, PerUnit.get_set_of_ne _ _ (Ne.symm same), Option.none_or]

theorem told_attach (s : Session) (channel : ChannelId) :
    s.Told (.call (.attach channel)) (s.next (.call (.attach channel))).link := by
  rw [next_link]
  cases held : s.link.locks.link with
  | false =>
    have told : s.attachment? (.call (.attach channel)) = some channel :=
      if_pos (succeeds_attach.mpr held)
    rw [attach_free held]
    exact ⟨by rw [told]; rfl, by rw [told]; rfl, fun _ => rfl⟩
  | true =>
    have failure : ¬ s.Succeeds (.attach channel) := by
      rw [succeeds_attach, held]
      nofun
    rw [attach_held held]
    exact told_of_tends (.refl _) (if_neg failure) fun _ => rfl

theorem told_openUnit (s : Session) (unit : LinkUnit) :
    s.Told (.call (.openUnit unit)) (s.next (.call (.openUnit unit))).link := by
  rw [next_link]
  cases configured : s.link.configured with
  | false =>
    have failure : ¬ s.Succeeds (.openUnit unit) := by
      rw [succeeds_openUnit, configured]
      nofun
    rw [open_unattached configured]
    exact told_of_tends (.refl _) rfl fun _ => if_neg fun opened => failure opened.2
  | true =>
    obtain ⟨notes, opens⟩ := open_attached configured unit
    rw [opens]
    refine told_switch unit true (fun other => ?_) rfl rfl rfl rfl
    simp only [opening?, succeeds_openUnit.mpr configured, and_true]

theorem told_next (s : Session) (m : Move) : s.Told m (s.next m).link := by
  cases m with
  | answer shown => exact told_of_tends (s.tends_answer shown) rfl fun _ => rfl
  | call c =>
    cases c with
    | attach channel => exact s.told_attach channel
    | openUnit unit => exact s.told_openUnit unit
    | closeUnit unit =>
      have success : s.Succeeds (.closeUnit unit) := rfl
      refine told_switch unit false (fun other => ?_) rfl rfl rfl rfl
      simp only [opening?, success, and_true]
    | _ => exact told_of_tends (s.link.tends_call rfl) rfl fun _ => rfl

/-! What a run has come to. -/

theorem channel_run (config : Config) (ms : List Move) :
    ((ofConfig config).run ms).link.channel = ((ofConfig config).attachments ms).getLast? := by
  have last := view_run (fun s => s.link.channel) (fun s m => (s.told_next m).channel)
    (ofConfig config) ms
  rwa [show (ofConfig config).link.channel = none from rfl, Option.or_none] at last

theorem isOpen_run (config : Config) (ms : List Move) (unit : LinkUnit) :
    ((ofConfig config).run ms).link.isOpen.get unit =
      ((ofConfig config).openings unit ms).getLast?.getD false := by
  have last := view_run (fun s => some (s.link.isOpen.get unit))
    (fun s m => (s.told_next m).isOpen unit) (ofConfig config) ms
  have closed : (ofConfig config).link.isOpen.get unit = false := by cases unit <;> rfl
  rw [closed] at last
  unfold openings
  cases h : (gather (opening? unit) (ofConfig config) ms).getLast? with
  | none => rw [h] at last; exact Option.some.inj last
  | some opens => rw [h] at last; exact Option.some.inj last

/-- Without a channel the link is not configured, and with one it is. -/
theorem configured_run (h : s.link.configured = s.link.channel.isSome) (ms : List Move) :
    (s.run ms).link.configured = (s.run ms).link.channel.isSome := by
  induction ms generalizing s with
  | nil => exact h
  | cons m ms ih =>
    have told := s.told_next m
    exact ih (by rw [told.configured, told.channel, h, Option.isSome_or])

/-- A unit that is opened has the schedule installed, and nothing else does. -/
theorem install_mem_uses (s : Session) (m : Move) :
    .install ∈ s.uses m ↔ ∃ unit, opening? unit s m = some true := by
  constructor
  · intro installs
    have timing := s.timing m
    generalize s.uses m = us at timing installs
    cases timing with
    | @opened unit configured => exact ⟨unit, if_pos ⟨rfl, succeeds_openUnit.mpr configured⟩⟩
    | paced ticks => nomatch List.mem_singleton.mp installs
    | timed => nomatch List.mem_singleton.mp installs
    | nudged => nomatch List.mem_singleton.mp installs
    | unmoved => nomatch installs
  · rintro ⟨unit, opens⟩
    unfold opening? at opens
    split at opens
    · rename_i other
      obtain ⟨⟨-, success⟩, -⟩ := Option.ite_none_right_eq_some.mp opens
      have configured : s.link.configured = true := succeeds_openUnit.mp success
      have installs : s.uses (.call (.openUnit other)) = _ ++ [.install] := if_pos configured
      rw [installs]
      exact List.mem_append_right _ List.mem_cons_self
    · nomatch (Option.ite_none_right_eq_some.mp opens).2
    · nomatch opens

theorem installed_run (s : Session) (ms : List Move) :
    (s.run ms).link.schedule.installed = true ↔
      s.link.schedule.installed = true ∨ ∃ unit, true ∈ s.openings unit ms := by
  induction ms generalizing s with
  | nil => exact (or_iff_left fun ⟨_, opened⟩ => nomatch opened).symm
  | cons m ms ih =>
    have told (unit : LinkUnit) : true ∈ s.openings unit (m :: ms) ↔
        opening? unit s m = some true ∨ true ∈ (s.next m).openings unit ms := by
      rw [openings, gather, List.mem_append, Option.mem_toList]
      rfl
    simp only [told, exists_or]
    rw [run, ih, s.schedule_next m, Schedule.installed_useAll_iff, install_mem_uses, or_assoc]

/-- The interval is set if it has not been yet, and the countdown is loaded the first time. -/
theorem useAll_openUnit {l : Link} (configured : l.configured = true) (unit : LinkUnit) :
    let interval :=
      if l.schedule.interval = 0 then max l.config.pollInterval 1 else l.schedule.interval
    l.schedule.useAll (l.callUses (.openUnit unit)) =
      { countdown := if l.schedule.installed then l.schedule.countdown else interval
        interval
        installed := true } := by
  intro interval
  have uses : l.callUses (.openUnit unit) = _ ++ [.install] := if_pos configured
  let paced : Schedule := { l.schedule with interval }
  have set : l.schedule.useAll
      (if l.schedule.interval = 0 then [.setInterval l.config.pollInterval] else []) = paced := by
    split
    · rename_i unset
      exact congrArg (fun i => { l.schedule with interval := i }) (if_pos unset).symm
    · rename_i other
      exact congrArg (fun i => { l.schedule with interval := i }) (if_neg other).symm
  rw [uses, Schedule.useAll_append, set]
  show paced.install.2 = _
  by_cases installed : paced.installed = true
  · rw [Schedule.install_of_installed installed, if_pos installed]
    exact congrArg (Schedule.mk _ _) installed
  · rw [Schedule.install, if_neg installed, if_neg installed]

/-- Opening again at once. -/
theorem useAll_openUnit_again {l : Link} {unit : LinkUnit} (configured : l.configured = true)
    (paced : l.schedule.interval ≠ 0) (installed : l.schedule.installed = true) :
    l.schedule.useAll (l.callUses (.openUnit unit)) = l.schedule := by
  rw [useAll_openUnit configured, if_neg paced, if_pos installed, ← installed]

theorem next_call_returned {c : Call} {l : Link} {notes : List Note} {served : Option Request}
    {v : Value} (returns : s.advance (.call c) = ⟨l, notes, served, .returned v⟩) :
    s.next (.call c) = { s with link := l } := by
  simp only [next, step, returns]
  rfl

theorem next_openUnit (configured : s.link.configured = true) (unit : LinkUnit) :
    s.next (.call (.openUnit unit)) =
      { s with
        link :=
          { s.link with
            result := .ok, discards := 0
            schedule := s.link.schedule.useAll (s.link.callUses (.openUnit unit))
            isOpen := s.link.isOpen.set unit true } } := by
  obtain ⟨notes, opens⟩ := open_attached configured unit
  exact next_call_returned opens

theorem next_attach (free : s.link.locks.link = false) (shows : s.link.Shows s.link.buffers.writePos)
    (channel : ChannelId) :
    s.next (.call (.attach channel)) =
      { s with link := { s.link with channel := some channel, configured := true } } := by
  have same : { s.link with channel := some channel, configured := true }.unlock =
      { s.link with channel := some channel, configured := true } := Link.unlock_eq_self free shows
  rw [next_call_returned (attach_free free channel), same]

/-- With a unit just opened, all that is left to do for another is to mark it. -/
theorem next_openUnit_again (configured : s.link.configured = true) (unit other : LinkUnit) :
    let x := s.next (.call (.openUnit unit))
    x.next (.call (.openUnit other)) =
      { x with link := { x.link with isOpen := x.link.isOpen.set other true } } := by
  intro x
  have opened : x = _ := next_openUnit configured unit
  have result : x.link.result = .ok := by rw [opened]
  have discards : x.link.discards = 0 := by rw [opened]
  have configured' : x.link.configured = true := by rw [opened]; exact configured
  have schedule : x.link.schedule = _ :=
    (congrArg (fun x => x.link.schedule) opened).trans (useAll_openUnit configured unit)
  have installed : x.link.schedule.installed = true := by rw [schedule]
  have paced : x.link.schedule.interval ≠ 0 := by
    rw [schedule]
    by_cases unset : s.link.schedule.interval = 0
    · simp only [unset, if_true]
      omega
    · simp only [unset, if_false]
      exact unset
  have still : x.link.schedule.useAll (x.link.callUses (.openUnit other)) = x.link.schedule :=
    useAll_openUnit_again configured' paced installed
  rw [next_openUnit configured' other, still, ← result, ← discards]

/-- Every operation is asked of the channel that the link has. -/
theorem Passage.channel_of_issued {s' : Session} {es : List Event} {channel : ChannelId}
    {issue : Issue} (p : s.Passage m es s') (he : .issued channel issue ∈ es) :
    s.link.channel = some channel := by
  cases p with
  | flushed _ _ _ hc =>
    rcases List.mem_singleton.mp he with ⟨⟩
    exact hc
  | polled _ _ _ hc =>
    rcases List.mem_singleton.mp he with ⟨⟩
    exact hc
  | writeChained _ _ _ hc =>
    rcases List.mem_cons.mp he with ⟨⟨⟩⟩ | here
    rcases List.mem_singleton.mp here with ⟨⟩
    exact hc
  | _ => simp at he

theorem configured_iff_attached (config : Config) (ms : List Move) :
    ((ofConfig config).run ms).link.configured = true ↔ (ofConfig config).attachments ms ≠ [] := by
  rw [configured_run rfl ms, channel_run, List.getLast?_isSome]

/-- In every run of a new link, however its calls are nested, a unit can be opened once a channel has
been attached, and not before. This clears the result and the count of discards, and marks the unit.
The interval is set if it was never set before, and the countdown is loaded if no unit was opened
before. Closing a unit changes its mark alone. A channel can be attached unless an operation is
outstanding, and nothing else is changed by it, nor does the status show it. No call that fails
changes anything. Hence a unit is open if it was opened since it was last closed, and operations are
asked of the channel that was attached last. -/
theorem opening_keeps_off_data (config : Config) (ms : List Move) :
    let new := ofConfig config
    let s := new.run ms
    let l := s.link
    let attached := new.attachments ms
    (∀ unit,
      let m : Move := .call (.openUnit unit)
      ((s.advance m).turn = .returned (.outcome (.error .notConfigured)) ↔ attached = []) ∧
      (attached = [] → s.next m = s) ∧
      (attached ≠ [] →
        let interval :=
          if l.schedule.interval = 0 then max config.pollInterval 1 else l.schedule.interval
        let countdown := if l.schedule.installed then l.schedule.countdown else interval
        let x := s.next m
        (s.advance m).turn = .returned (.outcome .ok) ∧
        x = { s with
          link :=
            { l with
              result := .ok, discards := 0, schedule := ⟨countdown, interval, true⟩
              isOpen := l.isOpen.set unit true } } ∧
        ∀ other, x.next (.call (.openUnit other)) =
          { x with link := { x.link with isOpen := x.link.isOpen.set other true } })) ∧
    (l.schedule.installed = true ↔ ∃ unit, true ∈ new.openings unit ms) ∧
    (∀ unit,
      let m : Move := .call (.closeUnit unit)
      (s.advance m).turn = .returned (.outcome .ok) ∧
      s.next m = { s with link := { l with isOpen := l.isOpen.set unit false } }) ∧
    (∀ channel,
      let m : Move := .call (.attach channel)
      ((s.advance m).turn = .returned (.outcome .ok) ↔ l.inFlight = false) ∧
      (l.inFlight = true →
        s.next m = s ∧ (s.advance m).turn = .returned (.outcome (.error .busy))) ∧
      (l.inFlight = false →
        s.next m = { s with link := { l with channel := some channel, configured := true } } ∧
        (s.next m).link.status = l.status)) ∧
    (∀ unit, l.isOpen.get unit = (new.openings unit ms).getLast?.getD false) ∧
    ∀ m channel issue, .issued channel issue ∈ s.events m → attached.getLast? = some channel := by
  intro new s l attached
  have steady : s.Steady := steady_run config ms
  have fixed : l.config = config := (steady_ofConfig config).config_run ms
  have ready : l.configured = true ↔ attached ≠ [] := configured_iff_attached config ms
  refine ⟨fun unit => ?_, ?_, ?_, fun channel => ?_, isOpen_run config ms, ?_⟩
  · intro m
    by_cases configured : l.configured = true
    · have before : attached ≠ [] := ready.mp configured
      have success : (s.advance m).turn = _ := succeeds_openUnit.mpr configured
      refine ⟨iff_of_false (by rw [success]; simp) before, fun never => absurd never before,
        fun _ => ?_⟩
      intro interval countdown x
      have schedule : l.schedule.useAll (l.callUses (.openUnit unit)) =
          ⟨countdown, interval, true⟩ := by
        have paced := useAll_openUnit configured unit
        rwa [fixed] at paced
      have opened : x = _ := next_openUnit configured unit
      rw [schedule] at opened
      exact ⟨success, opened, next_openUnit_again configured unit⟩
    · have never : attached = [] := Decidable.not_not.mp (mt ready.mpr configured)
      have refused := open_unattached (Bool.eq_false_iff.mpr configured) unit
      refine ⟨iff_of_true (congrArg Advance.turn refused) never, fun _ => ?_, fun before => ?_⟩
      · exact next_call_returned refused
      · exact absurd never before
  · rw [installed_run]
    exact or_iff_right Bool.false_ne_true
  · intro unit m
    exact ⟨rfl, next_call_returned (s.close_eq unit)⟩
  · intro m
    have held : l.locks.link = l.inFlight := steady.held
    refine ⟨?_, fun busy => ?_, fun free => ?_⟩
    · rw [← held]
      exact succeeds_attach
    · have refused := attach_held (held.trans busy) channel
      exact ⟨next_call_returned refused, congrArg Advance.turn refused⟩
    · have shows : l.Shows l.buffers.writePos := shows_of_ne_issuingRead config ms (by
        intro issuing
        rw [Link.inFlight, issuing] at free
        exact Bool.false_ne_true free.symm)
      have left := next_attach (held.trans free) shows channel
      rw [left]
      exact ⟨rfl, rfl⟩
  · intro m channel issue issued
    exact (channel_run config ms).symm.trans
      ((passage steady.toSound m).channel_of_issued issued)

end PolledLink.Session
