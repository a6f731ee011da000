import PolledLink.Proofs.Countdown
import PolledLink.Proofs.Reception
import PolledLink.Proofs.Serving
import PolledLink.Proofs.Task

/-! The set-up of a link: its channel, the units that are open, and its schedule. Only the host changes
the first two. The schedule is nudged as well, when an operation has come to its end without a poll
to follow, and when bytes are left over of a request. -/

namespace PolledLink

/-- The host attaches a channel by the call, or opens or closes a unit. -/
def Call.setsUp : Call → Bool
  | attach _ | openUnit _ | closeUnit _ => true
  | setPollInterval _ | onTimer | runTask | service _ | writeComplete _ | readComplete _ => false

namespace Link

/-- A write that ends like this is followed by a poll. -/
def Chains (l : Link) (o : Outcome) : Prop :=
  o = .ok ∧ l.buffers.readLeft = 0 ∧ l.wakeScheduled = false

instance (l : Link) (o : Outcome) : Decidable (l.Chains o) :=
  inferInstanceAs (Decidable (_ ∧ _ ∧ _))

/-- The link works, and cannot move all that is left of the request. -/
def FallsShort (l : Link) (r : Request) : Prop :=
  l.locks.link = false ∧ l.failure? = none ∧ (l.service r).progress = .pending

instance (l : Link) (r : Request) : Decidable (l.FallsShort r) :=
  inferInstanceAs (Decidable (_ ∧ _ ∧ _))

/-- The uses that a call makes of the schedule before it first stops. -/
def callUses (l : Link) : Call → List Schedule.Use
  | .openUnit _ =>
    if l.configured then
      (if l.schedule.interval = 0 then [.setInterval l.config.pollInterval] else []) ++ [.install]
    else []
  | .setPollInterval ticks => [.setInterval ticks]
  | .onTimer => [.tick]
  | .service r => if l.FallsShort r then [.nudge] else []
  | .writeComplete o => if l.operation = .writing ∧ ¬ l.Chains o then [.nudge] else []
  | .readComplete _ => if l.operation = .reading then [.nudge] else []
  | .attach _ | .closeUnit _ | .runTask => []

def resumeUses (l : Link) (shown : Option Request) : Demand → List Schedule.Use
  | .issueWrite _ _ _ =>
    match l.operation with
    | .writeDone o => if l.Chains o then [] else [.nudge]
    | _ => []
  | .head _ =>
    match shown.filter Request.isPending with
    | some r => if l.FallsShort r then [.nudge] else []
    | none => []
  | .issueRead _ | .complete _ _ => []

/-- The channel and the open units stay, and the schedule is used like this. -/
structure Tends (l : Link) (us : List Schedule.Use) (l' : Link) : Prop where
  schedule : l'.schedule = l.schedule.useAll us
  channel : l'.channel = l.channel
  configured : l'.configured = l.configured
  isOpen : l'.isOpen = l.isOpen

namespace Tends

variable {l l' l'' : Link} {first second us : List Schedule.Use}

theorem refl (l : Link) : l.Tends [] l := ⟨rfl, rfl, rfl, rfl⟩

theorem trans (h : l.Tends first l') (h' : l'.Tends second l'') :
    l.Tends (first ++ second) l'' where
  schedule := by rw [h'.schedule, h.schedule, Schedule.useAll_append]
  channel := h'.channel.trans h.channel
  configured := h'.configured.trans h.configured
  isOpen := h'.isOpen.trans h.isOpen

theorem passOn (h : l.Tends us l') (unit : LinkUnit) : l.Tends us (l'.passOn unit).link := by
  cases unit with
  | input => exact h
  | output => exact ⟨h.schedule, h.channel, h.configured, h.isOpen⟩

end Tends

variable (l : Link)

theorem tends_flush : l.Tends [] l.flush.link := by
  simp only [flush]
  split
  · exact ⟨rfl, rfl, rfl, rfl⟩
  · split <;> exact ⟨rfl, rfl, rfl, rfl⟩

theorem tends_poll : l.Tends [] l.poll.link := by
  simp only [poll]
  split <;> exact ⟨rfl, rfl, rfl, rfl⟩

theorem tends_wake : l.Tends [] l.wake.link := by
  simp only [wake]
  split <;> exact ⟨rfl, rfl, rfl, rfl⟩

theorem tends_runTask : l.Tends [] l.runTask.link := by
  simp only [runTask]
  split
  · exact .refl l
  · rename_i locks _
    have taken : l.Tends [] { l with locks } := ⟨rfl, rfl, rfl, rfl⟩
    simp only [Advance.after]
    cases { l with locks }.nextAction with
    | flush => exact taken.trans (tends_flush _)
    | poll => exact taken.trans (tends_poll _)
    | wake => exact taken.trans (tends_wake _)

theorem tends_onTimer : l.Tends [.tick] l.onTimer.link := by
  have ticked : l.Tends [.tick] { l with schedule := l.schedule.tick.2 } := ⟨rfl, rfl, rfl, rfl⟩
  simp only [onTimer]
  split
  · exact ticked.trans (tends_runTask _)
  · exact ticked

theorem tends_service (r : Request) :
    l.Tends (if l.FallsShort r then [.nudge] else []) (l.service r).link := by
  have serves := l.serves r
  generalize hsv : l.service r = sv at serves
  have told := congrArg Serviced.progress hsv
  cases serves with
  | busy held =>
    have other : ¬ l.FallsShort r := fun ⟨free, _⟩ => absurd (free.symm.trans held) nofun
    rw [if_neg other]
    exact .refl l
  | failed _ fails =>
    have other : ¬ l.FallsShort r := fun ⟨_, works, _⟩ => absurd (works.symm.trans fails) nofun
    rw [if_neg other]
    exact ⟨rfl, rfl, rfl, rfl⟩
  | finished =>
    have other : ¬ l.FallsShort r := fun ⟨_, _, short⟩ => absurd (short.symm.trans told) nofun
    rw [if_neg other]
    exact ⟨rfl, rfl, rfl, rfl⟩
  | unfinished free works =>
    have short : l.FallsShort r := ⟨free, works, told⟩
    rw [if_pos short]
    exact ⟨rfl, rfl, rfl, rfl⟩

theorem tends_finishWrite (o : Outcome) :
    l.Tends (if l.Chains o then [] else [.nudge]) (l.finishWrite o).link := by
  cases o with
  | error e =>
    rw [if_neg fun chains => nomatch chains.1]
    exact ⟨rfl, rfl, rfl, rfl⟩
  | ok =>
    have polls : { l with result := .ok, buffers := l.buffers.reset }.nextAction = .poll ↔
        l.Chains .ok := by
      rw [nextAction_eq_poll]
      exact ⟨fun ⟨_, _, empty, calm⟩ => ⟨rfl, empty, calm⟩,
        fun ⟨_, empty, calm⟩ => ⟨rfl, rfl, empty, calm⟩⟩
    have emptied : l.Tends [] { l with result := .ok, buffers := l.buffers.reset } :=
      ⟨rfl, rfl, rfl, rfl⟩
    simp only [finishWrite, polls]
    split
    · exact emptied.trans (tends_poll _)
    · exact emptied.trans ⟨rfl, rfl, rfl, rfl⟩

/-- A write ends, with its operation out of the way. -/
theorem tends_endWrite {l l' : Link} (o : Outcome) (start : l.Tends [] l')
    (same : l'.Chains o ↔ l.Chains o) :
    l.Tends (if l.Chains o then [] else [.nudge]) (l'.finishWrite o).link := by
  have ended := l'.tends_finishWrite o
  simp only [same] at ended
  exact start.trans ended

theorem tends_writeComplete (o : Outcome) :
    l.Tends (l.callUses (.writeComplete o)) (l.writeComplete o).link := by
  cases hop : l.operation with
  | writing =>
    simp only [callUses, writeComplete, hop, true_and, ite_not]
    exact tends_endWrite o ⟨rfl, rfl, rfl, rfl⟩ Iff.rfl
  | _ =>
    simp only [callUses, writeComplete, hop, reduceCtorEq, false_and, if_false]
    exact ⟨rfl, rfl, rfl, rfl⟩

theorem tends_receive (received : Received) : l.Tends [] (l.receive received).2.1 := by
  cases hr : received.reply with
  | ok r =>
    obtain ⟨notes, accepted⟩ := l.receive_accepted hr
    rw [accepted]
    exact ⟨rfl, rfl, rfl, rfl⟩
  | error e =>
    obtain ⟨notes, refused⟩ := l.receive_refused hr
    rw [refused, l.discard_eq e]
    split <;> exact ⟨rfl, rfl, rfl, rfl⟩

theorem tends_readComplete (received : Received) :
    l.Tends (l.callUses (.readComplete received)) (l.readComplete received).2.1 := by
  cases hop : l.operation with
  | reading =>
    simp only [callUses, readComplete, hop, if_true]
    have taken := tends_receive { l with operation := .idle } received
    exact ⟨congrArg Schedule.nudge taken.schedule, taken.channel, taken.configured, taken.isOpen⟩
  | _ =>
    simp only [callUses, readComplete, hop, reduceCtorEq, if_false]
    exact .refl l

theorem tends_resume (d : Demand) (shown : Option Request) :
    l.Tends (l.resumeUses shown d) (l.resume d shown).link := by
  cases d with
  | issueWrite channel frame count =>
    cases hop : l.operation with
    | writeDone o =>
      have ends := l.writeIssued_heldOver hop count
      simp only [resumeUses, resume, hop, ends]
      exact tends_endWrite o ⟨rfl, rfl, rfl, rfl⟩ Iff.rfl
    | _ =>
      have same : l.publish.operation = l.operation := rfl
      simp only [resumeUses, resume, writeIssued, same, hop]
      exact ⟨rfl, rfl, rfl, rfl⟩
  | issueRead channel =>
    simp only [resume, readIssued]
    split <;> exact ⟨rfl, rfl, rfl, rfl⟩
  | head unit =>
    cases pending : shown.filter Request.isPending with
    | none =>
      simp only [resumeUses, resume, offered, pending]
      exact (Tends.refl l).passOn unit
    | some r =>
      have served := l.tends_service r
      simp only [resumeUses, resume, offered, pending]
      cases (l.service r).progress with
      | ready outcome => exact served
      | pending => exact served.passOn unit
  | complete unit o => exact (Tends.refl l).passOn unit

theorem tends_call {c : Call} (aside : c.setsUp = false) :
    l.Tends (l.callUses c) (l.call c).link := by
  cases c with
  | attach channel => nomatch aside
  | openUnit unit => nomatch aside
  | closeUnit unit => nomatch aside
  | setPollInterval ticks => exact ⟨rfl, rfl, rfl, rfl⟩
  | onTimer => exact l.tends_onTimer
  | runTask => exact l.tends_runTask
  | service r => exact l.tends_service r
  | writeComplete o => exact l.tends_writeComplete o
  | readComplete received => exact l.tends_readComplete received

theorem openUnit_configured {l : Link} (h : l.configured = true) (unit : LinkUnit) :
    ∃ notes, l.openUnit unit =
      (.ok,
        { l with
          result := .ok, discards := 0, schedule := l.schedule.useAll (l.callUses (.openUnit unit))
          isOpen := l.isOpen.set unit true },
        notes) := by
  simp only [openUnit, callUses, h, if_true]
  split <;> exact ⟨_, rfl⟩

theorem openUnit_unattached {l : Link} (h : l.configured = false) (unit : LinkUnit) :
    l.openUnit unit = (.error .notConfigured, l, [.openedUnattached unit]) := by
  rw [openUnit, h]
  rfl

theorem schedule_call (c : Call) :
    (l.call c).link.schedule = l.schedule.useAll (l.callUses c) := by
  cases aside : c.setsUp with
  | false => exact (l.tends_call aside).schedule
  | true =>
    cases c with
    | attach channel =>
      simp only [call, attach]
      split <;> rfl
    | openUnit unit =>
      cases h : l.configured with
      | false =>
        simp only [call, openUnit_unattached h, callUses, h]
        rfl
      | true =>
        obtain ⟨notes, opens⟩ := openUnit_configured h unit
        simp only [call, opens]
    | closeUnit unit => rfl
    | _ => cases aside

end Link

namespace Session

def uses (s : Session) : Move → List Schedule.Use
  | .call c => s.link.callUses c
  | .answer shown =>
    match s.stopped with
    | d :: _ => s.link.resumeUses shown d
    | [] => []

def usesAll (s : Session) : List Move → List Schedule.Use
  | [] => []
  | m :: ms => s.uses m ++ (s.next m).usesAll ms

/-- What a move can use the schedule for. -/
inductive Timing (s : Session) : Move → List Schedule.Use → Prop
  | opened {unit : LinkUnit} (configured : s.link.configured = true) :
    Timing s (.call (.openUnit unit))
      ((if s.link.schedule.interval = 0 then [.setInterval s.link.config.pollInterval] else []) ++
        [.install])
  | paced (ticks : Nat) : Timing s (.call (.setPollInterval ticks)) [.setInterval ticks]
  | timed : Timing s (.call .onTimer) [.tick]
  | nudged {m : Move} (untimed : m ≠ .call .onTimer) : Timing s m [.nudge]
  | unmoved {m : Move} (untimed : m ≠ .call .onTimer) : Timing s m []

variable (s : Session)

theorem Timing.ite {s : Session} {m : Move} {p : Prop} [Decidable p] {us us' : List Schedule.Use}
    (h : s.Timing m us) (h' : s.Timing m us') : s.Timing m (if p then us else us') := by
  split
  · exact h
  · exact h'

theorem timing_call (c : Call) : s.Timing (.call c) (s.link.callUses c) := by
  cases c with
  | openUnit unit =>
    simp only [Link.callUses]
    split
    · exact .opened ‹_›
    · exact .unmoved nofun
  | setPollInterval ticks => exact .paced ticks
  | onTimer => exact .timed
  | service r => exact .ite (.nudged nofun) (.unmoved nofun)
  | writeComplete o => exact .ite (.nudged nofun) (.unmoved nofun)
  | readComplete received => exact .ite (.nudged nofun) (.unmoved nofun)
  | attach channel => exact .unmoved nofun
  | closeUnit unit => exact .unmoved nofun
  | runTask => exact .unmoved nofun

theorem timing_resume (d : Demand) (shown : Option Request) :
    s.Timing (.answer shown) (s.link.resumeUses shown d) := by
  cases d with
  | issueWrite channel frame count =>
    simp only [Link.resumeUses]
    split
    · exact .ite (.unmoved nofun) (.nudged nofun)
    · exact .unmoved nofun
  | head unit =>
    simp only [Link.resumeUses]
    split
    · exact .ite (.nudged nofun) (.unmoved nofun)
    · exact .unmoved nofun
  | issueRead channel => exact .unmoved nofun
  | complete unit o => exact .unmoved nofun

theorem timing (m : Move) : s.Timing m (s.uses m) := by
  cases m with
  | call c => exact s.timing_call c
  | answer shown =>
    unfold uses
    cases s.stopped with
    | nil => exact .unmoved nofun
    | cons d outer => exact s.timing_resume d shown

theorem tends_answer (shown : Option Request) :
    s.link.Tends (s.uses (.answer shown)) (s.next (.answer shown)).link := by
  rw [next_link]
  unfold uses advance
  cases s.stopped with
  | nil => exact .refl s.link
  | cons d outer => exact s.link.tends_resume d shown

/-- The schedule knows of a session no more than the uses that its moves make. -/
theorem schedule_next (m : Move) :
    (s.next m).link.schedule = s.link.schedule.useAll (s.uses m) := by
  cases m with
  | call c => exact s.link.schedule_call c
  | answer shown => exact (s.tends_answer shown).schedule

theorem schedule_run (ms : List Move) :
    (s.run ms).link.schedule = s.link.schedule.useAll (s.usesAll ms) := by
  induction ms generalizing s with
  | nil => rfl
  | cons m ms ih => rw [run, ih, schedule_next, usesAll, Schedule.useAll_append]

end Session

end PolledLink
