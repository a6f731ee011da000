import Mathlib.Data.List.Induction
import PolledLink.Proofs.Discipline

/-! A failure lasts until a unit is opened again. The move that fails the link leaves the bytes as
they are, and from then on the periodic task makes wake passes only. A wake pass does no more than
tell the requests of the failure, so that the bytes are found as they were left. -/

namespace PolledLink

theorem Link.service_failed {l : Link} {e : Error} (free : l.locks.link = false)
    (failed : l.failure? = some e) (r : Request) :
    l.service r =
      ⟨l.unlock, { r with progress := .ready (.error e) }, .ready (.error e),
        [.failing r.direction e]⟩ := by
  have serves := l.serves r
  generalize l.service r = sv at serves
  cases serves with
  | busy held => exact absurd (free.symm.trans held) nofun
  | failed _ other =>
    obtain rfl := Option.some.inj (failed.symm.trans other)
    rfl
  | finished _ works => exact absurd (failed.symm.trans works) nofun
  | unfinished _ works => exact absurd (failed.symm.trans works) nofun

namespace Session

variable {s s' : Session} {m : Move} {es : List Event} {e : Error}

/-- The move opens a unit, and the link lets it. -/
def Reopens (s : Session) : Move → Prop
  | .call (.openUnit unit) => (s.link.openUnit unit).1 = .ok
  | _ => False

instance (s : Session) : (m : Move) → Decidable (s.Reopens m)
  | .call (.openUnit unit) => inferInstanceAs (Decidable ((s.link.openUnit unit).1 = .ok))
  | .call (.attach _) | .call (.closeUnit _) | .call (.setPollInterval _) | .call .onTimer
  | .call .runTask | .call (.service _) | .call (.writeComplete _) | .call (.readComplete _)
  | .answer _ => .isFalse id

def NeverReopens : Session → List Move → Prop
  | _, [] => True
  | s, m :: ms => ¬ s.Reopens m ∧ (s.next m).NeverReopens ms

instance decidableNeverReopens : (s : Session) → (ms : List Move) → Decidable (s.NeverReopens ms)
  | _, [] => .isTrue trivial
  | s, m :: ms =>
    have := decidableNeverReopens (s.next m) ms
    inferInstanceAs (Decidable (¬ s.Reopens m ∧ (s.next m).NeverReopens ms))

theorem neverReopens_concat {s : Session} {ms : List Move} {m : Move}
    (closed : s.NeverReopens ms) (last : ¬ (s.run ms).Reopens m) : s.NeverReopens (ms ++ [m]) := by
  induction ms generalizing s with
  | nil => exact ⟨last, trivial⟩
  | cons m' ms ih => exact ⟨closed.1, ih closed.2 last⟩

/-- What a failed link leaves as it is. -/
structure Arrested (before after : Session) : Prop where
  result : after.link.result = before.link.result
  buffers : after.link.buffers = before.link.buffers
  discards : after.link.discards = before.link.discards

namespace Arrested

theorem refl (s : Session) : Arrested s s := ⟨rfl, rfl, rfl⟩

theorem trans {s'' : Session} (first : Arrested s s') (second : Arrested s' s'') :
    Arrested s s'' where
  result := second.result.trans first.result
  buffers := second.buffers.trans first.buffers
  discards := second.discards.trans first.discards

theorem failure?_eq (h : Arrested s s') : s'.link.failure? = s.link.failure? :=
  congrArg Outcome.failure? h.result

theorem passOn {l : Link} (h : Arrested s ⟨l, s.stopped⟩) (unit : LinkUnit) (outer : List Demand) :
    Arrested s (take (l.passOn unit) outer) := by
  cases unit <;> exact ⟨h.result, h.buffers, h.discards⟩

end Arrested

theorem Steady.idle_of_failure (h : s.Steady) (failed : s.link.failure? = some e) :
    s.link.operation = .idle := by
  apply Decidable.byContradiction
  intro inFlight
  exact absurd (failed.symm.trans (h.disciplined.calm inFlight).1) nofun

theorem reopens_iff {unit : LinkUnit} :
    s.Reopens (.call (.openUnit unit)) ↔ s.link.configured = true := by
  rw [Reopens, Link.openUnit]
  cases s.link.configured with
  | true => exact ⟨fun _ => rfl, fun _ => rfl⟩
  | false => exact iff_of_false Outcome.noConfusion Bool.false_ne_true

theorem exists_of_reopens (h : s.Reopens m) : ∃ unit, m = .call (.openUnit unit) := by
  unfold Reopens at h
  split at h
  · exact ⟨_, rfl⟩
  · exact h.elim

theorem next_of_reopens (h : s.Reopens m) :
    (s.next m).link.result = .ok ∧ (s.next m).link.buffers = s.link.buffers := by
  obtain ⟨unit, rfl⟩ := exists_of_reopens h
  have opened : (s.link.openUnit unit).2.1.result = .ok ∧
      (s.link.openUnit unit).2.1.buffers = s.link.buffers := by
    rw [Link.openUnit, if_pos (reopens_iff.mp h)]
    exact ⟨rfl, rfl⟩
  exact opened

/-- The move that fails a link leaves its buffers as they are. -/
theorem Passage.buffers_of_failing (p : s.Passage m es s') (works : s.link.failure? = none)
    (fails : s'.link.failure? ≠ none) : s'.link.buffers = s.link.buffers := by
  have still {l : Link} {P : Prop} (same : l.failure? = s.link.failure?)
      (fails : l.failure? ≠ none) : P := absurd (same.trans works) fails
  have served (r : Request) : (s.link.service r).link.failure? = s.link.failure? := by
    obtain ⟨schedule, published, link⟩ := (s.link.serves r).link_eq
    rw [link]
    rfl
  cases p with
  -- servicing, and whatever a flush does to the frame, is no reason to fail
  | served r => exact still (served r) fails
  | flushed => exact still rfl fails
  | @shown unit r => exact still (served r) fails
  | @shownShort unit r => cases unit <;> exact still (served r) fails
  | @shownNone unit => cases unit <;> rfl
  | @completed unit => cases unit <;> rfl
  | writeSent => exact absurd rfl fails
  | writeChained => exact absurd rfl fails
  | replyAccepted => exact absurd rfl fails
  | _ => rfl

/-- No move but one that opens a unit gets a failed link to work. -/
theorem Passage.arrested (p : s.Passage m es s') (h : s.Steady) (failed : s.link.failure? = some e)
    (closed : ¬ s.Reopens m) :
    Arrested s s' ∧ ∀ channel issue, .issued channel issue ∉ es := by
  have idle := h.idle_of_failure failed
  have served (r : Request) : Arrested s ⟨(s.link.service r).link, s.stopped⟩ := by
    rw [Link.service_failed (h.free idle) failed]
    exact ⟨rfl, rfl, rfl⟩
  have works {P : Prop} (none : s.link.failure? = none) : P :=
    absurd (failed.symm.trans none) nofun
  have ends {o : Outcome} {published : Snapshot} {outer : List Demand} {P : Prop}
      (ends : s.EndsWrite m o published outer) : P := absurd idle ends.inFlight
  have begun {op : Operation} {P : Prop} (hop : s.link.operation = op) (ne : op ≠ .idle) : P :=
    absurd (hop.symm.trans idle) ne
  cases p with
  | aside => exact ⟨⟨rfl, rfl, rfl⟩, by simp⟩
  | attached => exact ⟨⟨rfl, rfl, rfl⟩, by simp⟩
  | opened schedule configured => exact absurd (reopens_iff.mpr configured) closed
  | served r => exact ⟨⟨(served r).result, (served r).buffers, (served r).discards⟩, by simp⟩
  -- a failed link has nothing else to do than wake
  | flushed _ _ action => exact works (Link.nextAction_eq_flush.mp action).1
  | polled _ _ action => exact works (Link.nextAction_eq_poll.mp action).1
  | unstarted _ _ action => exact works (Link.of_nextAction_ne_wake action).1
  | wakeRefused => exact ⟨⟨rfl, rfl, rfl⟩, by simp⟩
  | woke => exact ⟨⟨rfl, rfl, rfl⟩, by simp⟩
  | @shown unit r => exact ⟨⟨(served r).result, (served r).buffers, (served r).discards⟩, by simp⟩
  | @shownShort unit r outer => exact ⟨(served r).passOn unit outer, by simp⟩
  | @shownNone unit shown outer => exact ⟨(Arrested.refl s).passOn unit outer, by simp⟩
  | @completed unit outcome shown outer => exact ⟨(Arrested.refl s).passOn unit outer, by simp⟩
  -- nothing is outstanding that could start or come to its end
  | writeStarted _ issuing => exact begun issuing nofun
  | readStarted _ issuing => exact begun issuing nofun
  | writeEarly issuing => exact begun issuing nofun
  | writeFailed ended => exact ends ended
  | writeSent ended => exact ends ended
  | writeChained ended => exact ends ended
  | replyAccepted reading => exact begun reading nofun
  | replyDiscarded reading => exact begun reading nofun
  | readFailed reading => exact begun reading nofun

theorem Steady.arrested_run (h : s.Steady) (failed : s.link.failure? = some e) (ms : List Move)
    (closed : s.NeverReopens ms) :
    Arrested s (s.run ms) ∧ ∀ channel issue, .issued channel issue ∉ s.history ms := by
  induction ms generalizing s with
  | nil => exact ⟨.refl s, fun _ _ => List.not_mem_nil⟩
  | cons m ms ih =>
    obtain ⟨first, quiet⟩ := (passage h.toSound m).arrested h failed closed.1
    obtain ⟨rest, later⟩ := ih (h.next m) (first.failure?_eq.trans failed) closed.2
    refine ⟨first.trans rest, fun channel issue issued => ?_⟩
    rcases List.mem_append.mp issued with now | then'
    · exact quiet channel issue now
    · exact later channel issue then'

/-- The link works when `before` has been run, `m` fails it with the error, and no unit is opened in
the moves since. -/
structure FailedBy (s : Session) (e : Error) (before : List Move) (m : Move) (since : List Move) :
    Prop where
  works : (s.run before).link.failure? = none
  fails : ((s.run before).next m).link.failure? = some e
  closed : ((s.run before).next m).NeverReopens since

/-- A link that comes to fail is failed by one of the moves. -/
theorem Steady.exists_failing_move (h : s.Steady) (works : s.link.failure? = none)
    (ms : List Move) (failed : (s.run ms).link.failure? = some e) :
    ∃ before m since, ms = before ++ m :: since ∧ s.FailedBy e before m since := by
  induction ms using List.reverseRecOn generalizing e with
  | nil => exact absurd (works.symm.trans failed) nofun
  | append_singleton ms m ih =>
    rw [run_append] at failed
    cases already : (s.run ms).link.failure? with
    | none => exact ⟨ms, m, [], rfl, already, failed, trivial⟩
    | some e' =>
      have closed : ¬ (s.run ms).Reopens m := by
        intro reopens
        have works : ((s.run ms).next m).link.failure? = none :=
          congrArg Outcome.failure? (next_of_reopens reopens).1
        exact absurd (works.symm.trans failed) nofun
      have lasts := ((passage (h.run ms).toSound m).arrested (h.run ms) already closed).1
      obtain rfl : e' = e :=
        Option.some.inj (already.symm.trans (lasts.failure?_eq.symm.trans failed))
      obtain ⟨before, m', since, rfl, first⟩ := ih already
      rw [run_append] at closed
      exact ⟨before, m', since ++ [m], List.append_assoc _ _ _, first.works, first.fails,
        neverReopens_concat first.closed closed⟩

theorem Steady.buffers_of_failedBy {before since : List Move} (h : s.Steady)
    (failed : s.FailedBy e before m since) :
    (s.run (before ++ m :: since)).link.buffers = (s.run before).link.buffers := by
  have steady : (s.run before).Steady := h.run before
  have fails : ((s.run before).next m).link.failure? ≠ none := by
    rw [failed.fails]
    nofun
  have since := (steady.next m).arrested_run failed.fails since failed.closed
  rw [run_append]
  exact since.1.buffers.trans ((passage steady.toSound m).buffers_of_failing failed.works fails)

/-- From any session that a new link can come to, once the link has failed the failure lasts as
long as no unit is opened, however calls are nested. Nothing is asked of the channel, nothing is in
flight, and no byte or count changes. A request that is offered, or found at the head of its queue,
is told of the failure and left as it is otherwise. The first unit to be opened clears the failure.
It finds the bytes of before the failure, as the link held them when it worked for the last time. -/
theorem failure_lasts_until_reopened (config : Config) (ms : List Move) (e : Error)
    (failed : ((ofConfig config).run ms).link.result = .error e) (lasting : e.isTransient = false)
    (later : List Move) (closed : ((ofConfig config).run ms).NeverReopens later) :
    let s := (ofConfig config).run ms
    let s' := s.run later
    s'.link.result = .error e ∧
    (∀ channel issue, .issued channel issue ∉ s.history later) ∧
    s'.link.buffers = s.link.buffers ∧ s'.link.discards = s.link.discards ∧
    s'.link.inFlight = false ∧ s'.link.busy = false ∧
    (∀ r, (s'.advance (.call (.service r))).served = some { r with progress := .ready (.error e) } ∧
      (s'.advance (.call (.service r))).turn = .returned (.progress (.ready (.error e)))) ∧
    (∀ unit outer r, s'.stopped = .head unit :: outer → r.isPending = true →
      (s'.advance (.answer (some r))).served = some { r with progress := .ready (.error e) } ∧
      (s'.advance (.answer (some r))).turn = .demand (.complete unit (.error e))) ∧
    (∃ before m since, ms = before ++ m :: since ∧ (ofConfig config).FailedBy e before m since) ∧
    (∀ opening, s'.Reopens opening →
      (s'.next opening).link.result = .ok ∧ (s'.next opening).link.buffers = s.link.buffers) ∧
    ∀ before m since, ms = before ++ m :: since → (ofConfig config).FailedBy e before m since →
      let buffers := ((ofConfig config).run before).link.buffers
      s.link.buffers = buffers ∧
      ∀ opening, s'.Reopens opening → (s'.next opening).link.buffers = buffers := by
  intro s s'
  have steady : s.Steady := steady_run config ms
  have steady' : s'.Steady := steady.run later
  have failure : s.link.failure? = some e := Outcome.failure?_eq_some.mpr ⟨failed, lasting⟩
  obtain ⟨arrested, quiet⟩ := steady.arrested_run failure later closed
  have failed' : s'.link.failure? = some e := arrested.failure?_eq.trans failure
  have idle := steady'.idle_of_failure failed'
  have free := steady'.free idle
  have service := Link.service_failed free failed'
  have opened {opening : Move} (reopens : s'.Reopens opening) :
      (s'.next opening).link.result = .ok ∧ (s'.next opening).link.buffers = s.link.buffers := by
    obtain ⟨result, buffers⟩ := next_of_reopens reopens
    exact ⟨result, buffers.trans arrested.buffers⟩
  refine ⟨arrested.result.trans failed, quiet, arrested.buffers, arrested.discards, ?_,
    free, ?_, ?_, (steady_ofConfig config).exists_failing_move rfl ms failure,
    fun _ => opened, ?_⟩
  · rw [Link.inFlight, idle]
    rfl
  · intro r
    simp only [advance, Link.call, service, and_self]
  · intro unit outer r stopped pending
    have shown : (some r).filter Request.isPending = some r := Option.filter_some_pos pending
    simp only [advance, stopped, Link.resume, Link.offered, shown, service, and_self]
  · intro before m since split failedBy buffers
    have kept : ((ofConfig config).run ms).link.buffers = buffers :=
      split ▸ (steady_ofConfig config).buffers_of_failedBy failedBy
    exact ⟨kept, fun _ reopens => (opened reopens).2.trans kept⟩

/-- A write fails with its byte still staged. A wake pass then tells a request of it, and the byte is
there for the unit that is opened. -/
theorem failure_lasts_until_reopened_in_wake :
    let before : List Move :=
      [.call (.attach 0), .call (.openUnit .input), .call .runTask, .answer none,
        .call (.readComplete (.error .wrongTag)),
        .call (.service { direction := .write, buffer := [7] }), .call .runTask, .answer none]
    let fails : Move := .call (.writeComplete (.error .io))
    let later : List Move :=
      [.call (.attach 1), .call .runTask, .call (.writeComplete .ok),
        .answer (some { direction := .read, buffer := [0] }), .answer none]
    let w := (ofConfig {}).run before
    let s := (ofConfig {}).run (before ++ [fails])
    let opening : Move := .call (.openUnit .output)
    s.link.result = .error .io ∧ Error.io.isTransient = false ∧ s.NeverReopens later ∧
    (ofConfig {}).FailedBy .io before fails [] ∧ (s.run later).Reopens opening ∧
    (s.run later).link.result = .error .io ∧
    ((s.run later).next opening).link.result = .ok ∧
    ((s.run later).next opening).link.buffers = w.link.buffers ∧ w.link.buffers.staged = [7] := by
  intro before fails later w s opening
  have failed : s.link.result = .error .io := by decide +kernel
  have closed : s.NeverReopens later := by decide +kernel
  have failedBy : (ofConfig {}).FailedBy .io before fails [] :=
    ⟨by decide +kernel, by decide +kernel, trivial⟩
  have reopens : (s.run later).Reopens opening := by decide +kernel
  obtain ⟨result, -, -, -, -, -, -, -, -, opened, kept⟩ :=
    failure_lasts_until_reopened {} (before ++ [fails]) .io failed rfl later closed
  exact ⟨failed, rfl, closed, failedBy, reopens, result, (opened opening reopens).1,
    (kept before fails [] rfl failedBy).2 opening reopens, by decide +kernel⟩

end Session

end PolledLink
