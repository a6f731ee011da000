import PolledLink.Proofs.WakePass

/-! What wake passes report. A request that no one else services is reported as complete once at most,
whatever the host shows to the passes and calls in the course of them. -/

namespace PolledLink

namespace WakeStep

/-- What the pass leaves a request as. -/
def left? : WakeStep → Option Request
  | served _ _ after => some after
  | _ => none

def reports : WakeStep → Bool
  | complete _ _ => true
  | _ => false

end WakeStep

namespace Session

variable {s : Session} {shown : Option Request} {steps : List WakeStep} {ds : List Demand}

/-- Only a request that was pending is reported, once, and it is not pending any more. -/
theorem WakeMove.reports_le {r : Request} (w : s.WakeMove (.answer (some r)) steps ds) :
    steps.countP WakeStep.reports + ((steps.findSome? WakeStep.left?).getD r).isPending.toNat ≤
      r.isPending.toNat := by
  have goes (unit : LinkUnit) : unit.onward.1.countP WakeStep.reports = 0 ∧
      unit.onward.1.findSome? WakeStep.left? = none := by
    cases unit <;> exact ⟨rfl, rfl⟩
  generalize hm : Move.answer (some r) = m at w
  cases w with
  | apart => exact Nat.le_of_eq (Nat.zero_add _)
  | begun calls =>
    subst hm
    nomatch calls
  | @skipped unit shown hs none =>
    obtain rfl := Move.answer.inj hm
    simp [List.findSome?_cons, WakeStep.reports, WakeStep.left?, goes unit]
  | @short unit r' hs pending told =>
    obtain rfl := Option.some.inj (Move.answer.inj hm)
    simp [List.findSome?_cons, WakeStep.reports, WakeStep.left?, goes unit, pending, Bool.toNat_le]
  | @finished unit r' o hs pending told =>
    obtain rfl := Option.some.inj (Move.answer.inj hm)
    have done : (s.link.service r).request.isPending = false := by
      rw [Request.isPending, (s.link.serves r).status told]
      rfl
    rw [pending]
    simp [List.countP_cons, List.findSome?_cons, WakeStep.reports, WakeStep.left?, done]
  | @completed unit o shown hs =>
    simp [goes unit]

end Session

/-- A session whose queued requests are told apart by the host, and are serviced by wake passes
alone. The host may show any of them at any time, also one that is complete. -/
structure Desk (ι : Type) where
  session : Session
  request : ι → Request

namespace Desk

variable {ι : Type} [DecidableEq ι]

inductive Act (ι : Type)
  | call (c : Call)
  /-- Answers the newest demand, with one of the requests if there is any to show. -/
  | answer (shown : Option ι)

def move (d : Desk ι) : Act ι → Session.Move
  | .call c => .call c
  | .answer shown => .answer (shown.map d.request)

def Act.shown? : Act ι → Option ι
  | call _ => none
  | answer shown => shown

def steps (d : Desk ι) (a : Act ι) : List WakeStep := d.session.wakeSteps (d.move a)

def act (d : Desk ι) (a : Act ι) : Desk ι where
  session := d.session.next (d.move a)
  request id :=
    if a.shown? = some id then ((d.steps a).findSome? WakeStep.left?).getD (d.request id)
    else d.request id

/-- How often the request is reported as complete. -/
def reports (d : Desk ι) (id : ι) : List (Act ι) → Nat
  | [] => 0
  | a :: as =>
    (if a.shown? = some id then (d.steps a).countP WakeStep.reports else 0) +
      (d.act a).reports id as

theorem reports_le {d : Desk ι} (h : d.session.Sound) (id : ι) (as : List (Act ι)) :
    d.reports id as ≤ (d.request id).isPending.toNat := by
  induction as generalizing d with
  | nil => exact Nat.zero_le _
  | cons a as ih =>
    have later := ih (d := d.act a) (h.next (d.move a))
    unfold reports
    by_cases ha : a.shown? = some id
    · obtain rfl : a = .answer (some id) := by
        cases a with
        | call c => nomatch ha
        | answer shown => exact congrArg Act.answer ha
      have once := (Session.wakeMove h (.answer (some (d.request id)))).reports_le
      have left : (d.act (.answer (some id))).request id =
          ((d.steps (.answer (some id))).findSome? WakeStep.left?).getD (d.request id) := if_pos rfl
      rw [left] at later
      rw [if_pos ha]
      exact Nat.le_trans (Nat.add_le_add_left later _) once
    · have same : (d.act a).request id = d.request id := if_neg ha
      rw [if_neg ha, Nat.zero_add, ← same]
      exact later

end Desk

namespace Session

/-- There is one wake pass at a time, whatever is called in the course of it, and the calls made
inside it leave the queues alone. Each pass visits the one unit and then the other, and the last one
of a run may be under way still. A request that only wake passes service is reported once at most. -/
theorem wake_passes_exclusive (config : Config) (ms : List Move) :
    let s := (ofConfig config).run ms
    s.passDemands.length = s.link.locks.wake.toNat ∧
      (s.stopped = [] → s.link.locks.wake = false) ∧
      (s.passDemands ≠ [] → ∀ c, (s.advance (.call c)).turn.wakeSteps = []) ∧
      (∀ d outer shown, s.stopped = d :: outer → d.wakes = false →
        (s.advance (.answer shown)).turn.wakeSteps = []) ∧
      (∃ (passes : List (List WakeStep)) (last : List WakeStep),
        (ofConfig config).wakeLog ms = passes.flatten ++ last ∧ (∀ pass ∈ passes, Pass pass) ∧
          Underway s.passDemands last) ∧
      ∀ {ι : Type} [DecidableEq ι] (request : ι → Request) (id : ι) (as : List (Desk.Act ι)),
        Desk.reports ⟨s, request⟩ id as ≤ 1 := by
  intro s
  have sound : s.Sound := (steady_run config ms).toSound
  have waking := sound.waking_passDemands
  refine ⟨?_, fun none => ?_, fun awake c => ?_, fun d outer shown hs starts => ?_, ?_, ?_⟩
  · generalize s.passDemands = ds at waking ⊢
    cases h : s.link.locks.wake with
    | false => rw [h] at waking; cases waking; rfl
    | true => rw [h] at waking; cases waking <;> rfl
  · apply sound.wake_free
    rw [passDemands, none]
    rfl
  · have none : s.wakeSteps (.call c) = [] := by
      have called := wakeMove sound (.call c)
      generalize s.wakeSteps (.call c) = steps at called ⊢
      generalize (s.next (.call c)).passDemands = ds at called
      cases called with
      | apart => rfl
      | begun calls asleep => exact absurd asleep awake
    exact none
  · exact (wakeMove_issue hs starts shown).1
  · exact wakeLog_passes (sound_ofConfig config) .none ms
  · intro ι _ request id as
    exact Nat.le_trans (Desk.reports_le sound id as) (Bool.toNat_le _)

/-- An operation is started inside a wake pass, by a host that opens the link anew there. -/
example :
    ((ofConfig {}).run
      [.call .runTask, .call .runTask, .call (.attach 0), .call (.openUnit .input),
        .call .runTask]).stopped = [.issueRead 0, .head .input] := by
  decide +kernel

end Session

end PolledLink
