import PolledLink.Proofs.Rest
import PolledLink.Proofs.Setup

/-! The pace of a link. Once the periodic task is installed no move stops it again, so that each tick
either runs the task or brings the next run nearer. -/

namespace PolledLink

/-- The periodic task is installed. -/
def Link.Paced (l : Link) : Prop := l.schedule.installed = true

theorem Link.Paced.service {l : Link} (h : l.Paced) (r : Request) : (l.service r).link.Paced := by
  rw [Paced, (l.tends_service r).schedule]
  exact Schedule.installed_useAll h _

/-- Every move keeps the task going. -/
theorem Session.paced_next {s : Session} (h : s.link.Paced) (m : Move) :
    (s.next m).link.Paced := by
  rw [Link.Paced, s.schedule_next m]
  exact Schedule.installed_useAll h _

namespace Deployment

variable {σ π τ : Type} {q : Queueing σ} {c : Channel π} {P : Session → Prop}

/-- What every move keeps is kept when a call is carried through. -/
theorem keeps_settle (step : ∀ {s : Session} m, P s → P (s.next m)) {bound : Nat} {t : Turn}
    {w : Deployment σ π τ} (h : P w.session) : P ((host q c).settle bound t w).2.session := by
  refine settle_keeps q c (P := fun w => P w.session) ?_ bound t h
  intro d w h
  obtain ⟨queues, responds⟩ := respond_snd q c d w
  rw [responds]
  exact step _ h

theorem keeps_invoke (step : ∀ {s : Session} m, P s → P (s.next m)) {w : Deployment σ π τ}
    (h : P w.session) (call : Call) : P ((host q c).invoke call w).2.session := by
  rw [invoke_eq]
  exact keeps_settle step (w := (w.move (.call call)).2) (step (.call call) h)

theorem keeps_carryOut {f : FarEnd τ} (step : ∀ {s : Session} m, P s → P (s.next m))
    {w : Deployment σ (List Issue) τ} (h : P w.session) (op : Issue) :
    P (carryOut q f op w).2.session := by
  cases op with
  | write frame =>
    rw [carryOut_write]
    apply keeps_invoke step
    exact h
  | read =>
    rw [carryOut_read]
    apply keeps_invoke step
    exact h

theorem keeps_serve {f : FarEnd τ} (step : ∀ {s : Session} m, P s → P (s.next m)) {bound : Nat}
    {w : Deployment σ (List Issue) τ} (h : P w.session) : P (serve q f bound w).2.session := by
  refine serve_keeps (P := fun w => P w.session) ?_ bound h
  intro w op ops _ h
  apply keeps_carryOut step
  exact h

theorem keeps_round {f : FarEnd τ} (step : ∀ {s : Session} m, P s → P (s.next m))
    {w : Deployment σ (List Issue) τ} (h : P w.session) (call : Call) :
    P (round q f call w).2.session := keeps_serve step (keeps_invoke step h call)

end Deployment

end PolledLink
