import PolledLink.Proofs.Performing

/-! A runner does for a link what a plain channel does. Whatever the host does between the steps,
and however the operations go, the link and its queues come to stand as they would if every
operation had its outcome delivered as soon as the link had asked for it. -/

namespace PolledLink

variable {σ τ ε : Type}

/-- What the host of a runner does, from one step to the next. -/
inductive Act (σ : Type)
  /-- Sets up a runner, with a frame buffer of its own. -/
  | engage
  | openUnit (unit : LinkUnit)
  | closeUnit (unit : LinkUnit)
  | setPollInterval (ticks : Nat)
  | tick
  | runTask
  | service (request : Request)
  | requeue (change : σ → σ)
  | step

structure Console (σ : Type) (m : Type → Type) where
  invoke : Call → m (Value × Option Request)
  /-- Clears the frame buffer. -/
  renew : m Unit
  requeue : (σ → σ) → m Unit
  step : m Outcome

namespace Console

variable {m : Type → Type} [Monad m]

/-- Gives what the host is told, with the request that it has passed in. -/
def act (c : Console σ m) : Act σ → m (Value × Option Request)
  | .engage => do
    let told ← c.invoke (.attach 0)
    if told.1 = .outcome .ok then c.renew
    pure told
  | .openUnit unit => c.invoke (.openUnit unit)
  | .closeUnit unit => c.invoke (.closeUnit unit)
  | .setPollInterval ticks => c.invoke (.setPollInterval ticks)
  | .tick => c.invoke .onTimer
  | .runTask => c.invoke .runTask
  | .service r => c.invoke (.service r)
  | .requeue change => do
    c.requeue change
    pure (.nothing, none)
  | .step => do pure (.outcome (← c.step), none)

def run (c : Console σ m) : List (Act σ) → m (List (Value × Option Request))
  | [] => pure []
  | a :: acts => do
    let told ← c.act a
    let later ← c.run acts
    pure (told :: later)

end Console

/-- A deployment with the frame buffer of its runner. -/
structure Rig (σ τ : Type) where
  site : Deployment σ Mailbox τ
  buffer : Frame := Block.zero frameLength

namespace Rig

def ofConfig (config : Config) (queues : σ) (far : τ) : Rig σ τ where
  site := { session := .ofConfig config, queues, channel := {}, far }

def onWire (rig : Rig σ τ) : Deployment σ (List Issue) (Frame × τ) := rig.site.onWire rig.buffer

end Rig

namespace Console

open Deployment

variable (q : Queueing σ) (t : Carrier τ)

def driven (bound : Nat) : Console σ (StateM (Rig σ τ)) where
  invoke c rig :=
    let (told, site) := (host q .mailbox).invoke c rig.site
    (told, { rig with site })
  renew := modify fun rig => { rig with buffer := Block.zero frameLength }
  requeue change :=
    modify fun rig => { rig with site := { rig.site with queues := change rig.site.queues } }
  step rig :=
    let ((o, buffer), site) := (runner q t).step bound rig.buffer rig.site
    (o, { site, buffer })

/-- The host of a link on a plain channel. A step is a tick, after which each operation that the
link asks for is carried out and its outcome delivered, until none is outstanding. -/
def plain : Console σ (StateM (Deployment σ (List Issue) (Frame × τ))) where
  invoke := (host q .wire).invoke
  renew := modify fun w => { w with far := (Block.zero frameLength, w.far.2) }
  requeue change := modify fun w => { w with queues := change w.queues }
  step w :=
    let (log, w) := Deployment.round q t.farEnd .onTimer w
    (.first (log.map Prod.snd), w)

variable {q t} {rig : Rig σ τ}

/-- No call is being carried through, and no step is being made. -/
structure Ready (rig : Rig σ τ) : Prop where
  atRest : rig.onWire.AtRest
  whole : rig.site.channel.Whole

theorem invoke_plain {c : Call} (h : Ready rig) (hc : c.completes = false) (bound : Nat) :
    (plain q t).invoke c rig.onWire =
        (((driven q t bound).invoke c rig).1, ((driven q t bound).invoke c rig).2.onWire) ∧
      Ready ((driven q t bound).invoke c rig).2 := by
  have same := invoke_onWire (q := q) (h.atRest.move hc)
  have rest := h.atRest.invoke (q := q) hc
  rw [show (host q .wire).invoke c rig.onWire = _ from same] at rest
  exact ⟨same, rest, whole_invoke c h.whole⟩

theorem step_onWire (h : Ready rig) (bound : Nat) :
    (plain q t).step rig.onWire =
        (((driven q t (bound + 3)).step rig).1, ((driven q t (bound + 3)).step rig).2.onWire) ∧
      Ready ((driven q t (bound + 3)).step rig).2 := by
  obtain ⟨ticks, ready⟩ := invoke_plain (q := q) (t := t) h (c := .onTimer) rfl bound
  let ticked : Deployment σ Mailbox τ := ((host q .mailbox).invoke .onTimer rig.site).2
  have ticks : ((host q .wire).run .onTimer rig.onWire).2 = ticked.onWire rig.buffer :=
    congrArg Prod.snd ticks
  have rest : (ticked.onWire rig.buffer).AtRest := ready.atRest
  obtain ⟨outcome, left, whole⟩ :=
    perform_onWire (q := q) (t := t) (bound + 3) rest ready.whole .ok
  -- the runner is ready for more than there is
  obtain ⟨all, -, -⟩ := rest.serve_all (q := q) (f := t.farEnd) (bound + 1)
  have served := rest.serve (q := q) (f := t.farEnd) (bound + 3)
  rw [← left] at served
  rw [show bound + 3 = bound + 1 + 2 from rfl, all] at outcome left
  refine ⟨?_, served, whole⟩
  simp only [plain, Deployment.round, ticks]
  exact Prod.ext outcome.symm left.symm

theorem act_onWire (h : Ready rig) (bound : Nat) (a : Act σ) :
    (plain q t).act a rig.onWire =
        (((driven q t (bound + 3)).act a rig).1, ((driven q t (bound + 3)).act a rig).2.onWire) ∧
      Ready ((driven q t (bound + 3)).act a rig).2 := by
  cases a with
  | engage =>
    obtain ⟨same, ready⟩ := invoke_plain (q := q) (t := t) h (c := .attach 0) rfl (bound + 3)
    simp only [act, bind, StateT.bind, same]
    generalize (driven q t (bound + 3)).invoke (.attach 0) rig = ended at ready
    obtain ⟨told, rig⟩ := ended
    by_cases ok : told.1 = .outcome .ok
    · simp only [if_pos ok]
      exact ⟨rfl, ⟨ready.atRest.sound, ready.atRest.stopped, ready.atRest.wired,
        ready.atRest.accounts⟩, ready.whole⟩
    · simp only [if_neg ok]
      exact ⟨rfl, ready⟩
  | openUnit unit => exact invoke_plain h rfl _
  | closeUnit unit => exact invoke_plain h rfl _
  | setPollInterval ticks => exact invoke_plain h rfl _
  | tick => exact invoke_plain h rfl _
  | runTask => exact invoke_plain h rfl _
  | service r => exact invoke_plain h rfl _
  | requeue change =>
    exact ⟨rfl, ⟨h.atRest.sound, h.atRest.stopped, h.atRest.wired, h.atRest.accounts⟩, h.whole⟩
  | step =>
    obtain ⟨same, ready⟩ := step_onWire (q := q) (t := t) h bound
    refine ⟨?_, ready⟩
    simp only [act, bind, StateT.bind, same]
    rfl

theorem run_onWire (h : Ready rig) (bound : Nat) (acts : List (Act σ)) :
    (plain q t).run acts rig.onWire =
        (((driven q t (bound + 3)).run acts rig).1,
          ((driven q t (bound + 3)).run acts rig).2.onWire) ∧
      Ready ((driven q t (bound + 3)).run acts rig).2 := by
  induction acts generalizing rig with
  | nil => exact ⟨rfl, h⟩
  | cons a acts ih =>
    obtain ⟨same, ready⟩ := act_onWire (q := q) (t := t) h bound a
    obtain ⟨later, ready⟩ := ih ready
    refine ⟨?_, ready⟩
    simp only [run, bind, StateT.bind, same, later]
    rfl

theorem ready_ofConfig (config : Config) (queues : σ) (far : τ) :
    Ready (.ofConfig config queues far) :=
  ⟨⟨Session.sound_ofConfig config, rfl, .idle, rfl⟩, nofun⟩

end Console

/-- Take any run of a new link that is driven by a runner, with any queues and any carrier, and
then one step more. On a plain channel the host would have been told the same, and the link and the
queues would be left the same, if the step were a tick with the outcome of each operation delivered
at once. What the mailbox was asked for is done, or is in it still, and every write was of the very
bytes of its frame. However many operations a step is ready for, it ends with a write and a read at
the most, and nothing is left to do. Its outcome is the first error of theirs. Whatever fails on a
serial line counts as a failure of the transport. -/
theorem Runner.refines_plain_channel (config : Config) (q : Queueing σ) (t : Carrier τ)
    (queues : σ) (far : τ) (bound : Nat) (acts : List (Act σ)) :
    let start : Rig σ τ := .ofConfig config queues far
    let (told, rig) := (Console.driven q t (bound + 3)).run acts start
    let (outcome, stepped) := (Console.driven q t (bound + 3)).step rig
    let (log, rounded) := Deployment.round q t.farEnd .onTimer rig.onWire
    (Console.plain q t).run acts start.onWire = (told, rig.onWire) ∧
    rig.site.asked.map Issue.carried =
      rig.site.done ++ rig.site.channel.contents.map Issue.carried ∧
    stepped.onWire = rounded ∧
    outcome = .first (log.map Prod.snd) ∧
    stepped.site.done = rig.site.done ++ log.map (fun entry => entry.1.carried) ∧
    Deployment.Burst (log.map Prod.fst) ∧
    stepped.site.channel.operation = none ∧ stepped.site.session.link.inFlight = false ∧
    (∀ (ε : Type) (s : Serial ε τ), t = s.carrier → ∀ rest e,
      ((∃ frame, (t.farEnd.write frame rest).1 = .error e) ∨ (t.farEnd.read rest).1 = .error e) →
        e = .io) := by
  intro start
  obtain ⟨same, ready⟩ :=
    Console.run_onWire (q := q) (t := t) (Console.ready_ofConfig config queues far) bound acts
  generalize (Console.driven q t (bound + 3)).run acts start = ran at same ready ⊢
  obtain ⟨told, rig⟩ := ran
  dsimp only at same ready ⊢
  obtain ⟨step, -⟩ := Console.step_onWire (q := q) (t := t) ready bound
  obtain ⟨rest, empty, burst, done⟩ :=
    ready.atRest.round (q := q) (f := t.farEnd) (c := .onTimer) rfl
  have step : (Outcome.first ((Deployment.round q t.farEnd .onTimer rig.onWire).1.map Prod.snd),
      (Deployment.round q t.farEnd .onTimer rig.onWire).2) = _ := step
  generalize (Console.driven q t (bound + 3)).step rig = stepped at step ⊢
  generalize Deployment.round q t.farEnd .onTimer rig.onWire = rounded
    at step rest empty burst done ⊢
  obtain ⟨outcome, stepped⟩ := stepped
  obtain ⟨log, rounded⟩ := rounded
  obtain ⟨first, rfl⟩ := Prod.mk.inj step
  have idle := rest.operation_of_channel empty
  refine ⟨same, ready.atRest.accounts, rfl, first.symm, done, burst, ?_, ?_, ?_⟩
  · exact Mailbox.contents_eq_nil.mp empty
  · exact (congrArg (· != .idle) idle).trans rfl
  · rintro ε s rfl rest e failed
    exact s.farEnd_error rest failed

end PolledLink
