import PolledLink.Link.Session

/-! The host of a session. It makes the moves, and it answers demands, for which it may do whatever
its own effects allow, such as making further calls. A call is then carried through by answering
its demands until it returns. -/

namespace PolledLink

structure Host (m : Type → Type) where
  /-- Makes a move of the session. -/
  move : Session.Move → m Advance
  /-- Does what is demanded. The answer counts only where a request is to be shown. -/
  answer : Demand → m (Option Request)
  /-- Puts the request last shown back, as the link leaves it. -/
  putBack : LinkUnit → Request → m Unit

namespace Host

variable {m : Type → Type} [Monad m]

/-- Answers up to `bound` demands. -/
def settle (h : Host m) : Nat → Turn → m Value
  | _, .returned v => pure v
  | 0, .demand _ => pure .nothing
  | bound + 1, .demand d => do
    let a ← h.move (.answer (← h.answer d))
    match d, a.served with
    | .head unit, some r => h.putBack unit r
    | _, _ => pure ()
    h.settle bound a.turn

/-- Carries a call through. Gives the request that was passed in with it, as the call leaves it. -/
def invoke (h : Host m) (c : Call) : m (Value × Option Request) := do
  let a ← h.move (.call c)
  let v ← h.settle Demand.maxPerCall a.turn
  pure (v, a.served)

/-- Carries through a call that has an outcome. -/
def outcome (h : Host m) (c : Call) : m Outcome := do
  match (← h.invoke c).1 with
  | .outcome o => pure o
  | _ => pure .ok

def run (h : Host m) (c : Call) : m Unit := do
  let _ ← h.invoke c

end Host

end PolledLink
