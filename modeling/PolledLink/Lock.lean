/-! The two locks of a link. Taking one succeeds or fails at once, and nothing waits for a lock.
What holds a lock is a guard, which has no scope: a guard that is dropped without being released
leaves its lock held. -/

namespace PolledLink

inductive LockName
  | link
  | wake
  deriving DecidableEq

/-- Which of the locks are held. -/
structure Locks where
  link : Bool := false
  wake : Bool := false
  deriving DecidableEq

namespace Locks

def held (locks : Locks) : LockName → Bool
  | .link => locks.link
  | .wake => locks.wake

def set (locks : Locks) (name : LockName) (b : Bool) : Locks :=
  match name with
  | .link => { locks with link := b }
  | .wake => { locks with wake := b }

/-- Takes the lock unless it is held. -/
def acquire? (locks : Locks) (name : LockName) : Option Locks :=
  if locks.held name then none else some (locks.set name true)

/-- Harmless when the lock is free. -/
def release (locks : Locks) (name : LockName) : Locks := locks.set name false

@[simp] theorem held_set_self (locks : Locks) (name : LockName) (b : Bool) :
    (locks.set name b).held name = b := by cases name <;> rfl

theorem held_set_of_ne (locks : Locks) {name other : LockName} (b : Bool) (h : other ≠ name) :
    (locks.set name b).held other = locks.held other := by
  cases name <;> cases other <;> first | rfl | exact absurd rfl h

end Locks

/-- The locks with the guards that are alive, the newest first. -/
structure Custody where
  locks : Locks := {}
  guards : List LockName := []

/-- What the owner of the guards can do. -/
inductive Custody.Move
  | acquire (name : LockName)
  | release (name : LockName)
  | abandon (name : LockName)

namespace Custody

/-- Acquiring tells whether a guard was given, giving one up whether there was one. -/
def step (c : Custody) : Move → Bool × Custody
  | .acquire name =>
    match c.locks.acquire? name with
    | some locks => (true, ⟨locks, name :: c.guards⟩)
    | none => (false, c)
  | .release name =>
    if name ∈ c.guards then (true, ⟨c.locks.release name, c.guards.erase name⟩) else (false, c)
  | .abandon name =>
    if name ∈ c.guards then (true, { c with guards := c.guards.erase name }) else (false, c)

def run (c : Custody) : List Move → Custody
  | [] => c
  | move :: moves => (c.step move).2.run moves

end Custody

end PolledLink
