import PolledLink.Error
import PolledLink.Bytes

/-! Requests of the host. Each waits in the queue of one of the two units, and is done once its
progress is ready. -/

namespace PolledLink

inductive LinkUnit
  | input
  | output
  deriving DecidableEq

namespace LinkUnit

/-- In the order in which a wake pass visits them. -/
def all : List LinkUnit := [input, output]

def name : LinkUnit → String
  | input => "Input"
  | output => "Output"

end LinkUnit

structure PerUnit (α : Type) where
  input : α
  output : α
  deriving DecidableEq

namespace PerUnit

variable {α : Type}

def get (p : PerUnit α) : LinkUnit → α
  | .input => p.input
  | .output => p.output

def set (p : PerUnit α) (unit : LinkUnit) (a : α) : PerUnit α :=
  match unit with
  | .input => { p with input := a }
  | .output => { p with output := a }

@[simp] theorem get_set_self (p : PerUnit α) (unit : LinkUnit) (a : α) :
    (p.set unit a).get unit = a := by cases unit <;> rfl

theorem get_set_of_ne (p : PerUnit α) {unit other : LinkUnit} (a : α) (h : other ≠ unit) :
    (p.set unit a).get other = p.get other := by
  cases unit <;> cases other <;> first | rfl | exact absurd rfl h

end PerUnit

inductive Direction
  | read
  | write
  deriving DecidableEq

namespace Direction

def name : Direction → String
  | read => "Read"
  | write => "Write"

def verb : Direction → String
  | read => "read"
  | write => "write"

end Direction

structure Request where
  direction : Direction
  buffer : Bytes
  processed : Nat := 0
  progress : Progress := .pending
  deriving DecidableEq

namespace Request

def requested (r : Request) : Nat := r.buffer.length

def isPending (r : Request) : Bool := r.progress = .pending

/-- The part of the buffer that has not been moved yet. -/
def rest (r : Request) : Bytes := r.buffer.drop r.processed

theorem length_rest (r : Request) : r.rest.length = r.requested - r.processed := List.length_drop

end Request

end PolledLink
