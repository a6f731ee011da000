import PolledLink.Link.Basic
import PolledLink.Note

/-! A call into a link cannot always finish by itself: it may have to start an operation on the
channel, or to look at the queues of the host. It then stops with a demand. Whoever answers the
demand may first make other calls, from inside the channel or the queue as it were. The demand is
all that the stopped call has to remember. -/

namespace PolledLink

inductive Demand
  /-- Start sending the frame, in which `count` bytes are staged. -/
  | issueWrite (channel : ChannelId) (frame : Frame) (count : Nat)
  /-- Start receiving a frame. -/
  | issueRead (channel : ChannelId)
  /-- Show the oldest request of the unit. -/
  | head (unit : LinkUnit)
  /-- The request last shown is complete. -/
  | complete (unit : LinkUnit) (outcome : Outcome)
  deriving DecidableEq

namespace Demand

/-- How many further demands a call can make after this one. -/
def remaining : Demand → Nat
  | head .input => 3
  | complete .input _ => 2
  | head .output => 1
  | complete .output _ => 0
  | issueWrite _ _ _ => 1
  | issueRead _ => 0

/-- No call makes more demands than this. -/
def maxPerCall : Nat := 4

theorem remaining_lt (d : Demand) : d.remaining < maxPerCall := by
  cases d with
  | head unit => cases unit <;> simp [remaining, maxPerCall]
  | complete unit o => cases unit <;> simp [remaining, maxPerCall]
  | _ => simp [remaining, maxPerCall]

end Demand

/-- What a call gives back to its caller. -/
inductive Value
  | nothing
  | outcome (o : Outcome)
  | progress (p : Progress)
  deriving DecidableEq

inductive Turn
  | demand (d : Demand)
  | returned (v : Value)
  deriving DecidableEq

/-- Where a call stands once it has gone as far as it can by itself. -/
structure Advance where
  link : Link
  notes : List Note
  /-- The request that was shown or passed in, as the call leaves it. -/
  served : Option Request
  turn : Turn

namespace Advance

def done (link : Link) (notes : List Note) : Advance := ⟨link, notes, none, .returned .nothing⟩

def demand (link : Link) (notes : List Note) (d : Demand) : Advance :=
  ⟨link, notes, none, .demand d⟩

/-- The same, after earlier notes. -/
def after (notes : List Note) (a : Advance) : Advance := { a with notes := notes ++ a.notes }

end Advance

end PolledLink
