/-! When the periodic task runs. Every tick counts down, and the task is due when the count expires.
It is reloaded with the interval at that moment, and a nudge shortens it to a single tick. -/

namespace PolledLink

structure Schedule where
  countdown : Nat := 0
  interval : Nat := 0
  installed : Bool := false
  deriving DecidableEq

namespace Schedule

/-- Starts the countdown, unless it is running already. -/
def install (s : Schedule) : Bool × Schedule :=
  if s.installed then (false, s)
  else (true, { s with countdown := s.interval, installed := true })

/-- Takes effect when the countdown is next reloaded. -/
def setInterval (s : Schedule) (ticks : Nat) : Schedule := { s with interval := max ticks 1 }

/-- Makes the next tick due. -/
def nudge (s : Schedule) : Schedule := { s with countdown := 1 }

def tick (s : Schedule) : Bool × Schedule :=
  if s.installed then
    if s.countdown ≤ 1 then (true, { s with countdown := max s.interval 1 })
    else (false, { s with countdown := s.countdown - 1 })
  else (false, s)

/-- Ticks `count` times and tells which of the ticks were due, counting from `first`. -/
def ticks (s : Schedule) (first : Nat) : Nat → List Nat × Schedule
  | 0 => ([], s)
  | count + 1 =>
    let (due, s) := s.tick
    let (later, s) := s.ticks (first + 1) count
    (if due then first :: later else later, s)

end Schedule

end PolledLink
