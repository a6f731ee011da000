import PolledLink.Link.Basic
import PolledLink.Note

/-! Attaching a channel to a link, and opening and closing its units. None of this touches the bytes
that the link holds. -/

namespace PolledLink.Link

/-- Refused while the link lock is held. -/
def attach (l : Link) (channel : ChannelId) : Outcome × Link × List Note :=
  match l.locks.acquire? .link with
  | none => (.error .busy, l, [])
  | some locks =>
    (.ok, { l with locks, channel := some channel, configured := true }.unlock, [.attached])

/-- Opening any unit clears a failure, and starts the periodic task the first time. -/
def openUnit (l : Link) (unit : LinkUnit) : Outcome × Link × List Note :=
  if l.configured then
    let paced :=
      if l.schedule.interval = 0 then l.schedule.setInterval l.config.pollInterval else l.schedule
    let (started, schedule) := paced.install
    let startNotes := if started then [.taskStarted schedule.interval] else []
    let openNotes := if l.isOpen.get unit then [] else [.opened unit]
    (.ok, { l with result := .ok, discards := 0, schedule, isOpen := l.isOpen.set unit true },
      startNotes ++ openNotes)
  else (.error .notConfigured, l, [.openedUnattached unit])

def closeUnit (l : Link) (unit : LinkUnit) : Link × List Note :=
  ({ l with isOpen := l.isOpen.set unit false }, [.closed unit])

def setPollInterval (l : Link) (ticks : Nat) : Link :=
  { l with schedule := l.schedule.setInterval ticks }

end PolledLink.Link
