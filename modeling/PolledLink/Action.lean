/-! What the periodic task does when it runs. Each run performs at most one operation, chosen from
what the link holds at that moment. -/

namespace PolledLink

inductive Action
  | flush
  | poll
  | wake
  deriving DecidableEq

namespace Action

def name : Action → String
  | flush => "Flush"
  | poll => "Poll"
  | wake => "Wake"

/-- A failed link only wakes requests, so that they can report it. Staged bytes go out before
anything is read, and a reply is polled for once the last one is used up. While a wake is scheduled
no operation starts, so that received bytes are offered first. -/
def next (failed : Bool) (staged undelivered : Nat) (wakeScheduled : Bool) : Action :=
  if failed then wake
  else if 0 < staged ∧ wakeScheduled = false then flush
  else if undelivered = 0 ∧ wakeScheduled = false then poll
  else wake

theorem next_eq_flush {failed wakeScheduled : Bool} {staged undelivered : Nat} :
    next failed staged undelivered wakeScheduled = flush ↔
      failed = false ∧ 0 < staged ∧ wakeScheduled = false := by
  unfold next
  by_cases hs : 0 < staged <;> by_cases hu : undelivered = 0 <;>
    cases failed <;> cases wakeScheduled <;> simp [hs, hu]

theorem next_eq_poll {failed wakeScheduled : Bool} {staged undelivered : Nat} :
    next failed staged undelivered wakeScheduled = poll ↔
      failed = false ∧ staged = 0 ∧ undelivered = 0 ∧ wakeScheduled = false := by
  unfold next
  rcases Nat.eq_zero_or_pos staged with hs | hs <;> by_cases hu : undelivered = 0 <;>
    cases failed <;> cases wakeScheduled <;> simp [hs, hu]
  all_goals omega

end Action

end PolledLink
