import PolledLink.Text.Combining
import PolledLink.Text.Invisible

/-! Text in double quotes, on one line, in which nothing is hidden. -/

namespace PolledLink.Quoted

/-- The letter that stands for a character behind a backslash. -/
def letter? (c : Char) : Option Char :=
  if c = '\x22' ∨ c = '\x5c' then some c
  else if c = '\n' then some 'n'
  else if c = '\r' then some 'r'
  else if c = '\t' then some 't'
  else if c.toNat = 0 then some '0'
  else none

/-- What would not show, or would show as part of the character before it, is given by number. -/
def escape (c : Char) : List Char :=
  match letter? c with
  | some letter => ['\x5c', letter]
  | none =>
    if isInvisible c || isCombining c then
      ['\x5c', 'u', '\x7b'] ++ Nat.toDigits 16 c.toNat ++ ['\x7d']
    else [c]

/-- A character stands for itself if it has no letter and neither table has it. -/
theorem escape_eq_self_iff (c : Char) :
    escape c = [c] ↔
      letter? c = none ∧ ∀ range ∈ Invisible.ranges ++ Combining.ranges,
        ¬ (range.1 ≤ c.toNat ∧ c.toNat ≤ range.2) := by
  have hidden : (isInvisible c || isCombining c) = true ↔
      ∃ range ∈ Invisible.ranges ++ Combining.ranges, range.1 ≤ c.toNat ∧ c.toNat ≤ range.2 := by
    simp only [Bool.or_eq_true, isInvisible_iff, isCombining_iff, List.mem_append, or_and_right,
      exists_or]
  unfold escape
  cases letter? c with
  | some letter => exact iff_of_false nofun (fun none => nomatch none.1)
  | none =>
    cases shows : isInvisible c || isCombining c with
    | true =>
      obtain ⟨range, mem, within⟩ := hidden.mp shows
      exact iff_of_false nofun fun apart => apart.2 range mem within
    | false =>
      refine iff_of_true rfl ⟨rfl, fun range mem within => ?_⟩
      exact absurd (shows.symm.trans (hidden.mpr ⟨range, mem, within⟩)) nofun

def encode (text : String) : String :=
  String.ofList (['\x22'] ++ text.toList.flatMap escape ++ ['\x22'])

end PolledLink.Quoted
