/-! Sets of code points as closed ranges, ascending and apart. A property of characters is given by
such a list. -/

namespace PolledLink

abbrev CodeRange := Nat × Nat

namespace CodeRange

/-- Whether every range begins after `below` ends, and no two of them touch. -/
def ascendingFrom : Nat → List CodeRange → Bool
  | _, [] => true
  | below, (first, last) :: rest => below ≤ first && first ≤ last && ascendingFrom (last + 2) rest

def ascending (ranges : List CodeRange) : Bool := ascendingFrom 0 ranges

/-- Looks no further than the first range that begins later. -/
def contains : List CodeRange → Nat → Bool
  | [], _ => false
  | (first, last) :: rest, n => first ≤ n && (n ≤ last || contains rest n)

theorem le_of_ascendingFrom {below : Nat} {ranges : List CodeRange}
    (h : ascendingFrom below ranges = true) : ∀ r ∈ ranges, below ≤ r.1 := by
  induction ranges generalizing below with
  | nil => simp
  | cons range rest ih =>
    obtain ⟨first, last⟩ := range
    simp only [ascendingFrom, Bool.and_eq_true, decide_eq_true_eq] at h
    obtain ⟨⟨hfirst, hlast⟩, hrest⟩ := h
    intro r hr
    rcases List.mem_cons.mp hr with rfl | hr
    · exact hfirst
    · have := ih hrest r hr
      omega

theorem contains_of_ascendingFrom {below : Nat} {ranges : List CodeRange}
    (h : ascendingFrom below ranges = true) (n : Nat) :
    contains ranges n = true ↔ ∃ r ∈ ranges, r.1 ≤ n ∧ n ≤ r.2 := by
  induction ranges generalizing below with
  | nil => simp [contains]
  | cons range rest ih =>
    obtain ⟨first, last⟩ := range
    simp only [ascendingFrom, Bool.and_eq_true, decide_eq_true_eq] at h
    obtain ⟨⟨_, hlast⟩, hrest⟩ := h
    simp only [contains, Bool.and_eq_true, Bool.or_eq_true, decide_eq_true_eq, ih hrest,
      List.mem_cons, exists_eq_or_imp]
    constructor
    · rintro ⟨hn, hin | later⟩
      · exact Or.inl ⟨hn, hin⟩
      · exact Or.inr later
    · rintro (⟨hn, hin⟩ | ⟨r, hr, hn, hin⟩)
      · exact ⟨hn, Or.inl hin⟩
      · have := le_of_ascendingFrom hrest r hr
        exact ⟨by omega, Or.inr ⟨r, hr, hn, hin⟩⟩

end CodeRange

end PolledLink
