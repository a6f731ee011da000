import PolledLink.Proofs.Moves

/-! Completions that match no operation. The link takes note of such a completion and is left as it
was, so that a run may have any number of them put in without a difference to anything else. -/

namespace PolledLink.Session

/-- A completion for which no operation is outstanding, or that comes a second time. -/
def Stray (s : Session) : Move → Prop
  | .call (.writeComplete _) => s.link.operation ≠ .writing ∧ s.link.operation ≠ .issuingWrite
  | .call (.readComplete _) => s.link.operation ≠ .reading ∧ s.link.operation ≠ .issuingRead
  | _ => False

instance (s : Session) : (m : Move) → Decidable (s.Stray m)
  | .call (.writeComplete _) | .call (.readComplete _) => inferInstanceAs (Decidable (_ ∧ _))
  | .call (.attach _) | .call (.openUnit _) | .call (.closeUnit _) | .call (.setPollInterval _)
  | .call .onTimer | .call .runTask | .call (.service _) | .answer _ => .isFalse id

/-- The second run is the first with stray completions put in. -/
inductive Padded : Session → List Move → List Move → Prop
  | nil (s : Session) : Padded s [] []
  | kept {s : Session} {m : Move} {ms padded : List Move} (rest : Padded (s.next m) ms padded) :
    Padded s (m :: ms) (m :: padded)
  | put {s : Session} {m : Move} {ms padded : List Move} (stray : s.Stray m)
    (rest : Padded (s.next m) ms padded) : Padded s ms (m :: padded)

/-- What each of the moves comes to that is not a stray completion, with the link as it is then. -/
def proceedings (s : Session) : List Move → List Advance
  | [] => []
  | m :: ms =>
    if s.Stray m then (s.next m).proceedings ms else s.advance m :: (s.next m).proceedings ms

variable {s : Session} {m : Move} {ms padded : List Move}

theorem advance_strayWrite (idle : s.link.operation ≠ .writing)
    (settled : s.link.operation ≠ .issuingWrite) (o : Outcome) :
    s.advance (.call (.writeComplete o)) = .done s.link [.strayWrite] := by
  simp only [advance, Link.call, Link.writeComplete]

theorem advance_strayRead (idle : s.link.operation ≠ .reading)
    (settled : s.link.operation ≠ .issuingRead) (received : Link.Received) :
    s.advance (.call (.readComplete received)) =
      ⟨s.link, [.strayRead], none, .returned (.outcome .ok)⟩ := by
  simp only [advance, Link.call, Link.readComplete]

/-- The call returns at once, and leaves nothing behind but a note. -/
theorem Stray.advance_eq (stray : s.Stray m) :
    ∃ notes v, s.advance m = ⟨s.link, notes, none, .returned v⟩ := by
  unfold Stray at stray
  split at stray
  · exact ⟨_, _, advance_strayWrite stray.1 stray.2 _⟩
  · exact ⟨_, _, advance_strayRead stray.1 stray.2 _⟩
  · exact stray.elim

theorem Stray.completions_eq (stray : s.Stray m) : s.completions m = [] := by
  unfold Stray at stray
  split at stray
  · exact if_neg stray.1
  · exact if_neg stray.1
  · exact stray.elim

theorem Stray.events_eq (stray : s.Stray m) : s.events m = [] := by
  obtain ⟨notes, v, returns⟩ := stray.advance_eq
  exact events_eq_issues returns stray.completions_eq rfl

theorem Stray.next_eq (stray : s.Stray m) : s.next m = s := by
  obtain ⟨notes, v, returns⟩ := stray.advance_eq
  cases m with
  | call c =>
    simp only [next, step, returns]
    rfl
  | answer shown => exact stray.elim

theorem Padded.run_eq (h : s.Padded ms padded) : s.run padded = s.run ms := by
  induction h with
  | nil s => rfl
  | kept rest ih => exact ih
  | put stray rest ih =>
    rw [run, ih, stray.next_eq]

theorem Padded.history_eq (h : s.Padded ms padded) : s.history padded = s.history ms := by
  induction h with
  | nil s => rfl
  | kept rest ih => exact congrArg (_ ++ ·) ih
  | put stray rest ih =>
    rw [history, stray.events_eq, ih, stray.next_eq]
    rfl

theorem Padded.proceedings_eq (h : s.Padded ms padded) :
    s.proceedings padded = s.proceedings ms := by
  induction h with
  | nil s => rfl
  | kept rest ih => rw [proceedings, proceedings, ih]
  | put stray rest ih => rw [proceedings, if_pos stray, ih, stray.next_eq]

/-- Whatever state a session is in, and whatever calls are stopped in it, a completion that matches no
operation changes nothing and asks for nothing, and that of a read is told that all is well, even if
it brings an error. Hence a run that has any number of them put in ends as it does without them. The
same operations are asked for, the same requests are served, and all other moves come to the same. -/
theorem strays_change_nothing (s : Session) :
    (∀ o, s.link.operation ≠ .writing ∧ s.link.operation ≠ .issuingWrite →
      s.next (.call (.writeComplete o)) = s ∧ s.events (.call (.writeComplete o)) = [] ∧
      (s.advance (.call (.writeComplete o))).served = none ∧
      (s.advance (.call (.writeComplete o))).turn = .returned .nothing) ∧
    (∀ received, s.link.operation ≠ .reading ∧ s.link.operation ≠ .issuingRead →
      s.next (.call (.readComplete received)) = s ∧
      s.events (.call (.readComplete received)) = [] ∧
      (s.advance (.call (.readComplete received))).served = none ∧
      (s.advance (.call (.readComplete received))).turn = .returned (.outcome .ok)) ∧
    ∀ ms padded, s.Padded ms padded →
      s.run padded = s.run ms ∧ s.history padded = s.history ms ∧
      s.proceedings padded = s.proceedings ms := by
  refine ⟨fun o other => ?_, fun received other => ?_, fun ms padded h => ?_⟩
  · have stray : s.Stray (.call (.writeComplete o)) := other
    rw [stray.next_eq, stray.events_eq, advance_strayWrite other.1 other.2]
    exact ⟨rfl, rfl, rfl, rfl⟩
  · have stray : s.Stray (.call (.readComplete received)) := other
    rw [stray.next_eq, stray.events_eq, advance_strayRead other.1 other.2]
    exact ⟨rfl, rfl, rfl, rfl⟩
  · exact ⟨h.run_eq, h.history_eq, h.proceedings_eq⟩

/-- A write is complete twice, and again inside the poll that it starts, and a read before either. -/
theorem strays_change_nothing_in_flight :
    let s := ofConfig {}
    let ms : List Move :=
      [.call (.attach 0), .call (.service { direction := .write, buffer := [7] }), .call .runTask,
        .call (.writeComplete .ok), .answer none, .answer none]
    let padded : List Move :=
      [.call (.attach 0), .call (.service { direction := .write, buffer := [7] }), .call .runTask,
        .call (.readComplete (.error .io)), .call (.writeComplete .ok),
        .call (.writeComplete (.error .io)), .answer none, .call (.writeComplete (.error .io)),
        .answer none]
    s.Padded ms padded ∧ s.run padded = s.run ms := by
  intro s ms padded
  have put : s.Padded ms padded :=
    .kept <| .kept <| .kept <| .put (by decide +kernel) <| .kept <| .put (by decide +kernel) <|
      .kept <| .put (by decide +kernel) <| .kept <| .nil _
  exact ⟨put, ((strays_change_nothing s).2.2 ms padded put).1⟩

end PolledLink.Session
